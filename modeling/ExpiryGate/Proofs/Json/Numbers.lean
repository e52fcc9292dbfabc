import ExpiryGate.Json.Canonical
import ExpiryGate.Json.Reader
import ExpiryGate.Proofs.Decimal.Whole

namespace ExpiryGate.Json

/-- Integers up to this magnitude are doubles that differ from each other. -/
def maxWhole : Nat := twoPow 53

/-- The digits of an integer are the canonical text of its double. -/
theorem ofDouble_ofInt {n : Int} (hn : n.natAbs ≤ maxWhole) :
    ofDouble (.ofInt n) = Decimal.signed n := by
  have hpositional : ∀ point, 0 < point → point ≤ 16 → numberLayout.positional point = true := by
    intro point hlow hhigh
    simp [numberLayout]
    omega
  cases n with
  | ofNat m =>
    cases m with
    | zero => decide
    | succ m =>
      obtain ⟨mantissa, exponent, hdouble, hrender⟩ :=
        numberLayout.render_nearest rfl hpositional false (Nat.succ_pos m) hn
      change ofDouble (.nearest false (m + 1) 1) = Decimal.digits (m + 1)
      rw [hdouble]
      exact hrender
  | negSucc m =>
    obtain ⟨mantissa, exponent, hdouble, hrender⟩ :=
      numberLayout.render_nearest rfl hpositional true (Nat.succ_pos m) hn
    have hofInt : Binary64.ofInt (.negSucc m) = .nearest true (m + 1) 1 := by
      simp [Binary64.ofInt, Int.negSucc_lt_zero]
    rw [hofInt, hdouble]
    exact hrender

/-- What can follow a value: the end, a comma or a closing bracket. A number has no closing
    character of its own, so it is read in front of this. -/
def Ended (rest : List Char) : Prop :=
  ∀ c, rest.head? = some c → c = ',' ∨ c = ']' ∨ c = '\x7d'

theorem ended_nil : Ended [] := by
  intro c h
  cases h

theorem ended_cons {c : Char} (rest : List Char) (h : c = ',' ∨ c = ']' ∨ c = '\x7d') :
    Ended (c :: rest) := by
  intro d hd
  cases hd
  exact h

/-- No digit, point or exponent follows a value. -/
theorem Ended.head {rest : List Char} (hended : Ended rest) {c : Char}
    (hhead : rest.head? = some c) :
    c.isDigit = false ∧ c ≠ '.' ∧ c ≠ 'e' ∧ c ≠ 'E' := by
  rcases hended c hhead with rfl | rfl | rfl <;> decide

/-- The reader takes all the digits of a number and stops at what follows the value. -/
theorem takeDigits_append {run rest : List Char} (hrun : ∀ c ∈ run, c.isDigit = true)
    (hended : Ended rest) : takeDigits (run ++ rest) = (run, rest) := by
  obtain ⟨htake, hdrop⟩ :=
    Decimal.takeWhile_isDigit_append hrun fun c hc => (hended.head hc).1
  rw [takeDigits, htake, hdrop]

theorem readFraction_of_ended {rest : List Char} (hended : Ended rest) :
    readFraction rest = some ([], rest) := by
  unfold readFraction
  split
  · exact absurd rfl (hended.head rfl).2.1
  · rfl

theorem readExponent_of_ended {rest : List Char} (hended : Ended rest) :
    readExponent rest = some (none, rest) := by
  cases rest with
  | nil => rfl
  | cons c rest =>
    obtain ⟨_, _, he, hE⟩ := hended.head rfl
    simp [readExponent, he, hE]

theorem fits_of_natAbs_le {n : Int} (hn : n.natAbs ≤ maxWhole) : fits 64 n = true := by
  have hmax : maxWhole = 9007199254740992 := rfl
  have hbound : twoPow (64 - 1) = 9223372036854775808 := rfl
  simp only [fits, fitsSigned, hbound, Bool.or_eq_true, Bool.and_eq_true, decide_eq_true_eq]
  omega

/-- A run of digits without a leading zero is read as an integer, behind its sign if it has one. -/
theorem readNumber_run {negative : Bool} {run rest : List Char} {n : Number}
    (hended : Ended rest) (hrun : ∀ c ∈ run, c.isDigit = true) (hne : run ≠ [])
    (hlead : ¬ (run.head? = some '0' ∧ 1 < run.length))
    (hparts : Number.ofParts? negative run [] none = some n) :
    readNumber ((if negative then ['-'] else []) ++ (run ++ rest)) = some (n, rest) := by
  have hsign : ∀ tail, run ++ rest ≠ '-' :: tail := by
    intro tail htail
    cases run with
    | nil => exact hne rfl
    | cons c run =>
      have hdigit := hrun c List.mem_cons_self
      rw [List.cons_append, List.cons.injEq] at htail
      rw [htail.1] at hdigit
      exact absurd hdigit (by decide)
  cases negative
  case' false => rw [if_neg (by decide), List.nil_append]
  case' true => rw [if_pos rfl, List.singleton_append]
  all_goals
    unfold readNumber
    simp only
    rw [takeDigits_append hrun hended]
    refine (if_neg (not_or.2 ⟨hne, hlead⟩)).trans ?_
    refine Option.bind_eq_some_iff.2 ⟨([], rest), readFraction_of_ended hended, ?_⟩
    refine Option.bind_eq_some_iff.2 ⟨(none, rest), readExponent_of_ended hended, ?_⟩
    exact Option.bind_eq_some_iff.2 ⟨n, hparts, rfl⟩

/-- Digits behind a sign are an integer, except for a zero with a minus sign. -/
theorem Number.ofParts?_digits {negative : Bool} {m : Nat} (hm : m ≤ maxWhole)
    (hzero : negative = true → m ≠ 0) :
    ofParts? negative (Decimal.digits m) [] none =
      some (.integer (if negative then -(m : Int) else m)) := by
  have hfits : fits 64 (if negative then -(m : Int) else m) = true := by
    apply fits_of_natAbs_le
    cases negative <;> simpa using hm
  have hsign : ¬ (negative = true ∧ (if negative then -(m : Int) else m) = 0) := by
    rintro ⟨rfl, hnone⟩
    have := hzero rfl
    simp at hnone
    omega
  simp only [ofParts?, Decimal.value_digits]
  rw [if_pos ⟨trivial, trivial, hfits, hsign⟩]

/-- An integer is read back in front of what can follow it. -/
theorem readNumber_signed {n : Int} {rest : List Char} (hn : n.natAbs ≤ maxWhole)
    (hended : Ended rest) :
    readNumber (Decimal.signed n ++ rest) = some (.integer n, rest) := by
  cases n with
  | ofNat m =>
    have hparts : Number.ofParts? false (Decimal.digits m) [] none = some (.integer m) :=
      Number.ofParts?_digits hn (by simp)
    exact readNumber_run hended (fun c hc => Decimal.isDigit_of_mem_digits hc)
      (Decimal.digits_ne_nil m) (Decimal.digits_not_padded m) hparts
  | negSucc m =>
    have hparts : Number.ofParts? true (Decimal.digits (m + 1)) [] none =
        some (.integer (.negSucc m)) :=
      Number.ofParts?_digits hn (by simp)
    exact readNumber_run hended (fun c hc => Decimal.isDigit_of_mem_digits hc)
      (Decimal.digits_ne_nil _) (Decimal.digits_not_padded _) hparts

end ExpiryGate.Json
