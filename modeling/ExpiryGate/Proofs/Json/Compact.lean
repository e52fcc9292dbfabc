import ExpiryGate.Proofs.Json.Spelling

namespace ExpiryGate

theorem Text.ascii_of_mem_hexLower {width n : Nat} {c : Char} (h : c ∈ hexLower width n) :
    0x20 ≤ c.toNat ∧ c ≠ '"' ∧ c ≠ '\\' := by
  have hdigit : ∀ d < 16, 0x20 ≤ (Nat.digitChar d).toNat ∧ Nat.digitChar d ≠ '"' ∧
      Nat.digitChar d ≠ '\\' := by
    decide
  induction width generalizing n with
  | zero => simp [hexLower] at h
  | succ width ih =>
    rcases List.mem_append.1 h with hinit | hlast
    · exact ih hinit
    · rw [List.mem_singleton.1 hlast]
      exact hdigit _ (Nat.mod_lt n (by decide))

theorem Decimal.ascii_of_mem_signed {n : Int} {c : Char} (h : c ∈ signed n) :
    c ≠ '"' ∧ 0x20 < c.toNat ∧ c.toNat < 0x7F := by
  cases n with
  | ofNat n => exact ascii_of_isDigit (isDigit_of_mem_digits h)
  | negSucc n =>
    rcases List.mem_cons.1 h with rfl | h
    · decide
    · exact ascii_of_isDigit (isDigit_of_mem_digits h)

namespace Json

/-- Where in a text a character stands. -/
inductive Place where
  | outside
  /-- In a string. -/
  | inside
  /-- In a string, behind a backslash. -/
  | escaped
deriving DecidableEq

/-- The place behind a character. -/
def Place.next : Place → Char → Place
  | .outside, c => if c = '"' then .inside else .outside
  | .inside, c => if c = '"' then .outside else if c = '\\' then .escaped else .inside
  | .escaped, _ => .inside

/-- The characters of a text that are not in a string. -/
def outsideStrings : Place → List Char → List Char
  | _, [] => []
  | place, c :: cs =>
    if place = .outside then c :: outsideStrings (place.next c) cs
    else outsideStrings (place.next c) cs

/-- What stands outside of strings in a longer text depends on where the first part ends. -/
theorem outsideStrings_append (place : Place) (xs ys : List Char) :
    outsideStrings place (xs ++ ys) =
      outsideStrings place xs ++ outsideStrings (xs.foldl Place.next place) ys := by
  induction xs generalizing place with
  | nil => rfl
  | cons c xs ih =>
    simp only [List.cons_append, outsideStrings, ih, List.foldl_cons]
    split <;> rfl

/-- All strings that begin in the text end there, and no white space stands outside of them. -/
def IsCompact (cs : List Char) : Prop :=
  cs.foldl Place.next .outside = .outside ∧
    ∀ c ∈ outsideStrings .outside cs, Text.isBlank c = false

/-- Compact texts can be put next to each other: each of them ends outside of strings. -/
theorem IsCompact.append {xs ys : List Char} (hxs : IsCompact xs) (hys : IsCompact ys) :
    IsCompact (xs ++ ys) := by
  refine ⟨by rw [List.foldl_append, hxs.1, hys.1], fun c hc => ?_⟩
  rw [outsideStrings_append, hxs.1, List.mem_append] at hc
  exact hc.elim (hxs.2 c) (hys.2 c)

/-- Visible characters without a quote begin no string and are no white space. -/
theorem isCompact_of_ascii {cs : List Char}
    (hcs : ∀ c ∈ cs, c ≠ '"' ∧ 0x20 < c.toNat ∧ c.toNat < 0x7F) : IsCompact cs := by
  induction cs with
  | nil => exact ⟨rfl, by simp [outsideStrings]⟩
  | cons c cs ih =>
    obtain ⟨hquote, hlow, hhigh⟩ := hcs c List.mem_cons_self
    have hone : IsCompact [c] := by
      refine ⟨by simp [Place.next, hquote], ?_⟩
      simpa [outsideStrings] using Text.isBlank_eq_false_of_ascii hlow hhigh
    exact hone.append (ih fun d hd => hcs d (List.mem_cons_of_mem _ hd))

/-- Text without quotes and backslashes stays in a string. -/
theorem foldl_next_of_plain {cs : List Char} (hcs : ∀ c ∈ cs, c ≠ '"' ∧ c ≠ '\\') :
    cs.foldl Place.next .inside = .inside ∧ outsideStrings .inside cs = [] := by
  induction cs with
  | nil => exact ⟨rfl, rfl⟩
  | cons c cs ih =>
    obtain ⟨hquote, hbackslash⟩ := hcs c List.mem_cons_self
    have hrest := ih fun d hd => hcs d (List.mem_cons_of_mem _ hd)
    simpa [Place.next, outsideStrings, hquote, hbackslash] using hrest

/-- The escape of a character does not end its string. -/
theorem foldl_next_escape (c : Char) :
    (escape c).foldl Place.next .inside = .inside ∧ outsideStrings .inside (escape c) = [] := by
  rcases escape_cases c with ⟨letter, _, _, _, hescape⟩ | ⟨_, hescape⟩ |
    ⟨hquote, hbackslash, _, hescape⟩
  · simp [hescape, Place.next, outsideStrings]
  · have hcode : (Text.hexLower 4 c.toNat).foldl Place.next .inside = .inside ∧
        outsideStrings .inside (Text.hexLower 4 c.toNat) = [] :=
      foldl_next_of_plain fun d hd => (Text.ascii_of_mem_hexLower hd).2
    simpa [hescape, Place.next, outsideStrings] using hcode
  · rw [hescape]
    exact foldl_next_of_plain (by simp [hquote, hbackslash])

/-- A quoted text is compact, however many blanks it quotes: its closing quote is the first that is
    not escaped. -/
theorem isCompact_quote (s : String) : IsCompact (quote s) := by
  have hbody : ∀ cs : List Char, (cs.flatMap escape).foldl Place.next .inside = .inside ∧
      outsideStrings .inside (cs.flatMap escape) = [] := by
    intro cs
    induction cs with
    | nil => exact ⟨rfl, rfl⟩
    | cons c cs ih =>
      obtain ⟨hplace, hout⟩ := foldl_next_escape c
      rw [List.flatMap_cons, List.foldl_append, outsideStrings_append, hplace, hout]
      exact ih
  obtain ⟨hplace, hout⟩ := hbody s.toList
  constructor
  · simp [quote, Place.next, hplace]
  · simp [quote, outsideStrings, Place.next, outsideStrings_append, hplace, hout]
    decide

/-- Marks and words are visible characters and no quotes. -/
theorem ascii_of_mem_marks {c : Char} (hc : c ∈ ['[', ']', '\x7b', '\x7d', ',', ':']) :
    c ≠ '"' ∧ 0x20 < c.toNat ∧ c.toNat < 0x7F := by
  have hall : ['[', ']', '\x7b', '\x7d', ',', ':'].all
      fun c => decide (c ≠ '"' ∧ 0x20 < c.toNat ∧ c.toNat < 0x7F) := by
    decide
  exact of_decide_eq_true (List.all_eq_true.1 hall c hc)

theorem ascii_of_mem_words {word : String} (hword : word ∈ ["null", "true", "false"]) {c : Char}
    (hc : c ∈ word.toList) : c ≠ '"' ∧ 0x20 < c.toNat ∧ c.toNat < 0x7F := by
  have hall : ["null", "true", "false"].all fun word =>
      word.toList.all fun c => decide (c ≠ '"' ∧ 0x20 < c.toNat ∧ c.toNat < 0x7F) := by
    decide
  exact of_decide_eq_true (List.all_eq_true.1 (List.all_eq_true.1 hall word hword) c hc)

/-- No white space stands outside of the strings of a plain text. -/
theorem isCompact_spell {a : Json} (ha : a.Whole) : IsCompact a.spell := by
  refine spell_induction IsCompact.append (fun c hc => ?_) (fun word hword => ?_) (fun n => ?_)
    isCompact_quote ha
  · exact isCompact_of_ascii (by simpa using ascii_of_mem_marks hc)
  · exact isCompact_of_ascii fun c hc => ascii_of_mem_words hword hc
  · exact isCompact_of_ascii fun c hc => Decimal.ascii_of_mem_signed hc

/-- An escape writes a control character without using one. -/
theorem visible_of_mem_escape {c d : Char} (hd : d ∈ escape c) : 0x20 ≤ d.toNat := by
  rcases escape_cases c with ⟨letter, _, hletter, _, hescape⟩ | ⟨_, hescape⟩ |
    ⟨_, _, hvisible, hescape⟩
  · simp only [hescape, List.mem_cons, List.not_mem_nil, or_false] at hd
    rcases hd with rfl | rfl
    · decide
    · exact hletter
  · simp only [hescape, List.mem_cons] at hd
    rcases hd with rfl | rfl | hd
    · decide
    · decide
    · exact (Text.ascii_of_mem_hexLower hd).1
  · rw [hescape, List.mem_singleton] at hd
    rw [hd]
    exact hvisible

/-- A quoted text holds no control characters, not even where the text itself does. -/
theorem visible_of_mem_quote {s : String} {c : Char} (hc : c ∈ quote s) : 0x20 ≤ c.toNat := by
  simp only [quote, List.mem_cons, List.mem_append, List.mem_flatMap, List.not_mem_nil,
    or_false] at hc
  rcases hc with rfl | ⟨d, _, hc⟩ | rfl
  · decide
  · exact visible_of_mem_escape hc
  · decide

/-- Control characters are escaped in strings, and there are none elsewhere. -/
theorem visible_of_mem_spell {a : Json} (ha : a.Whole) : ∀ c ∈ a.spell, 0x20 ≤ c.toNat := by
  refine spell_induction (P := fun cs => ∀ c ∈ cs, 0x20 ≤ c.toNat) (fun hxs hys c hc => ?_)
    (fun c hc => ?_) (fun word hword c hc => ?_) (fun n c hc => ?_)
    (fun s c => visible_of_mem_quote) ha
  · exact (List.mem_append.1 hc).elim (hxs c) (hys c)
  · simpa using Nat.le_of_lt (ascii_of_mem_marks hc).2.1
  · exact Nat.le_of_lt (ascii_of_mem_words hword hc).2.1
  · exact Nat.le_of_lt (Decimal.ascii_of_mem_signed hc).2.1

end Json

end ExpiryGate
