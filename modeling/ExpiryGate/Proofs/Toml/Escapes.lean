import ExpiryGate.Proofs.Json.Strings
import ExpiryGate.Toml.Quoted
import ExpiryGate.Toml.Writer

namespace ExpiryGate

theorem Text.hexValue?_toUpper_digitChar (n : Nat) :
    hexValue? (Nat.digitChar (n % 16)).toUpper = some (n % 16) := by
  have hall : ∀ d < 16, hexValue? (Nat.digitChar d).toUpper = some d := by decide
  exact hall (n % 16) (Nat.mod_lt n (by decide))

namespace Toml

theorem isPlain_of_not_isControl {c : Char} (hcontrol : isControl c = false) (hfeed : c ≠ '\n') :
    isPlain c = true := by
  simp only [isControl, Bool.or_eq_false_iff, Bool.and_eq_false_iff, decide_eq_false_iff_not,
    ne_eq, Classical.not_not] at hcontrol
  obtain ⟨(hlow | htab) | hfeed', hdelete⟩ := hcontrol
  · simp [isPlain, hdelete]
    omega
  · simp [isPlain, htab]
  · exact absurd hfeed' hfeed

theorem ne_of_isPlain {c : Char} (hplain : isPlain c = true) : c ≠ '\n' ∧ c ≠ '\r' := by
  constructor <;> rintro rfl <;> exact absurd hplain (by decide)

/-- Apart from quotes and line feeds, a character is written behind a backslash by a letter or by
    its code, or as it is. -/
theorem escapeChar_cases {c : Char} (hquote : c ≠ '"') (hfeed : c ≠ '\n') :
    (∃ letter, escape? letter = some (.char c) ∧ escapeChar c = ['\\', letter]) ∨
      c.toNat < 0xD800 ∧ escapeChar c = '\\' :: 'u' :: Text.hexUpper 4 c.toNat ∨
      c ≠ '\\' ∧ isPlain c = true ∧ escapeChar c = [c] := by
  by_cases hletter : c ∈ ['\x08', '\t', '\x0c', '\r', '\\']
  · left
    simp only [List.mem_cons, List.not_mem_nil, or_false] at hletter
    rcases hletter with rfl | rfl | rfl | rfl | rfl
    · exact ⟨'b', rfl, rfl⟩
    · exact ⟨'t', rfl, rfl⟩
    · exact ⟨'f', rfl, rfl⟩
    · exact ⟨'r', rfl, rfl⟩
    · exact ⟨'\\', rfl, rfl⟩
  · right
    simp only [List.mem_cons, List.not_mem_nil, or_false, not_or] at hletter
    cases hcontrol : isControl c with
    | true =>
      left
      refine ⟨?_, by simp [escapeChar, hletter, hcontrol]⟩
      simp only [isControl, Bool.or_eq_true, Bool.and_eq_true, decide_eq_true_eq] at hcontrol
      rcases hcontrol with ⟨⟨hlow, _⟩, _⟩ | rfl
      · omega
      · decide
    | false =>
      exact .inr ⟨hletter.2.2.2.2, isPlain_of_not_isControl hcontrol hfeed,
        by simp [escapeChar, hletter, hcontrol]⟩

/-- An escape starts with a character that closes no string. -/
theorem escapeChar_opens {c : Char} (hquote : c ≠ '"') (hfeed : c ≠ '\n') :
    ∃ d tail, escapeChar c = d :: tail ∧ isPlain d = true ∧ d ≠ '"' := by
  have hbackslash : isPlain '\\' = true ∧ '\\' ≠ '"' := by decide
  rcases escapeChar_cases hquote hfeed with ⟨letter, _, hescape⟩ | ⟨_, hescape⟩ |
    ⟨_, hplain, hescape⟩
  · exact ⟨'\\', _, hescape, hbackslash⟩
  · exact ⟨'\\', _, hescape, hbackslash⟩
  · exact ⟨c, _, hescape, hplain, hquote⟩

/-- Four hexadecimal digits are the code of a character of the first plane. -/
theorem code_eq (n : Nat) (h : n < 0xD800) :
    16 * (16 * (16 * (n / 16 / 16 / 16 % 16) + n / 16 / 16 % 16) + n / 16 % 16) + n % 16 = n := by
  omega

/-- Four hexadecimal digits are read as the character that they number. -/
theorem readBasic_code (done rest : List Char) {c : Char} (h : c.toNat < 0xD800) :
    readBasic done (.code 4 0) (Text.hexUpper 4 c.toNat ++ rest) =
      readBasic (c :: done) .plain rest := by
  simp only [Text.hexUpper, Text.hexLower, List.nil_append, List.cons_append, List.map_cons,
    List.map_nil, readBasic, Text.hexValue?_toUpper_digitChar]
  simp [code_eq c.toNat h, Text.scalar?_toNat]

theorem readBlock_code (done rest : List Char) {c : Char} (h : c.toNat < 0xD800) :
    readBlock done (.code 4 0) (Text.hexUpper 4 c.toNat ++ rest) =
      readBlock (c :: done) (.plain false) rest := by
  simp only [Text.hexUpper, Text.hexLower, List.nil_append, List.cons_append, List.map_cons,
    List.map_nil, readBlock, Text.hexValue?_toUpper_digitChar]
  simp [code_eq c.toNat h, Text.scalar?_toNat]

/-- The escape of each character is undone on its own. -/
theorem readBasic_escapeBasic (done rest : List Char) (c : Char) :
    readBasic done .plain (escapeBasic c ++ rest) = readBasic (c :: done) .plain rest := by
  unfold escapeBasic
  by_cases hquote : c = '"'
  · simp [hquote, readBasic, escape?]
  by_cases hfeed : c = '\n'
  · simp [hfeed, readBasic, escape?]
  rw [if_neg hquote, if_neg hfeed]
  rcases escapeChar_cases hquote hfeed with ⟨letter, hletter, hescape⟩ | ⟨hcode, hescape⟩ |
    ⟨hbackslash, hplain, hescape⟩
  · simp [hescape, readBasic, hletter]
  · simpa [hescape, readBasic, escape?] using readBasic_code done rest hcode
  · simp [hescape, readBasic, hquote, hbackslash, hplain]

/-- A string on one line is read up to its closing quote. -/
theorem readBasic_flatMap_escapeBasic (done rest cs : List Char) :
    readBasic done .plain (cs.flatMap escapeBasic ++ '"' :: rest) =
      some (String.ofList (done.reverse ++ cs), rest) := by
  induction cs generalizing done with
  | nil => simp [readBasic]
  | cons c cs ih =>
    rw [List.flatMap_cons, List.append_assoc, readBasic_escapeBasic, ih]
    simp

/-- A string without escapes is read up to the first quote. -/
theorem readLiteral_append (done rest : List Char) {cs : List Char}
    (hcs : ∀ c ∈ cs, isPlain c = true ∧ c ≠ '\'') :
    readLiteral done (cs ++ '\'' :: rest) = some (String.ofList (done.reverse ++ cs), rest) := by
  induction cs generalizing done with
  | nil => simp [readLiteral]
  | cons c cs ih =>
    obtain ⟨hplain, hquote⟩ := hcs c List.mem_cons_self
    rw [List.cons_append, readLiteral, if_neg hquote, if_pos hplain,
      ih _ fun d hd => hcs d (List.mem_cons_of_mem c hd)]
    simp

end Toml

end ExpiryGate
