import ExpiryGate.Json.Canonical
import ExpiryGate.Json.Reader

namespace ExpiryGate

namespace Text

theorem hexValue?_digitChar {d : Nat} (h : d < 16) : hexValue? (Nat.digitChar d) = some d := by
  have hall : ∀ d < 16, hexValue? (Nat.digitChar d) = some d := by decide
  exact hall d h

theorem scalar?_toNat (c : Char) : scalar? c.toNat = some c := by
  have hvalid : c.toNat.isValidChar := c.valid
  simp [scalar?, hvalid]

end Text

namespace Json

/-- A character is written behind a backslash by a letter or by its code, or it is written as it
    is. -/
theorem escape_cases (c : Char) :
    (∃ letter, letter ≠ 'u' ∧ 0x20 ≤ letter.toNat ∧ escaped? letter = some c ∧
        escape c = ['\\', letter]) ∨
      c.toNat < 0x20 ∧ escape c = '\\' :: 'u' :: Text.hexLower 4 c.toNat ∨
      c ≠ '"' ∧ c ≠ '\\' ∧ 0x20 ≤ c.toNat ∧ escape c = [c] := by
  by_cases hletter : c ∈ ['"', '\\', '\x08', '\t', '\n', '\x0c', '\r']
  · left
    simp only [List.mem_cons, List.not_mem_nil, or_false] at hletter
    rcases hletter with rfl | rfl | rfl | rfl | rfl | rfl | rfl <;>
      exact ⟨_, by decide, by decide, by decide, rfl⟩
  · right
    simp only [List.mem_cons, List.not_mem_nil, or_false, not_or] at hletter
    by_cases hcontrol : c.toNat < 0x20
    · exact .inl ⟨hcontrol, by simp [escape, hletter, hcontrol]⟩
    · exact .inr ⟨hletter.1, hletter.2.1, by omega, by simp [escape, hletter, hcontrol]⟩

/-- Four hexadecimal digits give the character of a code point that is no surrogate. -/
theorem readString_code (done rest : List Char) {c : Char} (h : c.toNat < 0xD800) :
    readString done (.code none 4 0) (Text.hexLower 4 c.toNat ++ rest) =
      readString (c :: done) .plain rest := by
  have hvalue : 16 * (16 * (16 * (c.toNat / 16 / 16 / 16 % 16) + c.toNat / 16 / 16 % 16) +
      c.toNat / 16 % 16) + c.toNat % 16 = c.toNat := by
    omega
  have hlead : ¬ (0xD800 ≤ c.toNat ∧ c.toNat ≤ 0xDBFF) := by
    omega
  have hdigit : ∀ n, Text.hexValue? (Nat.digitChar (n % 16)) = some (n % 16) :=
    fun n => Text.hexValue?_digitChar (Nat.mod_lt n (by decide))
  simp only [Text.hexLower, List.nil_append, List.cons_append, readString, hdigit]
  simp only [Nat.mul_zero, Nat.zero_add, hvalue, if_neg hlead, Text.scalar?_toNat]
  simp

/-- Reading undoes the escape of a character. -/
theorem readString_escape (done rest : List Char) (c : Char) :
    readString done .plain (escape c ++ rest) = readString (c :: done) .plain rest := by
  rcases escape_cases c with ⟨letter, hu, _, hletter, hescape⟩ | ⟨hcontrol, hescape⟩ |
    ⟨hquote, hbackslash, hvisible, hescape⟩
  · simp [hescape, readString, hu, hletter]
  · simpa [hescape, readString] using readString_code done rest (c := c) (by omega)
  · simp [hescape, readString, hquote, hbackslash, Nat.not_lt.2 hvisible]

/-- The reader undoes the escape of each character on its own and stops at the first quote that is
    not escaped. -/
theorem readString_flatMap_escape (done rest cs : List Char) :
    readString done .plain (cs.flatMap escape ++ '"' :: rest) =
      some (String.ofList (done.reverse ++ cs), rest) := by
  induction cs generalizing done with
  | nil => simp [readString]
  | cons c cs ih =>
    rw [List.flatMap_cons, List.append_assoc, readString_escape, ih]
    simp

/-- A quoted text is read up to its closing quote. -/
theorem readString_quote (s : String) (rest : List Char) :
    ∃ body, quote s ++ rest = '"' :: body ∧ readString [] .plain body = some (s, rest) := by
  refine ⟨s.toList.flatMap escape ++ '"' :: rest, by simp [quote], ?_⟩
  rw [readString_flatMap_escape]
  simp

end Json

end ExpiryGate
