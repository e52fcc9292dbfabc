import ExpiryGate.Text.Utf16

namespace ExpiryGate.Text

/-- No character has a surrogate as its code point. -/
theorem toNat_cases (c : Char) : c.toNat < 0xD800 ∨ 0xDFFF < c.toNat ∧ c.toNat < 0x110000 :=
  c.valid

theorem units_ne_nil (c : Char) : units c ≠ [] := by
  unfold units
  simp only
  split <;> simp

/-- The first unit of a text tells whether its first character has one unit or two, so the units of
    this character can be told from those behind it. -/
theorem units_append_inj {c d : Char} {cs ds : List Nat} (h : units c ++ cs = units d ++ ds) :
    c = d ∧ cs = ds := by
  rw [← Char.toNat_inj]
  have hc := toNat_cases c
  have hd := toNat_cases d
  unfold units at h
  simp only at h
  split at h <;> split at h <;> simp only [List.cons_append, List.nil_append, List.cons.injEq] at h
  · exact h
  · omega
  · omega
  · obtain ⟨hlead, htrail, hrest⟩ := h
    exact ⟨by omega, hrest⟩

/-- Different sequences of characters have different code units, by induction on one of them. -/
theorem flatMap_units_injective : Function.Injective (List.flatMap units) := by
  intro cs
  induction cs with
  | nil =>
    intro ds h
    cases ds with
    | nil => rfl
    | cons d ds => simp [units_ne_nil] at h
  | cons c cs ih =>
    intro ds h
    cases ds with
    | nil => simp [units_ne_nil] at h
    | cons d ds =>
      obtain ⟨hhead, htail⟩ := units_append_inj h
      rw [hhead, ih htail]

/-- Code units determine their text, so that sorting by them never finds two keys equal that differ.
    -/
theorem utf16_injective : Function.Injective utf16 :=
  fun _ _ h => String.toList_injective (flatMap_units_injective h)

end ExpiryGate.Text
