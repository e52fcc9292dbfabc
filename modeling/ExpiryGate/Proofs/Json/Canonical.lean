import ExpiryGate.Proofs.Json.Compact
import ExpiryGate.Proofs.Json.ReadBack

namespace ExpiryGate.Json

section

variable {a b : Json}

/-- The canonical text is the plain text of the value with its members sorted by code units. -/
theorem text_eq_ofList (hkeys : a.Keyed List.Nodup) :
    a.text = String.ofList (arrange byUnits a).spell := by
  rw [text, canonical_eq_spell hkeys]

theorem toList_text (hkeys : a.Keyed List.Nodup) : a.text.toList = (arrange byUnits a).spell := by
  rw [text_eq_ofList hkeys, String.toList_ofList]

/-- Control characters are escaped, line feeds among them. -/
theorem visible_of_mem_text (hwhole : a.Whole) (hkeys : a.Keyed List.Nodup) :
    ∀ c ∈ a.text.toList, 0x20 ≤ c.toNat := by
  rw [toList_text hkeys]
  exact visible_of_mem_spell (hwhole.arrange permutes_byUnits hkeys)

/-- Values that are the same have the same members in the order of the text. -/
theorem text_eq_of_same (hsame : Same a b) (ha : a.Keyed List.Nodup) (hb : b.Keyed List.Nodup) :
    a.text = b.text := by
  have hsame' : Same (arrange byUnits a) (arrange byUnits b) :=
    ((same_arrange permutes_byUnits ha).symm.trans hsame).trans (same_arrange permutes_byUnits hb)
  have heq := (isSortedByUnits_arrange ha).eq_of_same hsame' (isSortedByUnits_arrange hb)
  rw [text_eq_ofList ha, text_eq_ofList hb, heq]

/-- The text reads back as the value in standard form. -/
theorem read?_text (hwhole : a.Whole) (hkeys : a.Keyed List.Nodup) :
    ∃ b, read? a.text = some b ∧ Same a b ∧ b.IsStandard := by
  have hsorted := (isSortedByUnits_arrange hkeys).nodup
  have hread := read?_spell (hwhole.arrange permutes_byUnits hkeys)
  refine ⟨_, by rw [text_eq_ofList hkeys, hread], ?_, isStandard_arrange hsorted⟩
  exact (same_arrange permutes_byUnits hkeys).trans (same_arrange permutes_byCodePoints hsorted)

/-- A value in standard form is read back as it is. -/
theorem read?_text_of_isStandard (hwhole : a.Whole) (hstandard : a.IsStandard) :
    read? a.text = some a := by
  obtain ⟨b, hread, hsame, hb⟩ := read?_text hwhole hstandard.nodup
  rw [hread, hstandard.eq_of_same hsame hb]

/-- Two values have one canonical text iff they differ in nothing but the order of members. -/
theorem text_eq_text_iff (ha : a.Whole) (hkeys : a.Keyed List.Nodup) (hb : b.Whole)
    (hkeys' : b.Keyed List.Nodup) : a.text = b.text ↔ Same a b := by
  refine ⟨fun htext => ?_, fun hsame => text_eq_of_same hsame hkeys hkeys'⟩
  obtain ⟨c, hread, hsame, _⟩ := read?_text ha hkeys
  obtain ⟨d, hread', hsame', _⟩ := read?_text hb hkeys'
  rw [htext, hread', Option.some.injEq] at hread
  subst hread
  exact hsame.trans hsame'.symm

end

/-- The text of a value without repeated keys is a canonical form of it. Behind the text stands one
    value only, with its members as the text has them: the same value, sorted by UTF-16 code units
    at every level. Reading gives it in standard form, without a bound on nesting, and that has the
    same text again. -/
theorem text_canonical_form {a : Json} (hwhole : a.Whole) (hkeys : a.Keyed List.Nodup) :
    (∀ c ∈ outsideStrings .outside a.text.toList, Text.isBlank c = false) ∧
      (∃ b, Same a b ∧ b.Whole ∧ b.IsSortedByUnits ∧
        ∀ c : Json, c.Whole → (c.spell = a.text.toList ↔ c = b)) ∧
      (∃ b, read? a.text = some b ∧ Same a b ∧ b.IsStandard ∧ b.text = a.text) ∧
      (a.IsStandard → read? a.text = some a) ∧
      ∀ b : Json, b.Whole → b.Keyed List.Nodup → (a.text = b.text ↔ Same a b) := by
  have hsorted := hwhole.arrange permutes_byUnits hkeys
  refine ⟨?_, ⟨arrange byUnits a, same_arrange permutes_byUnits hkeys, hsorted,
    isSortedByUnits_arrange hkeys, fun c hc => ?_⟩, ?_, read?_text_of_isStandard hwhole,
    fun b hb hkeys' => text_eq_text_iff hwhole hkeys hb hkeys'⟩
  · rw [toList_text hkeys]
    exact (isCompact_spell hsorted).2
  · rw [toList_text hkeys]
    exact ⟨eq_of_spell_eq hc hsorted, fun heq => by rw [heq]⟩
  · obtain ⟨b, hread, hsame, hstandard⟩ := read?_text hwhole hkeys
    exact ⟨b, hread, hsame, hstandard, (text_eq_of_same hsame hkeys hstandard.nodup).symm⟩

/-- In the text the last two members change places: a character beyond U+FFFF begins with a leading
    surrogate. -/
theorem text_canonical_form_example :
    let a : Json := .object [
      ("a", .array [.null, .object [], .number (.integer (-9007199254740992))]),
      ("a\n", .string "\t"),
      ("\uE000", .boolean true),
      ("😀", .boolean false)]
    (a.Whole ∧ a.IsStandard ∧ a.Keyed List.Nodup ∧ ¬ a.IsSortedByUnits) ∧
      (∃ b, Same a b ∧ b.IsSortedByUnits ∧ b.spell = a.text.toList) ∧ read? a.text = some a := by
  intro a
  have hwhole : a.Whole := by
    refine .object ?_
    simp only [List.forall_mem_cons, List.not_mem_nil, false_implies, implies_true, and_true]
    refine ⟨.array ?_, .string _, .boolean _, .boolean _⟩
    simp only [List.forall_mem_cons, List.not_mem_nil, false_implies, implies_true, and_true]
    exact ⟨.null, .object (by simp), .number (by decide)⟩
  have hstandard : a.IsStandard := by
    refine .object (by decide) ?_
    simp only [List.forall_mem_cons, List.not_mem_nil, false_implies, implies_true, and_true]
    refine ⟨.array ?_, .string _, .boolean _, .boolean _⟩
    simp only [List.forall_mem_cons, List.not_mem_nil, false_implies, implies_true, and_true]
    exact ⟨.null, .object (by decide) (by simp), .number _⟩
  have hunsorted : ¬ a.IsSortedByUnits := by
    intro h
    have hkeyed : Keyed _ (.object _) := h
    cases hkeyed with
    | object hkeys _ => exact absurd hkeys (by decide)
  obtain ⟨_, ⟨b, hsame, hb, hsorted, hspell⟩, _, hread, _⟩ :=
    text_canonical_form hwhole hstandard.nodup
  exact ⟨⟨hwhole, hstandard, hstandard.nodup, hunsorted⟩,
    ⟨b, hsame, hsorted, (hspell b hb).2 rfl⟩, hread hstandard⟩

end ExpiryGate.Json
