import ExpiryGate.Proofs.Json.Arranged
import ExpiryGate.Proofs.Json.Numbers
import ExpiryGate.Proofs.Json.Strings
import ExpiryGate.Text.Blank

namespace ExpiryGate.Json

/-- Every number in the value is an integer that doubles tell from its neighbours. -/
inductive Whole : Json → Prop
  | null : Whole .null
  | boolean (b : Bool) : Whole (.boolean b)
  | number {n : Int} (hn : n.natAbs ≤ maxWhole) : Whole (.number (.integer n))
  | string (s : String) : Whole (.string s)
  | array {items : List Json} (hitems : ∀ item ∈ items, Whole item) : Whole (.array items)
  | object {members : List (String × Json)} (hmembers : ∀ m ∈ members, Whole m.2) :
      Whole (.object members)

/-- Reordering members changes no number. -/
theorem Whole.arrange {order : List (String × Json) → List (String × Json)}
    (horder : Permutes order) {a : Json} (hwhole : a.Whole) (hkeys : a.Keyed List.Nodup) :
    (arrange order a).Whole := by
  induction hkeys with
  | null => exact .null
  | boolean b => exact .boolean b
  | number n => exact hwhole
  | string s => exact .string s
  | array _ ih =>
    cases hwhole with
    | array hitems =>
    rw [arrange_array]
    refine .array fun item hitem => ?_
    obtain ⟨a, ha, rfl⟩ := List.mem_map.1 hitem
    exact ih a ha (hitems a ha)
  | @object members hnodup _ ih =>
    cases hwhole with
    | object hmembers =>
    have hnodup' := nodup_keys_map (Json.arrange order) hnodup
    rw [arrange_object]
    refine .object fun m hm => ?_
    obtain ⟨n, hn, rfl⟩ := List.mem_map.1 ((horder _ hnodup').mem_iff.1 hm)
    exact ih n hn (hmembers n hn)

mutual

/-- The plain text of a value: no white space, and the members of each object in their order. The
    canonical text is that of the value with its members sorted, which parts the sorting from all
    that concerns the text itself. -/
def spell : Json → List Char
  | .null => "null".toList
  | .boolean b => if b then "true".toList else "false".toList
  | .number n => n.canonical
  | .string s => quote s
  | .array items => '[' :: (commaSeparated (spellItems items) ++ [']'])
  | .object members => '\x7b' :: (commaSeparated (spellMembers members) ++ ['\x7d'])

/-- The plain texts of the items. -/
def spellItems : List Json → List (List Char)
  | [] => []
  | item :: items => item.spell :: spellItems items

/-- The plain texts of the members. -/
def spellMembers : List (String × Json) → List (List Char)
  | [] => []
  | m :: members => spellMember m :: spellMembers members

/-- A quoted key, a colon and the value. -/
def spellMember : String × Json → List Char
  | (key, value) => quote key ++ ':' :: value.spell

end

theorem spell_array (items : List Json) :
    spell (.array items) = '[' :: (commaSeparated (items.map spell) ++ [']']) := by
  have hitems : spellItems items = items.map spell := by
    induction items with
    | nil => rfl
    | cons item items ih => rw [spellItems, ih, List.map_cons]
  rw [spell, hitems]

theorem spell_object (members : List (String × Json)) :
    spell (.object members) =
      '\x7b' :: (commaSeparated (members.map spellMember) ++ ['\x7d']) := by
  have hmembers : spellMembers members = members.map spellMember := by
    induction members with
    | nil => rfl
    | cons m members ih => rw [spellMembers, ih, List.map_cons]
  rw [spell, hmembers]

/-- An integer that is a double is written with its own digits: the fewest that read back as this
    double are all of them. -/
theorem spell_integer {n : Int} (hn : n.natAbs ≤ maxWhole) :
    spell (.number (.integer n)) = Decimal.signed n :=
  ofDouble_ofInt hn

theorem canonical_array (items : List Json) :
    canonical (.array items) = '[' :: (commaSeparated (items.map canonical) ++ [']']) := by
  have hitems : canonicalItems items = items.map canonical := by
    induction items with
    | nil => rfl
    | cons item items ih => rw [canonicalItems, ih, List.map_cons]
  rw [canonical, hitems]

/-- The canonical text of an object: its members are sorted only after they have been written. -/
theorem canonical_object (members : List (String × Json)) :
    canonical (.object members) =
      '\x7b' :: (commaSeparated
        ((sortMembers (members.map canonicalMember)).map Prod.snd) ++ ['\x7d']) := by
  have hmembers : canonicalMembers members = members.map canonicalMember := by
    induction members with
    | nil => rfl
    | cons m members ih => rw [canonicalMembers, ih, List.map_cons]
  rw [canonical, hmembers]

/-- Sorting texts of members is sorting the members, since the order looks at nothing but keys. -/
theorem canonical_eq_spell {a : Json} (ha : a.Keyed List.Nodup) :
    a.canonical = (arrange byUnits a).spell := by
  induction ha with
  | null => rfl
  | boolean b => rfl
  | number n => rfl
  | string s => rfl
  | @array items _ ih =>
    rw [canonical_array, arrange_array, spell_array, List.map_map]
    have hitems : items.map canonical = items.map (spell ∘ arrange byUnits) :=
      List.map_congr_left ih
    rw [hitems]
  | @object members _ _ ih =>
    have hsorted : sortMembers (members.map canonicalMember) =
        (byUnits members).map canonicalMember := by
      unfold sortMembers byUnits
      refine (List.map_mergeSort ?_).symm
      rintro ⟨_, _⟩ _ ⟨_, _⟩ _
      rfl
    have harranged : byUnits (members.map fun m => (m.1, arrange byUnits m.2)) =
        (byUnits members).map fun m => (m.1, arrange byUnits m.2) := by
      generalize arrange byUnits = f
      unfold byUnits
      refine (List.map_mergeSort ?_).symm
      intro a _ b _
      rfl
    have hpieces : (byUnits members).map (Prod.snd ∘ canonicalMember) =
        (byUnits members).map (spellMember ∘ fun m => (m.1, arrange byUnits m.2)) := by
      refine List.map_congr_left fun m hm => ?_
      have hvalue := ih m (List.mem_mergeSort.1 hm)
      obtain ⟨key, value⟩ := m
      simp only [Function.comp_apply, canonicalMember, spellMember, hvalue]
    rw [canonical_object, arrange_object, spell_object, hsorted, harranged, List.map_map,
      List.map_map, hpieces]

@[simp] theorem commaSeparated_nil : commaSeparated [] = [] :=
  rfl

@[simp] theorem commaSeparated_singleton (piece : List Char) : commaSeparated [piece] = piece := by
  simp [commaSeparated, List.intercalate]

@[simp] theorem commaSeparated_cons_cons (piece next : List Char) (pieces : List (List Char)) :
    commaSeparated (piece :: next :: pieces) = piece ++ ',' :: commaSeparated (next :: pieces) := by
  simp [commaSeparated, List.intercalate]

/-- Joined pieces begin like the first one. -/
theorem commaSeparated_opens {piece body : List Char} {c : Char} (hopens : piece = c :: body)
    (pieces : List (List Char)) : ∃ tail, commaSeparated (piece :: pieces) = c :: tail := by
  cases pieces with
  | nil => exact ⟨body, by simp [hopens]⟩
  | cons next pieces => exact ⟨_, by rw [commaSeparated_cons_cons, hopens, List.cons_append]⟩

/-- What holds of all marks, words, integers and strings, and of two texts side by side, holds of
    each text of a value. -/
theorem spell_induction {P : List Char → Prop} (happend : ∀ {xs ys}, P xs → P ys → P (xs ++ ys))
    (hmark : ∀ c ∈ ['[', ']', '\x7b', '\x7d', ',', ':'], P [c])
    (hword : ∀ word ∈ ["null", "true", "false"], P word.toList)
    (hinteger : ∀ n, P (Decimal.signed n)) (hquote : ∀ s, P (quote s)) {a : Json}
    (ha : a.Whole) : P a.spell := by
  have hjoin : ∀ {pieces}, (∀ piece ∈ pieces, P piece) → ∀ {before}, P before →
      P (before ++ commaSeparated pieces) := by
    intro pieces
    induction pieces with
    | nil => simp
    | cons piece pieces ih =>
      intro hpieces before hbefore
      have hpiece := happend hbefore (hpieces piece List.mem_cons_self)
      cases pieces with
      | nil => simpa using hpiece
      | cons next pieces =>
        have hcomma := happend hpiece (hmark ',' (by simp))
        have hrest := ih (fun p hp => hpieces p (List.mem_cons_of_mem _ hp)) hcomma
        simpa using hrest
  induction ha with
  | null => exact hword "null" (by simp)
  | boolean b =>
    cases b
    · exact hword "false" (by simp)
    · exact hword "true" (by simp)
  | number hn =>
    rw [spell_integer hn]
    exact hinteger _
  | string s => exact hquote s
  | array _ ih =>
    rw [spell_array]
    refine happend (hjoin ?_ (hmark '[' (by simp))) (hmark ']' (by simp))
    simpa using ih
  | object _ ih =>
    rw [spell_object]
    refine happend (hjoin (fun piece hpiece => ?_) (hmark '\x7b' (by simp))) (hmark '\x7d' (by simp))
    obtain ⟨⟨key, value⟩, hm, rfl⟩ := List.mem_map.1 hpiece
    simpa [spellMember] using happend (happend (hquote key) (hmark ':' (by simp))) (ih _ hm)

end ExpiryGate.Json
