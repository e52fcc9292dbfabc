import ExpiryGate.Json.Canonical
import ExpiryGate.Proofs.Json.Same
import ExpiryGate.Proofs.Text.Utf16

namespace ExpiryGate.Json

mutual

/-- The value with the members of each object in another order. -/
def arrange (order : List (String × Json) → List (String × Json)) : Json → Json
  | .null => .null
  | .boolean b => .boolean b
  | .number n => .number n
  | .string s => .string s
  | .array items => .array (arrangeItems order items)
  | .object members => .object (order (arrangeMembers order members))

/-- The items, each with its members in the other order. -/
def arrangeItems (order : List (String × Json) → List (String × Json)) : List Json → List Json
  | [] => []
  | item :: items => arrange order item :: arrangeItems order items

/-- The members in their own order, each with a value in the other one. -/
def arrangeMembers (order : List (String × Json) → List (String × Json)) :
    List (String × Json) → List (String × Json)
  | [] => []
  | m :: members => arrangeMember order m :: arrangeMembers order members

/-- A member keeps its key. -/
def arrangeMember (order : List (String × Json) → List (String × Json)) :
    String × Json → String × Json
  | (key, value) => (key, arrange order value)

end

section Arrange

variable {order : List (String × Json) → List (String × Json)}

theorem arrange_array (items : List Json) :
    arrange order (.array items) = .array (items.map (arrange order)) := by
  have hitems : ∀ items, arrangeItems order items = items.map (arrange order) := by
    intro items
    induction items with
    | nil => rfl
    | cons item items ih => rw [arrangeItems, ih, List.map_cons]
  rw [arrange, hitems]

/-- The members of an object are ordered after those within their values. -/
theorem arrange_object (members : List (String × Json)) :
    arrange order (.object members) =
      .object (order (members.map fun m => (m.1, arrange order m.2))) := by
  have hmembers : ∀ members, arrangeMembers order members =
      members.map fun m => (m.1, arrange order m.2) := by
    intro members
    induction members with
    | nil => rfl
    | cons m members ih => rw [arrangeMembers, arrangeMember, ih, List.map_cons]
  rw [arrange, hmembers]

theorem nodup_keys_map {members : List (String × Json)} (f : Json → Json)
    (hnodup : (members.map Prod.fst).Nodup) :
    ((members.map fun m => (m.1, f m.2)).map Prod.fst).Nodup := by
  simpa [Function.comp_def] using hnodup

/-- The order keeps all members where no key is repeated. -/
def Permutes (order : List (String × Json) → List (String × Json)) : Prop :=
  ∀ members, (members.map Prod.fst).Nodup → (order members).Perm members

/-- Another order of members makes no other value, provided that no key is repeated. -/
theorem same_arrange (horder : Permutes order) {a : Json} (ha : a.Keyed List.Nodup) :
    Same a (arrange order a) := by
  induction ha with
  | null => exact .null
  | boolean b => exact .boolean b
  | number n => exact .number n
  | string s => exact .string s
  | @array items _ ih =>
    rw [arrange_array]
    refine .array (List.length_map ..).symm fun i a b hitem hother => ?_
    rw [List.getElem?_map, hitem] at hother
    cases hother
    exact ih a (List.mem_of_getElem? hitem)
  | @object members hkeys _ ih =>
    have hkeys' := nodup_keys_map (arrange order) hkeys
    have hlookup : ∀ key, member? (order (members.map fun m => (m.1, arrange order m.2))) key =
        (member? members key).map (arrange order) := by
      intro key
      rw [member?_perm (horder _ hkeys') hkeys', member?_map]
    rw [arrange_object]
    refine .object (fun key => ?_) fun key a b hmember hother => ?_
    · rw [hlookup, Option.isSome_map]
    · rw [hlookup, hmember] at hother
      cases hother
      exact ih _ ((member?_eq_some_iff hkeys).1 hmember)

/-- What the order achieves for the keys of one object holds at every level of the value. -/
theorem keyed_arrange {p : List String → Prop} (horder : Permutes order)
    (hkeys : ∀ members, (members.map Prod.fst).Nodup → p ((order members).map Prod.fst))
    {a : Json} (ha : a.Keyed List.Nodup) : (arrange order a).Keyed p := by
  induction ha with
  | null => exact .null
  | boolean b => exact .boolean b
  | number n => exact .number n
  | string s => exact .string s
  | array _ ih =>
    rw [arrange_array]
    refine .array fun item hitem => ?_
    obtain ⟨a, ha, rfl⟩ := List.mem_map.1 hitem
    exact ih a ha
  | @object members hnodup _ ih =>
    have hnodup' := nodup_keys_map (arrange order) hnodup
    rw [arrange_object]
    refine .object (hkeys _ hnodup') fun m hm => ?_
    obtain ⟨n, hn, rfl⟩ := List.mem_map.1 ((horder _ hnodup').mem_iff.1 hm)
    exact ih n hn

end Arrange

section Sorted

variable {α : Type} [LT α] [LE α] [Std.IsLinearOrder α] [Std.LawfulOrderLT α]
  {key : String → List α}

/-- The members sorted by their keys are strictly sorted if no key is repeated. -/
theorem pairwise_mergeSort_keys (hkey : Function.Injective key)
    {le : String × Json → String × Json → Bool}
    (hle : ∀ m n, le m n = true ↔ ¬ key n.1 < key m.1) {members : List (String × Json)}
    (hnodup : (members.map Prod.fst).Nodup) :
    ((members.mergeSort le).map Prod.fst).Pairwise fun a b => key a < key b := by
  have htrans : ∀ a b c, le a b = true → le b c = true → le a c = true := by
    intro a b c
    rw [hle, hle, hle, List.not_lt, List.not_lt, List.not_lt]
    exact List.le_trans
  have htotal : ∀ a b, (le a b || le b a) = true := by
    intro a b
    rw [Bool.or_eq_true, hle, hle, List.not_lt, List.not_lt]
    exact List.le_total _ _
  have hsorted := List.pairwise_mergeSort htrans htotal members
  have hnodup' : ((members.mergeSort le).map Prod.fst).Nodup :=
    ((List.mergeSort_perm members le).map Prod.fst).nodup_iff.2 hnodup
  rw [List.pairwise_map]
  refine (hsorted.and (List.pairwise_map.1 hnodup')).imp fun {a b} h => ?_
  obtain ⟨hab, hne⟩ := h
  rw [hle, List.not_lt, List.le_iff_lt_or_eq] at hab
  exact hab.resolve_right fun heq => hne (hkey heq)

end Sorted

/-- Members by the code points of their keys, where the last one of each key stays. -/
def byCodePoints (members : List (String × Json)) : List (String × Json) :=
  keepLast (members.mergeSort keyLe)

/-- Members by the UTF-16 code units of their keys. -/
def byUnits (members : List (String × Json)) : List (String × Json) :=
  members.mergeSort fun a b => Text.utf16Le a.1 b.1

/-- The members of each object are sorted by the code points of their keys, and no key is
    repeated. Values in memory have this form. -/
def IsStandard (a : Json) : Prop :=
  a.Keyed (List.Pairwise fun a b => a.toList < b.toList)

/-- The members of each object are strictly sorted by the UTF-16 code units of their keys. -/
def IsSortedByUnits (a : Json) : Prop :=
  a.Keyed (List.Pairwise fun a b => Text.utf16 a < Text.utf16 b)

theorem keepLast_eq_self {members : List (String × Json)}
    (hnodup : (members.map Prod.fst).Nodup) : keepLast members = members := by
  fun_induction keepLast members with
  | case1 => rfl
  | case2 m => rfl
  | case3 m n rest heq _ => simp [heq] at hnodup
  | case4 m n rest _ ih => rw [ih (List.nodup_cons.1 hnodup).2]

/-- Sorting by code units drops no member and adds none. -/
theorem permutes_byUnits : Permutes byUnits :=
  fun members _ => List.mergeSort_perm members _

/-- Without repeated keys the standard order is plain sorting by key. -/
theorem byCodePoints_eq_mergeSort {members : List (String × Json)}
    (hnodup : (members.map Prod.fst).Nodup) : byCodePoints members = members.mergeSort keyLe :=
  keepLast_eq_self (((List.mergeSort_perm members keyLe).map Prod.fst).nodup_iff.2 hnodup)

/-- The standard order drops no member either, where no key is repeated. -/
theorem permutes_byCodePoints : Permutes byCodePoints := by
  intro members hnodup
  rw [byCodePoints_eq_mergeSort hnodup]
  exact List.mergeSort_perm members keyLe

/-- The standard order brings each value without repeated keys into standard form. -/
theorem isStandard_arrange {a : Json} (ha : a.Keyed List.Nodup) :
    (arrange byCodePoints a).IsStandard := by
  refine keyed_arrange permutes_byCodePoints (fun members hnodup => ?_) ha
  rw [byCodePoints_eq_mergeSort hnodup]
  refine pairwise_mergeSort_keys (fun _ _ h => String.toList_injective h) (fun m n => ?_) hnodup
  simp [keyLe]

/-- Sorting by code units reaches all levels of the value. -/
theorem isSortedByUnits_arrange {a : Json} (ha : a.Keyed List.Nodup) :
    (arrange byUnits a).IsSortedByUnits := by
  refine keyed_arrange permutes_byUnits (fun members hnodup => ?_) ha
  refine pairwise_mergeSort_keys Text.utf16_injective (fun m n => ?_) hnodup
  simp [Text.utf16Le]

/-- A value has one standard form only: two of them that are the same value are equal. -/
theorem IsStandard.eq_of_same {a b : Json} (hab : Same a b) (ha : a.IsStandard)
    (hb : b.IsStandard) : a = b :=
  hab.eq_of_keyed (fun s => List.lt_irrefl s.toList) (fun _ _ => List.lt_asymm) ha hb

/-- There is only one way to sort the members of a value by code units. -/
theorem IsSortedByUnits.eq_of_same {a b : Json} (hab : Same a b) (ha : a.IsSortedByUnits)
    (hb : b.IsSortedByUnits) : a = b :=
  hab.eq_of_keyed (fun s => List.lt_irrefl (Text.utf16 s)) (fun _ _ => List.lt_asymm) ha hb

theorem IsStandard.nodup {a : Json} (ha : a.IsStandard) : a.Keyed List.Nodup :=
  ha.mono fun _ => nodup_of_pairwise fun s => List.lt_irrefl s.toList

theorem IsSortedByUnits.nodup {a : Json} (ha : a.IsSortedByUnits) : a.Keyed List.Nodup :=
  ha.mono fun _ => nodup_of_pairwise fun s => List.lt_irrefl (Text.utf16 s)

end ExpiryGate.Json
