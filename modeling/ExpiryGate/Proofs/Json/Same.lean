import ExpiryGate.Json.Basic

namespace ExpiryGate.Json

/-- The values differ in nothing but the order of members: arrays have the same items one by one,
    and objects the same values under the same keys. -/
inductive Same : Json → Json → Prop
  | null : Same .null .null
  | boolean (b : Bool) : Same (.boolean b) (.boolean b)
  | number (n : Number) : Same (.number n) (.number n)
  | string (s : String) : Same (.string s) (.string s)
  | array {items others : List Json} (hlength : items.length = others.length)
      (hitems : ∀ (i : Nat) a b, items[i]? = some a → others[i]? = some b → Same a b) :
      Same (.array items) (.array others)
  | object {members others : List (String × Json)}
      (hkeys : ∀ key, (member? members key).isSome = (member? others key).isSome)
      (hvalues : ∀ key a b, member? members key = some a → member? others key = some b →
        Same a b) :
      Same (.object members) (.object others)

/-- The keys of each object in the value, in the order of its members, have a property. -/
inductive Keyed (p : List String → Prop) : Json → Prop
  | null : Keyed p .null
  | boolean (b : Bool) : Keyed p (.boolean b)
  | number (n : Number) : Keyed p (.number n)
  | string (s : String) : Keyed p (.string s)
  | array {items : List Json} (hitems : ∀ item ∈ items, Keyed p item) : Keyed p (.array items)
  | object {members : List (String × Json)} (hkeys : p (members.map Prod.fst))
      (hmembers : ∀ m ∈ members, Keyed p m.2) : Keyed p (.object members)

/-- A weaker condition on the keys of objects holds as well. -/
theorem Keyed.mono {p q : List String → Prop} (hpq : ∀ keys, p keys → q keys) {a : Json}
    (ha : a.Keyed p) : a.Keyed q := by
  induction ha with
  | null => exact .null
  | boolean b => exact .boolean b
  | number n => exact .number n
  | string s => exact .string s
  | array _ ih => exact .array ih
  | object hkeys _ ih => exact .object (hpq _ hkeys) ih

theorem Same.symm {a b : Json} (h : Same a b) : Same b a := by
  induction h with
  | null => exact .null
  | boolean b => exact .boolean b
  | number n => exact .number n
  | string s => exact .string s
  | array hlength _ ih => exact .array hlength.symm fun i a b ha hb => ih i b a hb ha
  | object hkeys _ ih =>
    exact .object (fun key => (hkeys key).symm) fun key a b ha hb => ih key b a hb ha

theorem Same.trans {a b c : Json} (hab : Same a b) (hbc : Same b c) : Same a c := by
  induction hab generalizing c with
  | null => exact hbc
  | boolean b => exact hbc
  | number n => exact hbc
  | string s => exact hbc
  | @array items others hlength _ ih =>
    cases hbc with
    | array hlength' hitems' =>
      refine .array (hlength.trans hlength') fun i a d ha hd => ?_
      have hi : i < others.length := by
        rw [← hlength]
        exact (List.getElem?_eq_some_iff.1 ha).1
      have hb : others[i]? = some others[i] := List.getElem?_eq_getElem hi
      exact ih i a _ ha hb (hitems' i _ d hb hd)
  | @object members others hkeys _ ih =>
    cases hbc with
    | object hkeys' hvalues' =>
      refine .object (fun key => (hkeys key).trans (hkeys' key)) fun key a d ha hd => ?_
      have hsome : (member? others key).isSome = true := by
        rw [← hkeys, ha]
        rfl
      obtain ⟨b, hb⟩ := Option.isSome_iff_exists.1 hsome
      exact ih key a b ha hb (hvalues' key b d hb hd)

theorem member?_cons_self (key : String) (a : Json) (members : List (String × Json)) :
    member? ((key, a) :: members) key = some a :=
  List.lookup_cons_self

theorem member?_cons_of_ne {key first : String} (hne : key ≠ first) (a : Json)
    (members : List (String × Json)) :
    member? ((first, a) :: members) key = member? members key := by
  have hbeq : (key == first) = false := beq_false_of_ne hne
  simp [member?, List.lookup_cons, hbeq]

/-- Without repeated keys the member under a key is the one that is there. -/
theorem member?_eq_some_iff {members : List (String × Json)} {key : String} {a : Json}
    (hnodup : (members.map Prod.fst).Nodup) :
    member? members key = some a ↔ (key, a) ∈ members := by
  induction members with
  | nil => simp [member?]
  | cons m members ih =>
    obtain ⟨first, b⟩ := m
    rw [List.map_cons, List.nodup_cons] at hnodup
    by_cases hkey : key = first
    · subst hkey
      have habsent : (key, a) ∉ members := fun hmem => hnodup.1 (List.mem_map.2 ⟨_, hmem, rfl⟩)
      simp [member?_cons_self, habsent, eq_comm]
    · rw [member?_cons_of_ne hkey, ih hnodup.2]
      simp [hkey]

theorem nodup_of_keys {members : List (String × Json)} (hnodup : (members.map Prod.fst).Nodup) :
    members.Nodup :=
  (List.pairwise_map.1 hnodup).imp fun hne heq => hne (congrArg Prod.fst heq)

theorem member?_map (f : Json → Json) (members : List (String × Json)) (key : String) :
    member? (members.map fun m => (m.1, f m.2)) key = (member? members key).map f := by
  induction members with
  | nil => rfl
  | cons m members ih =>
    obtain ⟨first, a⟩ := m
    rw [List.map_cons]
    by_cases hkey : key = first
    · subst hkey
      rw [member?_cons_self, member?_cons_self]
      rfl
    · rw [member?_cons_of_ne hkey, member?_cons_of_ne hkey, ih]

/-- Where no key is repeated the order of members makes no difference to look-up. -/
theorem member?_perm {members others : List (String × Json)} (hperm : members.Perm others)
    (hnodup : (others.map Prod.fst).Nodup) (key : String) :
    member? members key = member? others key := by
  have hnodup' : (members.map Prod.fst).Nodup := (hperm.map Prod.fst).nodup_iff.2 hnodup
  apply Option.ext
  intro a
  rw [member?_eq_some_iff hnodup', member?_eq_some_iff hnodup, hperm.mem_iff]

section Unique

variable {lt : String → String → Prop}

theorem nodup_of_pairwise (hirrefl : ∀ a, ¬ lt a a) {keys : List String}
    (hkeys : keys.Pairwise lt) : keys.Nodup := by
  refine hkeys.imp fun {a b} hab heq => ?_
  rw [heq] at hab
  exact hirrefl b hab

/-- Sorted members are determined by the values under their keys. -/
theorem eq_of_member?_eq (hirrefl : ∀ a, ¬ lt a a) (hasymm : ∀ a b, lt a b → ¬ lt b a)
    {members others : List (String × Json)} (hmembers : (members.map Prod.fst).Pairwise lt)
    (hothers : (others.map Prod.fst).Pairwise lt)
    (hsame : ∀ key, member? members key = member? others key) : members = others := by
  have hnodup := nodup_of_pairwise hirrefl hmembers
  have hnodup' := nodup_of_pairwise hirrefl hothers
  have hperm : members.Perm others := by
    rw [List.perm_ext_iff_of_nodup (nodup_of_keys hnodup) (nodup_of_keys hnodup')]
    intro m
    rw [← member?_eq_some_iff hnodup, ← member?_eq_some_iff hnodup', hsame]
  rw [List.pairwise_map] at hmembers hothers
  exact hperm.eq_of_pairwise (fun a b _ _ hab hba => absurd hba (hasymm _ _ hab)) hmembers hothers

/-- Of the values that are the same one at most has its members sorted at every level. -/
theorem Same.eq_of_keyed (hirrefl : ∀ a, ¬ lt a a) (hasymm : ∀ a b, lt a b → ¬ lt b a)
    {a b : Json} (hab : Same a b) (ha : a.Keyed (List.Pairwise lt))
    (hb : b.Keyed (List.Pairwise lt)) : a = b := by
  induction hab with
  | null => rfl
  | boolean b => rfl
  | number n => rfl
  | string s => rfl
  | @array items others hlength _ ih =>
    cases ha with
    | array ha =>
    cases hb with
    | array hb =>
    congr 1
    refine List.ext_getElem hlength fun i hi hi' => ?_
    exact ih i _ _ (List.getElem?_eq_getElem hi) (List.getElem?_eq_getElem hi')
      (ha _ (List.getElem_mem hi)) (hb _ (List.getElem_mem hi'))
  | @object members others hkeys _ ih =>
    cases ha with
    | object hmembers ha =>
    cases hb with
    | object hothers hb =>
    congr 1
    refine eq_of_member?_eq hirrefl hasymm hmembers hothers fun key => ?_
    have hsome := hkeys key
    cases hleft : member? members key with
    | none =>
      cases hright : member? others key with
      | none => rfl
      | some w => simp [hleft, hright] at hsome
    | some v =>
      rw [hleft] at hsome
      obtain ⟨w, hright⟩ := Option.isSome_iff_exists.1 hsome.symm
      have hv := (member?_eq_some_iff (nodup_of_pairwise hirrefl hmembers)).1 hleft
      have hw := (member?_eq_some_iff (nodup_of_pairwise hirrefl hothers)).1 hright
      rw [hright, ih key v w hleft hright (ha _ hv) (hb _ hw)]

end Unique

end ExpiryGate.Json
