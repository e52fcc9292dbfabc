import ExpiryGate.Proofs.Waiver.Shape

namespace ExpiryGate

open Toml

namespace Baseline

/-- The entries have the shape of a baseline: what stands under `advisory` is an array of nodes that
    have the shape of waivers. -/
def Shaped (accepts : Node → Prop) (entries : Entries) : Prop :=
  ∀ node, ("advisory", node) ∈ entries →
    ∃ source origin items, node = .array source origin items ∧
      ∀ item ∈ items, Waiver.Shaped accepts item

/-- The numbers that belong to no waiver, and those in no field of theirs, have values. -/
structure RestHasValues (entries : Entries) : Prop where
  top : entries.HaveValuesOutside ["advisory"]
  items : ∀ source origin items, ("advisory", .array source origin items) ∈ entries →
    ∀ item ∈ items, Waiver.RestHasValues item

/-- One waiver for each item under `advisory`, in their order. -/
def described (entries : Entries) : Baseline :=
  match entries.lookup "advisory" with
  | some (.array _ _ items) => ⟨items.map Waiver.described⟩
  | _ => ⟨[]⟩

/-- In a document without malformed numbers nothing is asked of the keys that no baseline has. -/
theorem RestHasValues.of_haveValues {entries : Entries} (h : entries.HaveValues) :
    RestHasValues entries := by
  refine ⟨fun e he _ => h e he, fun source origin items hentry item hitem => ?_⟩
  rintro _ _ inner rfl e he _
  have hitems := itemsMisfit?_eq_none_iff.1 (h _ hentry)
  exact entryListMisfit?_eq_none_iff.1 (hitems _ hitem) e he

/-- A node is read as waivers iff it is an array of nodes that are each read as one, and each item
    gives one. -/
theorem waiversOf_eq_ok_iff {node : Node} {ws : List Waiver} (hnode : node.Sorted) :
    waiversOf node = .ok ws ↔
      ∃ source origin items, node = .array source origin items ∧
        (∀ item ∈ items, Waiver.Shaped Node.IsValue item ∧ Waiver.RestHasValues item) ∧
        ws = items.map Waiver.described := by
  rw [waiversOf.eq_def]
  split
  case h_1 source origin items =>
    rw [Waiver.ofNodes_eq_ok_iff (Node.sorted_array_iff.1 hnode)]
    constructor
    · rintro ⟨hall, hws⟩
      exact ⟨source, origin, items, rfl, hall, hws⟩
    · rintro ⟨_, _, _, ⟨⟩, hall, hws⟩
      exact ⟨hall, hws⟩
  case h_2 hother =>
    constructor
    · exact fun h => absurd h (Node.refuse_ne_ok _ _ _)
    · rintro ⟨source, origin, items, rfl, -⟩
      exact absurd rfl (hother source origin items)

theorem addEntry_advisory (b : Baseline) (node : Node) :
    b.addEntry ("advisory", node) = (waiversOf node).map Baseline.mk :=
  rfl

theorem addEntry_other (b : Baseline) {key : String} (node : Node) (hkey : key ≠ "advisory") :
    b.addEntry (key, node) = node.pass.map fun _ => b := by
  rw [addEntry, if_neg hkey]
  rfl

/-- The entry holds waivers, or its numbers have values. -/
def Reads (entry : String × Node) : Prop :=
  if entry.1 = "advisory" then ∃ ws, waiversOf entry.2 = .ok ws else entry.2.misfit? = none

/-- Whether an entry can be read does not depend on what was read before it. -/
theorem exists_addEntry_iff (b : Baseline) (entry : String × Node) :
    (∃ next, b.addEntry entry = .ok next) ↔ Reads entry := by
  obtain ⟨key, node⟩ := entry
  by_cases hkey : key = "advisory"
  · subst hkey
    rw [addEntry_advisory, exists_map_eq_ok_iff]
    exact Iff.rfl
  · rw [addEntry_other b node hkey, exists_map_eq_ok_iff, Node.exists_pass_iff, Reads, if_neg hkey]

/-- The entries are read iff each of them can be, so that one bad entry refuses the document. -/
theorem exists_ofEntries_iff {entries : Entries} :
    (∃ b, ofEntries entries = .ok b) ↔ ∀ entry ∈ entries, Reads entry :=
  exists_foldlM_iff exists_addEntry_iff

/-- The condition on the entries, in terms of their shape and of the numbers beside it. -/
theorem forall_reads_iff {entries : Entries} (h : entries.Sorted) :
    (∀ entry ∈ entries, Reads entry) ↔ Shaped Node.IsValue entries ∧ RestHasValues entries := by
  constructor
  · intro hreads
    have hitems : ∀ node, ("advisory", node) ∈ entries → ∃ ws, waiversOf node = .ok ws :=
      fun node hnode => hreads _ hnode
    refine ⟨fun node hnode => ?_, fun entry hentry hkey => ?_,
      fun source origin items hnode item hitem => ?_⟩
    · obtain ⟨ws, hws⟩ := hitems node hnode
      obtain ⟨source, origin, items, rfl, hall, -⟩ := (waiversOf_eq_ok_iff (h.nodes _ hnode)).1 hws
      exact ⟨source, origin, items, rfl, fun item hitem => (hall item hitem).1⟩
    · have hvalues := hreads entry hentry
      rwa [Reads, if_neg (mt List.mem_singleton.2 hkey)] at hvalues
    · obtain ⟨ws, hws⟩ := hitems _ hnode
      obtain ⟨_, _, _, ⟨⟩, hall, -⟩ := (waiversOf_eq_ok_iff (h.nodes _ hnode)).1 hws
      exact (hall item hitem).2
  · rintro ⟨hshaped, hrest⟩ ⟨key, node⟩ hentry
    by_cases hkey : key = "advisory"
    · subst hkey
      obtain ⟨source, origin, items, rfl, hitems⟩ := hshaped node hentry
      refine ⟨items.map Waiver.described, (waiversOf_eq_ok_iff (h.nodes _ hentry)).2 ?_⟩
      exact ⟨source, origin, items, rfl, fun item hitem =>
        ⟨hitems item hitem, hrest.items _ _ _ hentry item hitem⟩, rfl⟩
    · rw [Reads, if_neg hkey]
      exact hrest.top _ hentry (mt List.mem_singleton.1 hkey)

/-- Reading an entry changes the waivers only under their key. -/
theorem waivers_of_addEntry {b next : Baseline} {key : String} {node : Node}
    (h : b.addEntry (key, node) = .ok next) :
    next.waivers = if key = "advisory" then (waiversOf node).toOption.getD [] else b.waivers := by
  by_cases hkey : key = "advisory"
  · subst hkey
    rw [addEntry_advisory] at h
    obtain ⟨ws, hws, rfl⟩ := exists_of_map_eq_ok h
    rw [hws]
    rfl
  · rw [addEntry_other b node hkey] at h
    obtain ⟨_, -, rfl⟩ := exists_of_map_eq_ok h
    rw [if_neg hkey]

/-- What is read from sorted entries are the waivers described by them, none left out and none
    added. -/
theorem described_of_ofEntries {entries : Entries} {b : Baseline} (h : entries.Sorted)
    (hb : ofEntries entries = .ok b) : b = described entries := by
  obtain ⟨ws⟩ := b
  obtain rfl : ws = _ := part_of_foldlM waivers_of_addEntry h.keys.nodup hb
  rw [described]
  cases hlookup : entries.lookup "advisory" with
  | none => rfl
  | some node =>
    have hentry := Entries.mem_of_lookup hlookup
    obtain ⟨ws, hws⟩ := exists_ofEntries_iff.1 ⟨_, hb⟩ _ hentry
    obtain ⟨source, origin, items, rfl, -, rfl⟩ := (waiversOf_eq_ok_iff (h.nodes _ hentry)).1 hws
    rw [Option.map_some, hws]
    rfl

/-- A baseline is read from entries iff they have the shape of one and all other numbers have
    values, and then it has one waiver for each item. -/
theorem ofEntries_eq_ok_iff {entries : Entries} {b : Baseline} (h : entries.Sorted) :
    ofEntries entries = .ok b ↔
      Shaped Node.IsValue entries ∧ RestHasValues entries ∧ b = described entries := by
  rw [← and_assoc, ← forall_reads_iff h, ← exists_ofEntries_iff]
  constructor
  · exact fun hb => ⟨⟨b, hb⟩, described_of_ofEntries h hb⟩
  · rintro ⟨⟨c, hc⟩, rfl⟩
    rw [hc, described_of_ofEntries h hc]

end Baseline

end ExpiryGate
