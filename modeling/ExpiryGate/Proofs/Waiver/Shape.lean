import ExpiryGate.Proofs.Folds
import ExpiryGate.Proofs.Toml.Nodes
import ExpiryGate.Proofs.Toml.Sorted
import ExpiryGate.Waiver.Toml

namespace ExpiryGate

open Toml

namespace Waiver

/-- The keys of a table that are fields of the waiver. -/
def fieldKeys : List String :=
  ["id", "expires", "reason"]

/-- The node has the shape of a waiver, where `accepts` says which nodes can be an expiry. A table
    may lack each of its three fields, an array has to start with all of them, and a date or time
    has none. -/
inductive Shaped (accepts : Node → Prop) : Node → Prop
  | table (source : List Char) (origin : TableOrigin) {entries : Entries}
      (hid : ∀ node, ("id", node) ∈ entries → node.IsString)
      (hexpires : ∀ node, ("expires", node) ∈ entries → accepts node)
      (hreason : ∀ node, ("reason", node) ∈ entries → node.IsString) :
      Shaped accepts (.table source origin entries)
  | array (source : List Char) (origin : ArrayOrigin) {id expires reason : Node}
      (others : List Node) (hid : id.IsString) (hexpires : accepts expires)
      (hreason : reason.IsString) :
      Shaped accepts (.array source origin (id :: expires :: reason :: others))
  | datetime (source : List Char) (d : Datetime) : Shaped accepts (.leaf source (.datetime d))

/-- The numbers in a table that are in none of its fields have values. -/
def RestHasValues (node : Node) : Prop :=
  ∀ source origin entries, node = .table source origin entries →
    Entries.HaveValuesOutside fieldKeys entries

/-- The waiver with the fields of a node. -/
def described : Node → Waiver
  | .table _ _ entries =>
    ofFields ((entries.lookup "id").bind fun node => node.text?.toOption)
      ((entries.lookup "expires").bind fun node => (expiryOf node).toOption)
      ((entries.lookup "reason").bind fun node => node.text?.toOption)
  | .array _ _ (id :: expires :: reason :: _) =>
    ofFields id.text?.toOption (expiryOf expires).toOption reason.text?.toOption
  | _ => ofFields none none none

theorem exists_expiryOf_iff {node : Node} : (∃ s, expiryOf node = .ok s) ↔ node.IsValue := by
  rw [← Node.exists_value?_iff, expiryOf]
  cases node.value? <;> simp [Except.map]

theorem fieldKeys_cases (key : String) :
    key = "id" ∨ key = "expires" ∨ key = "reason" ∨ key ∉ fieldKeys := by
  by_cases hkey : key ∈ fieldKeys
  · simp only [fieldKeys, List.mem_cons, List.not_mem_nil, or_false] at hkey
    obtain h | h | h := hkey
    · exact .inl h
    · exact .inr (.inl h)
    · exact .inr (.inr (.inl h))
  · exact .inr (.inr (.inr hkey))

theorem ne_of_not_mem_fieldKeys {key : String} (hkey : key ∉ fieldKeys) :
    key ≠ "id" ∧ key ≠ "expires" ∧ key ≠ "reason" := by
  simpa [fieldKeys] using hkey

/-- The entry is a field of the right type, or its numbers have values. -/
def Fields.Reads (entry : String × Node) : Prop :=
  if entry.1 = "id" then entry.2.IsString
  else if entry.1 = "expires" then entry.2.IsValue
  else if entry.1 = "reason" then entry.2.IsString
  else entry.2.misfit? = none

namespace Fields

variable {fields next : Fields} {key : String} {node : Node}

/-- An entry that is no field is only asked for the values of its numbers. -/
theorem reads_other_iff (hkey : key ∉ fieldKeys) : Reads (key, node) ↔ node.misfit? = none := by
  obtain ⟨hid, hexpires, hreason⟩ := ne_of_not_mem_fieldKeys hkey
  rw [Reads, if_neg hid, if_neg hexpires, if_neg hreason]

theorem add_id (fields : Fields) (node : Node) :
    fields.add ("id", node) = node.text?.map fun s => { fields with id := some s } :=
  rfl

theorem add_expires (fields : Fields) (node : Node) :
    fields.add ("expires", node) =
      (expiryOf node).map fun s => { fields with expires := some s } :=
  rfl

theorem add_reason (fields : Fields) (node : Node) :
    fields.add ("reason", node) = node.text?.map fun s => { fields with reason := some s } :=
  rfl

theorem add_other (fields : Fields) (hkey : key ∉ fieldKeys) :
    fields.add (key, node) = node.pass.map fun _ => fields := by
  obtain ⟨hid, hexpires, hreason⟩ := ne_of_not_mem_fieldKeys hkey
  rw [add, if_neg hid, if_neg hexpires, if_neg hreason]
  rfl

/-- Whether an entry can be read does not depend on the fields read before it. -/
theorem exists_add_iff (fields : Fields) (entry : String × Node) :
    (∃ next, fields.add entry = .ok next) ↔ Reads entry := by
  obtain ⟨key, node⟩ := entry
  obtain rfl | rfl | rfl | hkey := fieldKeys_cases key
  · rw [add_id, exists_map_eq_ok_iff]
    exact Node.exists_text?_iff
  · rw [add_expires, exists_map_eq_ok_iff]
    exact exists_expiryOf_iff
  · rw [add_reason, exists_map_eq_ok_iff]
    exact Node.exists_text?_iff
  · rw [add_other fields hkey, exists_map_eq_ok_iff, reads_other_iff hkey]
    exact Node.exists_pass_iff

/-- Reading an entry changes the field under its key and no other one. -/
theorem parts_of_add (h : fields.add (key, node) = .ok next) :
    next.id = (if key = "id" then node.text?.toOption else fields.id) ∧
      next.expires = (if key = "expires" then (expiryOf node).toOption else fields.expires) ∧
      next.reason = (if key = "reason" then node.text?.toOption else fields.reason) := by
  obtain rfl | rfl | rfl | hkey := fieldKeys_cases key
  · rw [add_id] at h
    obtain ⟨s, hs, rfl⟩ := exists_of_map_eq_ok h
    rw [hs]
    exact ⟨rfl, rfl, rfl⟩
  · rw [add_expires] at h
    obtain ⟨s, hs, rfl⟩ := exists_of_map_eq_ok h
    rw [hs]
    exact ⟨rfl, rfl, rfl⟩
  · rw [add_reason] at h
    obtain ⟨s, hs, rfl⟩ := exists_of_map_eq_ok h
    rw [hs]
    exact ⟨rfl, rfl, rfl⟩
  · rw [add_other fields hkey] at h
    obtain ⟨_, -, rfl⟩ := exists_of_map_eq_ok h
    obtain ⟨hid, hexpires, hreason⟩ := ne_of_not_mem_fieldKeys hkey
    rw [if_neg hid, if_neg hexpires, if_neg hreason]
    exact ⟨rfl, rfl, rfl⟩

end Fields

/-- The condition on the entries of a table, in terms of its shape and of the numbers beside its
    fields. -/
theorem forall_reads_iff {source : List Char} {origin : TableOrigin} {entries : Entries} :
    (∀ entry ∈ entries, Fields.Reads entry) ↔
      Shaped Node.IsValue (.table source origin entries) ∧
        RestHasValues (.table source origin entries) := by
  constructor
  · intro h
    refine ⟨.table source origin (fun node hnode => h _ hnode) (fun node hnode => h _ hnode)
      (fun node hnode => h _ hnode), ?_⟩
    rintro _ _ _ ⟨⟩ entry hentry hkey
    exact (Fields.reads_other_iff hkey).1 (h entry hentry)
  · rintro ⟨hshaped, hrest⟩ ⟨key, node⟩ hentry
    cases hshaped with
    | table _ _ hid hexpires hreason =>
    obtain rfl | rfl | rfl | hkey := fieldKeys_cases key
    · exact hid node hentry
    · exact hexpires node hentry
    · exact hreason node hentry
    · exact (Fields.reads_other_iff hkey).2 (hrest source origin entries rfl _ hentry hkey)

/-- A table is read as a waiver iff it has the shape of one and the other numbers in it have values.
    -/
theorem exists_ofEntries_iff {source : List Char} {origin : TableOrigin} {entries : Entries} :
    (∃ w, ofEntries entries = .ok w) ↔
      Shaped Node.IsValue (.table source origin entries) ∧
        RestHasValues (.table source origin entries) := by
  rw [← forall_reads_iff, ← exists_foldlM_iff Fields.exists_add_iff (b := .unread), ofEntries]
  constructor
  · rintro ⟨w, hw⟩
    obtain ⟨fields, hfields, -⟩ := exists_of_bind_eq_ok hw
    exact ⟨fields, hfields⟩
  · rintro ⟨fields, hfields⟩
    exact ⟨_, by rw [hfields]; rfl⟩

/-- With distinct keys, each field holds what is read from the entry under its key. -/
theorem described_of_ofEntries {source : List Char} {origin : TableOrigin} {entries : Entries}
    {w : Waiver} (hkeys : entries.Ascending) (hw : ofEntries entries = .ok w) :
    w = described (.table source origin entries) := by
  obtain ⟨fields, hfields, hw⟩ := exists_of_bind_eq_ok hw
  cases hw
  have hid := part_of_foldlM (fun h => (Fields.parts_of_add h).1) hkeys.nodup hfields
  have hexpires := part_of_foldlM (fun h => (Fields.parts_of_add h).2.1) hkeys.nodup hfields
  have hreason := part_of_foldlM (fun h => (Fields.parts_of_add h).2.2) hkeys.nodup hfields
  have hunread : ∀ (found : Option Node) (read : Node → Option String),
      (found.map read).getD none = found.bind read := by
    intro found read
    cases found <;> rfl
  rw [hid, hexpires, hreason, described, ← hunread, ← hunread, ← hunread]
  rfl

/-- An array is read as a waiver iff it starts with the three fields. What follows them is not
    looked at. -/
theorem ofItems_eq_ok_iff {source : List Char} {origin : ArrayOrigin} {items : List Node}
    {w : Waiver} :
    ofItems source items = .ok w ↔
      Shaped Node.IsValue (.array source origin items) ∧
        w = described (.array source origin items) := by
  constructor
  · intro h
    obtain _ | ⟨id, _ | ⟨expires, _ | ⟨reason, others⟩⟩⟩ := items
    · cases h
    · obtain ⟨_, -, h⟩ := exists_of_bind_eq_ok h
      cases h
    · obtain ⟨_, -, h⟩ := exists_of_bind_eq_ok h
      obtain ⟨_, -, h⟩ := exists_of_bind_eq_ok h
      cases h
    · obtain ⟨idText, hid, h⟩ := exists_of_bind_eq_ok h
      obtain ⟨expiresText, hexpires, h⟩ := exists_of_bind_eq_ok h
      obtain ⟨reasonText, hreason, h⟩ := exists_of_bind_eq_ok h
      cases h
      refine ⟨.array source origin others (Node.exists_text?_iff.1 ⟨_, hid⟩)
        (exists_expiryOf_iff.1 ⟨_, hexpires⟩) (Node.exists_text?_iff.1 ⟨_, hreason⟩), ?_⟩
      rw [described, hid, hexpires, hreason]
      rfl
  · rintro ⟨hshaped, rfl⟩
    cases hshaped with
    | array _ _ others hid hexpires hreason =>
      obtain ⟨idText, hid⟩ := Node.exists_text?_iff.2 hid
      obtain ⟨expiresText, hexpires⟩ := exists_expiryOf_iff.2 hexpires
      obtain ⟨reasonText, hreason⟩ := Node.exists_text?_iff.2 hreason
      simp only [ofItems, described, hid, hexpires, hreason]
      rfl

/-- A node is read as a waiver iff it has the shape of one, and then as the one with its fields. -/
theorem ofNode_eq_ok_iff {node : Node} {w : Waiver} (hnode : node.Sorted) :
    ofNode node = .ok w ↔ Shaped Node.IsValue node ∧ RestHasValues node ∧ w = described node := by
  cases node with
  | leaf source scalar =>
    cases scalar with
    | datetime d =>
      have hrest : RestHasValues (.leaf source (.datetime d)) := nofun
      constructor
      · rintro ⟨⟩
        exact ⟨.datetime source d, hrest, rfl⟩
      · rintro ⟨-, -, rfl⟩
        rfl
    | string | integer | float | boolean =>
      constructor
      · exact nofun
      · rintro ⟨⟨⟩, -⟩
  | misfit source =>
    constructor
    · exact nofun
    · rintro ⟨⟨⟩, -⟩
  | array source origin items =>
    have hrest : RestHasValues (.array source origin items) := nofun
    rw [ofNode, ofItems_eq_ok_iff]
    exact ⟨fun ⟨hshaped, hw⟩ => ⟨hshaped, hrest, hw⟩, fun ⟨hshaped, _, hw⟩ => ⟨hshaped, hw⟩⟩
  | table source origin entries =>
    have hkeys := (Node.sorted_table_iff.1 hnode).keys
    rw [ofNode, ← and_assoc, ← exists_ofEntries_iff]
    constructor
    · exact fun hw => ⟨⟨w, hw⟩, described_of_ofEntries hkeys hw⟩
    · rintro ⟨⟨v, hv⟩, rfl⟩
      rw [hv, described_of_ofEntries hkeys hv]

/-- A list of nodes is read iff each of them is, and gives one waiver for each node in their order.
    -/
theorem ofNodes_eq_ok_iff {nodes : List Node} {ws : List Waiver}
    (hnodes : ∀ node ∈ nodes, node.Sorted) :
    ofNodes nodes = .ok ws ↔
      (∀ node ∈ nodes, Shaped Node.IsValue node ∧ RestHasValues node) ∧
        ws = nodes.map described := by
  induction nodes generalizing ws with
  | nil => simp [ofNodes, eq_comm]
  | cons node nodes ih =>
    obtain ⟨hnode, hnodes⟩ := List.forall_mem_cons.1 hnodes
    rw [List.forall_mem_cons, List.map_cons]
    constructor
    · intro h
      obtain ⟨w, hw, h⟩ := exists_of_bind_eq_ok h
      obtain ⟨rest, hrest, h⟩ := exists_of_bind_eq_ok h
      cases h
      obtain ⟨hshaped, hvalues, rfl⟩ := (ofNode_eq_ok_iff hnode).1 hw
      obtain ⟨hall, rfl⟩ := (ih hnodes).1 hrest
      exact ⟨⟨⟨hshaped, hvalues⟩, hall⟩, rfl⟩
    · rintro ⟨⟨⟨hshaped, hvalues⟩, hall⟩, rfl⟩
      rw [ofNodes, (ofNode_eq_ok_iff hnode).2 ⟨hshaped, hvalues, rfl⟩, (ih hnodes).2 ⟨hall, rfl⟩]
      rfl

end Waiver

end ExpiryGate
