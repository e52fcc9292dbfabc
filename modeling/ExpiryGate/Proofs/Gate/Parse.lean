import ExpiryGate.Gate
import ExpiryGate.Proofs.Waiver.Acceptance

namespace ExpiryGate

open Toml

namespace Waiver

/-- The node without the entries that are no fields. -/
def essential : Node → Node
  | .table source origin entries =>
    .table source origin (entries.filter fun e => e.1 ∈ fieldKeys)
  | node => node

/-- Entries of an item that are no fields change nothing, if the numbers in them have values. -/
theorem ofNode_essential {node : Node} (h : RestHasValues node) :
    ofNode (essential node) = ofNode node := by
  cases node with
  | leaf | misfit | array => rfl
  | table source origin entries =>
    rw [essential, ofNode, ofNode, ofEntries, ofEntries, foldlM_filter_of_skip]
    rintro ⟨key, node⟩ hentry hkey fields
    have hkey : key ∉ fieldKeys := of_decide_eq_false hkey
    rw [Fields.add_other fields hkey, Node.pass, h source origin entries rfl _ hentry hkey]
    rfl

/-- A list of items is read as the same waivers without the entries of theirs that are no fields. -/
theorem ofNodes_essential {nodes : List Node} (h : ∀ node ∈ nodes, RestHasValues node) :
    ofNodes (nodes.map essential) = ofNodes nodes := by
  induction nodes with
  | nil => rfl
  | cons node nodes ih =>
    obtain ⟨hnode, hnodes⟩ := List.forall_mem_cons.1 h
    rw [List.map_cons, ofNodes, ofNodes, ofNode_essential hnode, ih hnodes]

end Waiver

namespace Baseline

/-- The waivers of a node without the entries that are no fields. -/
def essentialItems : Node → Node
  | .array source origin items => .array source origin (items.map Waiver.essential)
  | node => node

/-- The entries that hold waivers, without those entries of theirs that are no fields. -/
def essential (entries : Entries) : Entries :=
  (entries.filter fun e => e.1 = "advisory").map fun e => (e.1, essentialItems e.2)

/-- Keys that no baseline has, at the top or in its items, change nothing. -/
theorem ofEntries_essential {entries : Entries} (h : RestHasValues entries) :
    ofEntries (essential entries) = ofEntries entries := by
  have hsame : ∀ e ∈ entries.filter fun e => e.1 = "advisory", ∀ b : Baseline,
      b.addEntry (e.1, essentialItems e.2) = b.addEntry e := by
    rintro ⟨key, node⟩ hentry b
    obtain ⟨hentry, hkey⟩ := List.mem_filter.1 hentry
    obtain rfl : key = "advisory" := of_decide_eq_true hkey
    rw [addEntry_advisory, addEntry_advisory]
    cases node with
    | leaf | misfit | table => rfl
    | array source origin items =>
      rw [essentialItems, waiversOf, waiversOf,
        Waiver.ofNodes_essential (h.items source origin items hentry)]
  rw [ofEntries, ofEntries, essential, List.foldlM_map, foldlM_congr_of_mem hsame,
    foldlM_filter_of_skip]
  rintro ⟨key, node⟩ hentry hkey b
  have hkey : key ≠ "advisory" := of_decide_eq_false hkey
  have hpass := h.top _ hentry (mt List.mem_singleton.1 hkey)
  rw [addEntry_other b node hkey, Node.pass, hpass]
  rfl

end Baseline

namespace Gate

/-- Parsing reads the document and then the waivers in its entries, and a fault of either names the
    path. -/
theorem parse_eq (text path : String) :
    parse text path =
      match readDocument text.toList with
      | none => .error (.parseFailed path (.unreadable Baseline.notWellFormed))
      | some entries =>
        (Baseline.ofEntries entries).mapError fun complaint =>
          .parseFailed path (complaint.toFault text.toList) := by
  rw [parse, Baseline.ofToml]
  cases readDocument text.toList with
  | none => rfl
  | some entries =>
    dsimp only
    cases Baseline.ofEntries entries <;> rfl

theorem parse_eq_ok_iff {text path : String} {b : Baseline} :
    parse text path = .ok b ↔
      ∃ entries, readDocument text.toList = some entries ∧ Baseline.ofEntries entries = .ok b := by
  rw [parse_eq]
  cases readDocument text.toList with
  | none => simp
  | some entries => simp [mapError_eq_ok_iff]

/-- There is no third outcome, and the fault carries the path that was given. -/
theorem parse_ok_or_parseFailed (text path : String) :
    (∃ b, parse text path = .ok b) ∨
      ∃ cause, parse text path = .error (.parseFailed path cause) := by
  rw [parse]
  cases Baseline.ofToml text with
  | ok b => exact .inl ⟨b, rfl⟩
  | error cause => exact .inr ⟨cause, rfl⟩

/-- Parsing gives a baseline iff the document can be read, what stands under `advisory` has the
    shape of waivers, and the numbers in it that belong to none of their fields have values, as all
    do in a document without malformed numbers; the baseline then has one waiver for each item, in
    their order. Otherwise the fault says that parsing at this path has failed. Either way the
    outcome is that of the entries without the other keys. -/
theorem parse_all_or_nothing (text path : String) :
    (∀ b, parse text path = .ok b ↔
      ∃ entries, readDocument text.toList = some entries ∧
        Baseline.Shaped Node.IsValue entries ∧ Baseline.RestHasValues entries ∧
        b = Baseline.described entries) ∧
      ((∃ b, parse text path = .ok b) ∨
        ∃ cause, parse text path = .error (.parseFailed path cause)) ∧
      ∀ entries, readDocument text.toList = some entries →
        (entries.HaveValues → Baseline.RestHasValues entries) ∧
          (Baseline.RestHasValues entries →
            parse text path =
              (Baseline.ofEntries (Baseline.essential entries)).mapError fun complaint =>
                .parseFailed path (complaint.toFault text.toList)) := by
  refine ⟨fun b => ?_, parse_ok_or_parseFailed text path, fun entries hentries =>
    ⟨.of_haveValues, fun hrest => ?_⟩⟩
  · rw [parse_eq_ok_iff]
    refine exists_congr fun entries => and_congr_right fun hentries => ?_
    exact Baseline.ofEntries_eq_ok_iff (sorted_of_readDocument hentries)
  · rw [parse_eq, hentries, Baseline.ofEntries_essential hrest]

/-- The text is a document with these entries, and no path lets parsing it succeed. -/
def IsRefused (text : String) (entries : Entries) : Prop :=
  readDocument text.toList = some entries ∧
    ∀ path, ∃ cause, parse text path = .error (.parseFailed path cause)

/-- One complaint about the entries of a document refuses it at every path. -/
theorem isRefused_of_complaint {text : String} {entries : Entries} {complaint : Complaint}
    (hread : readDocument text.toList = some entries)
    (h : Baseline.ofEntries entries = .error complaint) : IsRefused text entries := by
  refine ⟨hread, fun path => ?_⟩
  rw [parse_eq, hread]
  simp only [h]
  exact ⟨_, rfl⟩

/-- A document with one expiry: a table whose key is that of dates and times and whose text is no
    date. -/
def keyedExpiry : String :=
  "[[advisory]]\nexpires = \x7b \"$__toml_private_datetime\" = \"x\" \x7d\n"

/-- An expiry with the key of dates and times is refused for its text, although none of its integers
    is out of range and no number in the document lacks a value. -/
theorem keyedExpiry_refused :
    ∃ entries, IsRefused keyedExpiry entries ∧ entries.HaveValues ∧
      Baseline.Shaped Node.HasNarrowIntegers entries := by
  have hread : readDocument keyedExpiry.toList =
      some [("advisory", .array keyedExpiry.toList .headers [.table keyedExpiry.toList .header
        [("expires", .table (keyedExpiry.toList.drop 23) .inline
          [(datetimeKey, .leaf (keyedExpiry.toList.drop 54) (.string "x"))])]])] := by
    simp only [keyedExpiry, String.reduceToList]
    rfl
  refine ⟨_, isRefused_of_complaint hread rfl, ?_, ?_⟩
  · intro e he
    rw [List.mem_singleton.1 he]
    rfl
  · intro node hnode
    cases List.mem_singleton.1 hnode
    refine ⟨_, _, _, rfl, fun item hitem => ?_⟩
    rw [List.mem_singleton.1 hitem]
    refine .table _ _ (fun id hid => ?_) (fun expires hexpires => ?_) (fun reason hreason => ?_)
    · simp at hid
    · cases List.mem_singleton.1 hexpires
      refine .table _ _ fun e he => ?_
      rw [List.mem_singleton.1 he]
      exact .leaf _ nofun
    · simp at hreason

/-- A document without waivers, whose only number is beyond all doubles. -/
def hugeNumber : String :=
  "x = 1e400\n"

/-- A number without a value is refused also under a key that no baseline has. -/
theorem hugeNumber_refused :
    ∃ entries, IsRefused hugeNumber entries ∧
      Baseline.Shaped Node.HasNarrowIntegers entries := by
  have hread : readDocument hugeNumber.toList = some [("x", .misfit "1e400\n".toList)] := by
    simp only [hugeNumber, String.reduceToList]
    rfl
  refine ⟨_, isRefused_of_complaint hread rfl, fun node hnode => ?_⟩
  simp at hnode

/-- A document with one expiry, which is a number beyond all doubles. -/
def hugeExpiry : String :=
  "[[advisory]]\nexpires = 1e400\n"

/-- A number without a value is no expiry, although it is no integer. -/
theorem hugeExpiry_refused :
    IsRefused hugeExpiry [("advisory", .array hugeExpiry.toList .headers
      [.table hugeExpiry.toList .header [("expires", .misfit "1e400\n".toList)]])] := by
  refine isRefused_of_complaint ?_ rfl
  simp only [hugeExpiry, String.reduceToList]
  rfl

/-- Documents of the right shape are refused although no expiry holds an integer out of range: for
    a table that stands for a date and holds none, for a number without a value under a foreign
    key, and for such a number as an expiry. -/
theorem shape_not_sufficient :
    (∃ entries, IsRefused keyedExpiry entries ∧ entries.HaveValues ∧
      Baseline.Shaped Node.HasNarrowIntegers entries) ∧
    (∃ entries, IsRefused hugeNumber entries ∧
      Baseline.Shaped Node.HasNarrowIntegers entries) ∧
    IsRefused hugeExpiry [("advisory", .array hugeExpiry.toList .headers
      [.table hugeExpiry.toList .header [("expires", .misfit "1e400\n".toList)]])] :=
  ⟨keyedExpiry_refused, hugeNumber_refused, hugeExpiry_refused⟩

end Gate

end ExpiryGate
