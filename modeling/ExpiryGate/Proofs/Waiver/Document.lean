import ExpiryGate.Gate
import ExpiryGate.Proofs.Folds
import ExpiryGate.Proofs.Toml.Lines

namespace ExpiryGate

open Toml

/-- A string under a new key is added to the table. -/
theorem Toml.Assignment.Sets.assignAll_cons {a : Assignment} {key value : String}
    (ha : a.Sets key value) : ∃ source, ∀ (assignments : List Assignment) (entries : Entries),
      entries.lookup key = none →
      assignAll entries (a :: assignments) =
        assignAll (entries.insert key (.leaf source (.string value))) assignments := by
  obtain ⟨hparents, hname, source, hvalue⟩ := ha
  refine ⟨source, fun assignments entries hnew => ?_⟩
  have hassign : assign entries a = some (entries.insert key (.leaf source (.string value))) := by
    simp [assign, descend, hparents, hname, hvalue, hnew]
  rw [assignAll, List.foldlM_cons, hassign]
  rfl

namespace Waiver

/-- The fields that the table of a waiver has, in the order of their lines. -/
def fields (w : Waiver) : List (String × String) :=
  ("id", w.id) ::
    ((match w.expires with
      | some expires => [("expires", expires)]
      | none => []) ++ [("reason", w.reason)])

theorem tomlChars_eq_tableChars (w : Waiver) : w.tomlChars = tableChars "advisory" w.fields := by
  unfold tomlChars fields tableChars
  cases w.expires <;> simp

theorem isBareName_of_mem_fields {w : Waiver} {f : String × String} (hf : f ∈ w.fields) :
    IsBareName f.1 := by
  have hall : ∀ f ∈ w.fields, IsBareName f.1 := by
    obtain ⟨id, expires, reason⟩ := w
    cases expires <;> simp [fields, IsBareName, isBareKeyChar]
  exact hall f hf

/-- The lines of a waiver add up to a table from which the waiver is read. -/
theorem ofEntries_assignAll {w : Waiver} {assignments : List Assignment}
    (hall : List.Forall₂ (fun a f => a.Sets f.1 f.2) assignments w.fields) :
    ∃ entries, assignAll [] assignments = some entries ∧ ofEntries entries = .ok w := by
  obtain ⟨id, expires, reason⟩ := w
  cases expires with
  | none =>
    rw [fields, List.nil_append] at hall
    obtain _ | ⟨hid, _ | ⟨hreason, _ | _⟩⟩ := hall
    dsimp only at hid hreason
    obtain ⟨idSource, hafterId⟩ := hid.assignAll_cons
    obtain ⟨reasonSource, hafterReason⟩ := hreason.assignAll_cons
    refine ⟨[("id", .leaf idSource (.string id)), ("reason", .leaf reasonSource (.string reason))],
      ?_, rfl⟩
    rw [hafterId _ _ (by rfl), hafterReason _ _ (by rfl)]
    rfl
  | some expires =>
    rw [fields, List.singleton_append] at hall
    obtain _ | ⟨hid, _ | ⟨hexpires, _ | ⟨hreason, _ | _⟩⟩⟩ := hall
    dsimp only at hid hexpires hreason
    obtain ⟨idSource, hafterId⟩ := hid.assignAll_cons
    obtain ⟨expiresSource, hafterExpires⟩ := hexpires.assignAll_cons
    obtain ⟨reasonSource, hafterReason⟩ := hreason.assignAll_cons
    -- The entries are in the order of their keys, not in that of the lines.
    refine ⟨[("expires", .leaf expiresSource (.string expires)), ("id", .leaf idSource (.string id)),
      ("reason", .leaf reasonSource (.string reason))], ?_, rfl⟩
    rw [hafterId _ _ (by rfl), hafterExpires _ _ (by rfl), hafterReason _ _ (by rfl)]
    rfl

theorem ofNodes_append_singleton {nodes : List Node} {node : Node} {ws : List Waiver} {w : Waiver}
    (hnodes : ofNodes nodes = .ok ws) (hnode : ofNode node = .ok w) :
    ofNodes (nodes ++ [node]) = .ok (ws ++ [w]) := by
  induction nodes generalizing ws with
  | nil =>
    cases hnodes
    rw [List.nil_append, ofNodes, hnode]
    rfl
  | cons first nodes ih =>
    obtain ⟨v, hfirst, hnodes⟩ := exists_of_bind_eq_ok hnodes
    obtain ⟨vs, hrest, hnodes⟩ := exists_of_bind_eq_ok hnodes
    cases hnodes
    rw [List.cons_append, ofNodes, hfirst, ih hrest]
    rfl

end Waiver

namespace Baseline

/-- The entries of a document that hold these waivers and nothing else. The key is missing as long
    as there is no waiver. -/
inductive Holds : Entries → List Waiver → Prop
  | nil : Holds [] []
  | array {nodes : List Node} {ws : List Waiver} (source : List Char)
      (hread : Waiver.ofNodes nodes = .ok ws) :
      Holds [("advisory", .array source .headers nodes)] ws

/-- Entries that hold waivers are read as the baseline of these. -/
theorem Holds.ofEntries_eq {entries : Entries} {ws : List Waiver} (h : Holds entries ws) :
    ofEntries entries = .ok ⟨ws⟩ := by
  cases h with
  | nil => rfl
  | array source hread =>
    simp [ofEntries, addEntry, waiversOf, hread]

/-- The table of a waiver adds it behind the others. -/
theorem Holds.addSection {entries : Entries} {ws : List Waiver} (h : Holds entries ws)
    {s : Section} {w : Waiver} (hs : s.IsTable "advisory" w.fields) :
    ∃ added, Toml.addSection entries s = some added ∧ Holds added (ws ++ [w]) := by
  obtain ⟨inner, hinner, hread⟩ := Waiver.ofEntries_assignAll hs.assignments
  have hnode : Waiver.ofNode (.table s.source .header inner) = .ok w := hread
  have hadd : Toml.addSection entries s = s.addTo entries := by
    rw [Toml.addSection, hs.parents, descend]
  rw [hadd]
  cases h with
  | nil =>
    have hnone : Waiver.ofNodes [] = .ok [] := rfl
    refine ⟨_, ?_, .array s.source (Waiver.ofNodes_append_singleton hnone hnode)⟩
    simp [Section.addTo, hs.inArray, hs.name, hinner, Entries.insert]
  | @array nodes ws source hws =>
    refine ⟨_, ?_, .array source (Waiver.ofNodes_append_singleton hws hnode)⟩
    simp [Section.addTo, hs.inArray, hs.name, hinner, Entries.insert]

/-- The sections of further waivers add these in their order, by induction on the sections. -/
theorem Holds.addSections {entries : Entries} {ws : List Waiver} (h : Holds entries ws)
    {sections : List Section} {added : List Waiver}
    (hall : List.Forall₂ (fun s w => s.IsTable "advisory" (Waiver.fields w)) sections added) :
    ∃ all, sections.foldlM Toml.addSection entries = some all ∧ Holds all (ws ++ added) := by
  induction hall generalizing entries ws with
  | nil => exact ⟨entries, rfl, by rwa [List.append_nil]⟩
  | @cons s w sections added hs _ ih =>
    obtain ⟨next, hnext, hholds⟩ := h.addSection hs
    obtain ⟨all, hrest, hall⟩ := ih hholds
    refine ⟨all, ?_, by rwa [List.append_assoc] at hall⟩
    rw [List.foldlM_cons, hnext]
    exact hrest

/-- Reading undoes writing. -/
theorem ofToml_toToml (b : Baseline) : ofToml b.toToml = .ok b := by
  obtain ⟨ws⟩ := b
  have htext : (Baseline.toToml ⟨ws⟩).toList =
      (ws.map Waiver.fields).flatMap (tableChars "advisory") := by
    rw [toToml, String.toList_ofList, List.flatMap_map]
    exact List.flatMap_congr fun w _ => w.tomlChars_eq_tableChars
  have hbare : ∀ fields ∈ ws.map Waiver.fields, ∀ f ∈ fields, IsBareName f.1 := by
    intro fields hfields f hf
    obtain ⟨w, -, rfl⟩ := List.mem_map.mp hfields
    exact Waiver.isBareName_of_mem_fields hf
  have hname : IsBareName "advisory" := by simp [IsBareName, isBareKeyChar]
  obtain ⟨sections, hall, hread⟩ := readDocument_tables hname hbare
  rw [List.forall₂_map_right_iff] at hall
  obtain ⟨entries, hentries, hholds⟩ := Holds.nil.addSections hall
  rw [List.nil_append] at hholds
  rw [ofToml, htext, hread, hentries]
  simp only [hholds.ofEntries_eq]

end Baseline

/-- A baseline that is written as a document and parsed again is the same baseline: no waiver is
    lost, added or moved, and an absent expiry stays absent. This holds for all texts in its fields,
    whatever quotes, line feeds or control characters they hold. -/
theorem Gate.parse_toToml (b : Baseline) (path : String) : Gate.parse b.toToml path = .ok b := by
  rw [Gate.parse, b.ofToml_toToml]

end ExpiryGate
