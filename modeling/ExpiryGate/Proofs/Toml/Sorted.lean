import ExpiryGate.Toml.Reader

namespace ExpiryGate.Toml

/-- Each key comes before all that stand behind it. -/
def Entries.Ascending (entries : Entries) : Prop :=
  entries.Pairwise fun e f => e.1.toList < f.1.toList

/-- The keys of every table in a node are ascending. -/
inductive Node.Sorted : Node → Prop
  | leaf (source : List Char) (scalar : Scalar) : (Node.leaf source scalar).Sorted
  | misfit (source : List Char) : (Node.misfit source).Sorted
  | array (source : List Char) (origin : ArrayOrigin) {items : List Node}
      (hitems : ∀ item ∈ items, item.Sorted) : (Node.array source origin items).Sorted
  | table (source : List Char) (origin : TableOrigin) {entries : Entries}
      (hkeys : entries.Ascending) (hnodes : ∀ e ∈ entries, e.2.Sorted) :
      (Node.table source origin entries).Sorted

/-- The keys are ascending, and so are those of every table below them. -/
structure Entries.Sorted (entries : Entries) : Prop where
  keys : entries.Ascending
  nodes : ∀ e ∈ entries, e.2.Sorted

theorem Node.sorted_array_iff {source : List Char} {origin : ArrayOrigin} {items : List Node} :
    (Node.array source origin items).Sorted ↔ ∀ item ∈ items, item.Sorted := by
  constructor
  · intro h
    cases h with
    | array _ _ hitems => exact hitems
  · exact .array source origin

theorem Node.sorted_table_iff {source : List Char} {origin : TableOrigin} {entries : Entries} :
    (Node.table source origin entries).Sorted ↔ entries.Sorted := by
  constructor
  · intro h
    cases h with
    | table _ _ hkeys hnodes => exact ⟨hkeys, hnodes⟩
  · rintro ⟨hkeys, hnodes⟩
    exact .table source origin hkeys hnodes

theorem Node.Sorted.of_mem_append_table {items : List Node} {entries : Entries} {item : Node}
    (hitems : ∀ item ∈ items, item.Sorted) (hentries : entries.Sorted) {source : List Char}
    {origin : TableOrigin} (hitem : item ∈ items ++ [.table source origin entries]) :
    item.Sorted := by
  obtain hitem | hitem := List.mem_append.1 hitem
  · exact hitems item hitem
  · rw [List.mem_singleton.1 hitem]
    exact Node.sorted_table_iff.2 hentries

namespace Entries

variable {entries : Entries} {key : String} {node : Node}

theorem sorted_nil : Entries.Sorted [] :=
  ⟨List.Pairwise.nil, fun _ he => absurd he List.not_mem_nil⟩

/-- Keys that are ascending are distinct. -/
theorem Ascending.nodup (h : entries.Ascending) : (entries.map Prod.fst).Nodup := by
  rw [List.Nodup, List.pairwise_map]
  apply h.imp
  intro e f hlt heq
  rw [heq] at hlt
  exact List.lt_irrefl _ hlt

theorem mem_of_mem_insert {e : String × Node} (he : e ∈ entries.insert key node) :
    e = (key, node) ∨ e ∈ entries := by
  induction entries with
  | nil => exact .inl (List.mem_singleton.1 he)
  | cons first rest ih =>
    obtain ⟨k, n⟩ := first
    rw [Entries.insert] at he
    split at he
    · obtain he | he := List.mem_cons.1 he
      · exact .inl he
      · exact .inr (List.mem_cons_of_mem _ he)
    · split at he
      · exact List.mem_cons.1 he
      · obtain he | he := List.mem_cons.1 he
        · exact .inr (he ▸ List.mem_cons_self)
        · exact (ih he).imp_right (List.mem_cons_of_mem _)

/-- An insertion keeps the keys in order, by the three places where it can end. -/
theorem Ascending.insert (h : entries.Ascending) (key : String) (node : Node) :
    (entries.insert key node).Ascending := by
  induction entries with
  | nil => exact List.pairwise_singleton _ _
  | cons first rest ih =>
    obtain ⟨k, n⟩ := first
    obtain ⟨hfirst, hrest⟩ := List.pairwise_cons.1 h
    rw [Entries.insert]
    split
    case isTrue heq =>
      subst heq
      exact List.pairwise_cons.2 ⟨hfirst, hrest⟩
    case isFalse hne =>
      split
      case isTrue hlt =>
        refine List.pairwise_cons.2 ⟨fun e he => ?_, h⟩
        obtain rfl | he := List.mem_cons.1 he
        · exact hlt
        · exact List.lt_trans hlt (hfirst e he)
      case isFalse hge =>
        -- The new key is behind the first one, and so is all of the rest.
        have hlt : k.toList < key.toList := by
          obtain hlt | heq := List.le_iff_lt_or_eq.1 (List.not_lt.1 hge)
          · exact hlt
          · exact absurd (String.toList_injective heq.symm) hne
        refine List.pairwise_cons.2 ⟨fun e he => ?_, ih hrest⟩
        obtain rfl | he := mem_of_mem_insert he
        · exact hlt
        · exact hfirst e he

/-- An insertion of a sorted node keeps entries sorted at every depth. -/
theorem Sorted.insert (h : entries.Sorted) (hnode : node.Sorted) :
    (entries.insert key node).Sorted := by
  refine ⟨h.keys.insert key node, fun e he => ?_⟩
  obtain rfl | he := mem_of_mem_insert he
  · exact hnode
  · exact h.nodes e he

theorem mem_of_lookup (hlookup : entries.lookup key = some node) : (key, node) ∈ entries := by
  obtain ⟨before, after, rfl, -⟩ := List.lookup_eq_some_iff.1 hlookup
  exact List.mem_append_right before List.mem_cons_self

theorem Sorted.of_lookup (h : entries.Sorted) (hlookup : entries.lookup key = some node) :
    node.Sorted :=
  h.nodes _ (mem_of_lookup hlookup)

/-- A change at the end of a path keeps the tables sorted if it keeps that table sorted. -/
theorem Sorted.descend {isDotted : Bool} {change : TableOrigin → Entries → Option Entries}
    (hchange : ∀ {origin inner result}, Entries.Sorted inner →
      change origin inner = some result → Entries.Sorted result)
    {path : List KeyPart} {origin : TableOrigin} {result : Entries} (h : entries.Sorted)
    (hresult : Toml.descend isDotted change path origin entries = some result) :
    result.Sorted := by
  induction path generalizing origin entries result with
  | nil =>
    rw [Toml.descend] at hresult
    exact hchange h hresult
  | cons part path ih =>
    rw [Toml.descend] at hresult
    split at hresult
    case h_1 =>
      obtain ⟨inner, hinner, hresult⟩ := Option.bind_eq_some_iff.1 hresult
      cases hresult
      exact h.insert (Node.sorted_table_iff.2 (ih sorted_nil hinner))
    case h_2 source origin inner hlookup =>
      split at hresult
      · cases hresult
      · obtain ⟨changed, hchanged, hresult⟩ := Option.bind_eq_some_iff.1 hresult
        cases hresult
        have hinner := Node.sorted_table_iff.1 (h.of_lookup hlookup)
        exact h.insert (Node.sorted_table_iff.2 (ih hinner hchanged))
    case h_3 source items hlookup =>
      split at hresult
      case h_1 first origin inner hlast =>
        obtain ⟨changed, hchanged, hresult⟩ := Option.bind_eq_some_iff.1 hresult
        cases hresult
        have hitems := Node.sorted_array_iff.1 (h.of_lookup hlookup)
        have hinner := Node.sorted_table_iff.1 (hitems _ (List.mem_of_getLast? hlast))
        have hothers : ∀ item ∈ items.dropLast, item.Sorted :=
          fun item hitem => hitems item (List.dropLast_subset items hitem)
        refine h.insert (Node.sorted_array_iff.2 fun item hitem => ?_)
        exact .of_mem_append_table hothers (ih hinner hchanged) hitem
      case h_2 => cases hresult
    case h_4 => cases hresult

theorem Sorted.assign {a : Assignment} {result : Entries} (h : entries.Sorted)
    (ha : a.value.Sorted) (hresult : Toml.assign entries a = some result) : result.Sorted := by
  refine h.descend (fun {origin inner result} hinner hresult => ?_) hresult
  split at hresult
  · cases hresult
  · split at hresult
    · cases hresult
    · cases hresult
      exact hinner.insert ha

/-- Several assignments in a row keep entries sorted. -/
theorem Sorted.assignAll {assignments : List Assignment} {result : Entries} (h : entries.Sorted)
    (hall : ∀ a ∈ assignments, a.value.Sorted)
    (hresult : Toml.assignAll entries assignments = some result) : result.Sorted := by
  induction assignments generalizing entries with
  | nil =>
    cases hresult
    exact h
  | cons a assignments ih =>
    rw [Toml.assignAll, List.foldlM_cons] at hresult
    obtain ⟨next, hnext, hresult⟩ := Option.bind_eq_some_iff.1 hresult
    have hsorted := h.assign (hall a List.mem_cons_self) hnext
    exact ih hsorted (fun a ha => hall a (List.mem_cons_of_mem _ ha)) hresult

/-- A section keeps a document sorted, wherever its header leads. -/
theorem Sorted.addTo {s : Section} {result : Entries} (h : entries.Sorted)
    (hall : ∀ a ∈ s.assignments, a.value.Sorted) (hresult : s.addTo entries = some result) :
    result.Sorted := by
  rw [Section.addTo] at hresult
  split at hresult
  case h_1 =>
    obtain ⟨inner, hinner, hresult⟩ := Option.bind_eq_some_iff.1 hresult
    cases hresult
    exact h.insert (Node.sorted_table_iff.2 (sorted_nil.assignAll hall hinner))
  case h_2 hlookup =>
    obtain ⟨inner, hinner, hresult⟩ := Option.bind_eq_some_iff.1 hresult
    cases hresult
    have hbefore := Node.sorted_table_iff.1 (h.of_lookup hlookup)
    exact h.insert (Node.sorted_table_iff.2 (hbefore.assignAll hall hinner))
  case h_3 =>
    obtain ⟨inner, hinner, hresult⟩ := Option.bind_eq_some_iff.1 hresult
    cases hresult
    refine h.insert (Node.sorted_array_iff.2 fun item hitem => ?_)
    rw [List.mem_singleton.1 hitem]
    exact Node.sorted_table_iff.2 (sorted_nil.assignAll hall hinner)
  case h_4 hlookup =>
    obtain ⟨inner, hinner, hresult⟩ := Option.bind_eq_some_iff.1 hresult
    cases hresult
    have hitems := Node.sorted_array_iff.1 (h.of_lookup hlookup)
    refine h.insert (Node.sorted_array_iff.2 fun item hitem => ?_)
    exact .of_mem_append_table hitems (sorted_nil.assignAll hall hinner) hitem
  case h_5 => cases hresult

/-- Several sections in a row keep a document sorted. -/
theorem Sorted.addSections {sections : List Section} {result : Entries} (h : entries.Sorted)
    (hall : ∀ s ∈ sections, ∀ a ∈ s.assignments, a.value.Sorted)
    (hresult : sections.foldlM addSection entries = some result) : result.Sorted := by
  induction sections generalizing entries with
  | nil =>
    cases hresult
    exact h
  | cons s sections ih =>
    rw [List.foldlM_cons] at hresult
    obtain ⟨next, hnext, hresult⟩ := Option.bind_eq_some_iff.1 hresult
    have hsorted : Entries.Sorted next :=
      h.descend (fun hparent => hparent.addTo (hall s List.mem_cons_self)) hnext
    exact ih hsorted (fun s hs => hall s (List.mem_cons_of_mem _ hs)) hresult

end Entries

theorem sorted_of_readWord? {source word : List Char} {node : Node}
    (h : readWord? source word = some node) : node.Sorted := by
  rw [readWord?] at h
  split at h
  · cases h
    exact .leaf _ _
  · split at h
    · cases h
      exact .leaf _ _
    · split at h
      · cases h
        exact .leaf _ _
      · obtain ⟨literal, -, rfl⟩ := Option.map_eq_some_iff.1 h
        cases literal
        · exact .leaf _ _
        · exact .leaf _ _
        · exact .misfit _

theorem sorted_of_readScalar {cs rest : List Char} {node : Node}
    (h : readScalar cs = some (node, rest)) : node.Sorted := by
  cases cs with
  | nil => cases h
  | cons c cs =>
    rw [readScalar] at h
    split at h
    · obtain ⟨s, -, hs⟩ := Option.map_eq_some_iff.1 h
      cases hs
      exact .leaf _ _
    · obtain ⟨word, hword, heq⟩ := Option.map_eq_some_iff.1 h
      cases heq
      exact sorted_of_readWord? hword

/-- With this fuel, whatever is read from sorted items and sorted entries on is sorted. -/
structure ReadsSorted (fuel : Nat) : Prop where
  value : ∀ {levels cs node rest}, readValue fuel levels cs = some (node, rest) → node.Sorted
  items : ∀ {levels source done cs node rest}, (∀ item ∈ done, item.Sorted) →
    readItems fuel levels source done cs = some (node, rest) → node.Sorted
  entries : ∀ {levels source entries cs node rest}, Entries.Sorted entries →
    readEntries fuel levels source entries cs = some (node, rest) → node.Sorted

namespace ReadsSorted

variable {fuel levels : Nat} {source cs rest : List Char} {node : Node}

/-- A value is sorted if the readers with less fuel return sorted nodes. -/
theorem readValue_succ (ih : ReadsSorted fuel)
    (h : readValue (fuel + 1) levels cs = some (node, rest)) : node.Sorted := by
  cases cs with
  | nil => cases h
  | cons c cs =>
    rw [readValue.eq_def] at h
    dsimp only at h
    split at h
    · split at h
      · cases h
      · exact ih.items (fun _ hitem => absurd hitem List.not_mem_nil) h
    · split at h
      · split at h
        · cases h
        · exact ih.entries Entries.sorted_nil h
      · exact sorted_of_readScalar h

/-- The items of an array are sorted if those read so far and the readers with less fuel are. -/
theorem readItems_succ (ih : ReadsSorted fuel) {done : List Node}
    (hdone : ∀ item ∈ done, item.Sorted)
    (h : readItems (fuel + 1) levels source done cs = some (node, rest)) : node.Sorted := by
  rw [readItems] at h
  split at h
  · cases h
  · cases h
    exact Node.sorted_array_iff.2 fun item hitem => hdone item (List.mem_reverse.1 hitem)
  · split at h
    case h_1 => cases h
    case h_2 item rest hitem =>
      have hmore : ∀ other ∈ item :: done, other.Sorted :=
        List.forall_mem_cons.2 ⟨ih.value hitem, hdone⟩
      split at h
      · exact ih.items hmore h
      · cases h
        exact Node.sorted_array_iff.2 fun other hother => hmore other (List.mem_reverse.1 hother)
      · cases h

/-- The entries of an inline table are sorted, since each is inserted where it belongs. -/
theorem readEntries_succ (ih : ReadsSorted fuel) {entries : Entries} (hentries : entries.Sorted)
    (h : readEntries (fuel + 1) levels source entries cs = some (node, rest)) : node.Sorted := by
  rw [readEntries] at h
  split at h
  · cases h
  · cases h
    exact Node.sorted_table_iff.2 hentries
  · split at h
    case h_1 => cases h
    case h_2 =>
      split at h
      case h_1 => cases h
      case h_2 hvalue =>
        split at h
        case h_1 hassign _ => exact ih.entries (hentries.assign (ih.value hvalue) hassign) h
        case h_2 hassign _ =>
          cases h
          exact Node.sorted_table_iff.2 (hentries.assign (ih.value hvalue) hassign)
        case h_3 => cases h

end ReadsSorted

/-- All readers return sorted nodes, by induction on the fuel that they share. -/
theorem readsSorted (fuel : Nat) : ReadsSorted fuel := by
  induction fuel with
  | zero =>
    refine ⟨fun h => ?_, fun _ h => ?_, fun _ h => ?_⟩
    · rw [readValue] at h
      cases h
    · rw [readItems] at h
      cases h
    · rw [readEntries] at h
      cases h
  | succ fuel ih => exact ⟨ih.readValue_succ, ih.readItems_succ, ih.readEntries_succ⟩

/-- The values in a line are sorted. -/
def Line.Sorted : Line → Prop
  | .header .. => True
  | .assignment a => a.value.Sorted

theorem sorted_of_readAssignment {cs rest : List Char} {line : Line}
    (h : readAssignment cs = some (line, rest)) : line.Sorted := by
  rw [readAssignment] at h
  split at h
  · cases h
  · obtain ⟨value, hvalue, heq⟩ := Option.map_eq_some_iff.1 h
    cases heq
    exact (readsSorted _).value hvalue

theorem sorted_of_readHeader {source cs rest : List Char} {line : Line}
    (h : readHeader source cs = some (line, rest)) : line.Sorted := by
  rw [readHeader.eq_def] at h
  split at h
  all_goals
    split at h
    · cases h
      trivial
    · cases h

theorem sorted_of_readLines {fuel : Nat} {done lines : List Line} {cs : List Char}
    (hdone : ∀ line ∈ done, line.Sorted) (h : readLines fuel done cs = some lines) :
    ∀ line ∈ lines, line.Sorted := by
  induction fuel generalizing done cs with
  | zero => cases h
  | succ fuel ih =>
    rw [readLines] at h
    split at h
    · cases h
      exact fun line hline => hdone line (List.mem_reverse.1 hline)
    · split at h
      · split at h
        · exact ih hdone h
        · cases h
      · split at h
        case h_1 => cases h
        case h_2 line rest hline =>
          have hsorted : line.Sorted := by
            split at hline
            · exact sorted_of_readHeader hline
            · exact sorted_of_readAssignment hline
          split at h
          · exact ih (List.forall_mem_cons.2 ⟨hsorted, hdone⟩) h
          · cases h

theorem sorted_of_groupLines {lines : List Line} (h : ∀ line ∈ lines, line.Sorted) :
    (∀ a ∈ (groupLines lines).1, a.value.Sorted) ∧
      ∀ s ∈ (groupLines lines).2, ∀ a ∈ s.assignments, a.value.Sorted := by
  induction lines with
  | nil => simp [groupLines]
  | cons line lines ih =>
    obtain ⟨hline, hlines⟩ := List.forall_mem_cons.1 h
    obtain ⟨htop, hsections⟩ := ih hlines
    cases line with
    | header source inArray key =>
      exact ⟨fun a ha => absurd ha List.not_mem_nil, List.forall_mem_cons.2 ⟨htop, hsections⟩⟩
    | assignment a => exact ⟨List.forall_mem_cons.2 ⟨hline, htop⟩, hsections⟩

/-- Every table of a document is sorted. -/
theorem sorted_of_readDocument {text : List Char} {entries : Entries}
    (h : readDocument text = some entries) : entries.Sorted := by
  obtain ⟨lines, hlines, hentries⟩ := Option.bind_eq_some_iff.1 h
  have hsorted := sorted_of_readLines (fun _ hline => absurd hline List.not_mem_nil) hlines
  obtain ⟨htop, hsections⟩ := sorted_of_groupLines hsorted
  obtain ⟨root, hroot, hentries⟩ := Option.bind_eq_some_iff.1 hentries
  exact (Entries.sorted_nil.assignAll htop hroot).addSections hsections hentries

end ExpiryGate.Toml
