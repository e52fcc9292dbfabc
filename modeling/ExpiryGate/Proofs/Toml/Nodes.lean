import ExpiryGate.Toml.Shape

namespace ExpiryGate.Toml

/-- The node is a string. -/
def Node.IsString (node : Node) : Prop :=
  ∃ source text, node = .leaf source (.string text)

/-- The scalar is no integer outside the range of 64 bits with a sign. -/
def Scalar.Fits (scalar : Scalar) : Prop :=
  ∀ n, scalar = .integer n → -9223372036854775808 ≤ n ∧ n ≤ 9223372036854775807

/-- The node has no integers outside that range and no numbers without values, whatever the keys of
    its tables are. -/
inductive Node.HasNarrowIntegers : Node → Prop
  | leaf (source : List Char) {scalar : Scalar} (hfits : scalar.Fits) :
      (Node.leaf source scalar).HasNarrowIntegers
  | array (source : List Char) (origin : ArrayOrigin) {items : List Node}
      (hitems : ∀ item ∈ items, item.HasNarrowIntegers) :
      (Node.array source origin items).HasNarrowIntegers
  | table (source : List Char) (origin : TableOrigin) {entries : List (String × Node)}
      (hnodes : ∀ e ∈ entries, e.2.HasNarrowIntegers) :
      (Node.table source origin entries).HasNarrowIntegers

/-- The node has a value: all numbers in it have one, its integers fit 64 bits with a sign, and a
    table whose first key is the one for dates and times has a date or time there, whatever else is
    in it. -/
inductive Node.IsValue : Node → Prop
  | leaf (source : List Char) {scalar : Scalar} (hfits : scalar.Fits) :
      (Node.leaf source scalar).IsValue
  | array (source : List Char) (origin : ArrayOrigin) {items : List Node}
      (hitems : ∀ item ∈ items, item.IsValue) : (Node.array source origin items).IsValue
  | table (source : List Char) (origin : TableOrigin) {entries : List (String × Node)}
      (hkey : ∀ e ∈ entries.head?, e.1 ≠ datetimeKey) (hnodes : ∀ e ∈ entries, e.2.IsValue) :
      (Node.table source origin entries).IsValue
  | datetime (source : List Char) (origin : TableOrigin) (place : List Char) {text : String}
      (others : List (String × Node)) (hread : (Datetime.read? text.toList).isSome) :
      (Node.table source origin ((datetimeKey, .leaf place (.string text)) :: others)).IsValue

/-- All numbers in the entries have values. -/
def Entries.HaveValues (entries : Entries) : Prop :=
  ∀ e ∈ entries, e.2.misfit? = none

/-- All numbers below keys other than these have values. -/
def Entries.HaveValuesOutside (keys : List String) (entries : Entries) : Prop :=
  ∀ e ∈ entries, e.1 ∉ keys → e.2.misfit? = none

/-- The integers of 64 bits with a sign, by their bounds. -/
theorem fitsSigned_64_iff {n : Int} :
    fitsSigned 64 n = true ↔ -9223372036854775808 ≤ n ∧ n ≤ 9223372036854775807 := by
  have hbound : twoPow (64 - 1) = 9223372036854775808 := rfl
  rw [fitsSigned, hbound, Bool.and_eq_true, decide_eq_true_eq, decide_eq_true_eq]
  omega

namespace Node

variable {node : Node}

/-- A refusal is never a success. -/
theorem refuse_ne_ok {α : Type} (node : Node) (expected : String) (a : α) :
    node.refuse expected ≠ .ok a := by
  rw [refuse]
  split <;> exact nofun

theorem text?_eq_ok_iff {s : String} :
    node.text? = .ok s ↔ ∃ source, node = .leaf source (.string s) := by
  rw [text?.eq_def]
  split
  case h_1 source text =>
    constructor
    · rintro ⟨⟩
      exact ⟨source, rfl⟩
    · rintro ⟨_, ⟨⟩⟩
      rfl
  case h_2 hother =>
    constructor
    · exact fun h => absurd h (refuse_ne_ok _ _ _)
    · rintro ⟨source, rfl⟩
      exact absurd rfl (hother source s)

theorem exists_text?_iff : (∃ s, node.text? = .ok s) ↔ node.IsString := by
  simp only [text?_eq_ok_iff]
  exact exists_comm

/-- A node that is passed over is refused for nothing but a number without a value. -/
theorem exists_pass_iff : (∃ u, node.pass = .ok u) ↔ node.misfit? = none := by
  rw [pass]
  cases node.misfit? <;> simp

/-- What stands for a date or time has to be a string with one in it. -/
theorem exists_datetime?_iff :
    (∃ v, node.datetime? = .ok v) ↔
      ∃ source text, node = .leaf source (.string text) ∧ (Datetime.read? text.toList).isSome := by
  rw [datetime?.eq_def]
  split
  case h_1 source text =>
    cases hread : Datetime.read? text.toList with
    | none =>
      refine ⟨fun h => ?_, fun h => ?_⟩
      · obtain ⟨v, ⟨⟩⟩ := h
      · obtain ⟨_, _, ⟨⟩, hsome⟩ := h
        rw [hread] at hsome
        cases hsome
    | some d => exact ⟨fun _ => ⟨source, text, rfl, by rw [hread]; rfl⟩, fun _ => ⟨_, rfl⟩⟩
  case h_2 hother =>
    constructor
    · rintro ⟨v, h⟩
      exact absurd h (refuse_ne_ok _ _ _)
    · rintro ⟨source, text, rfl, -⟩
      exact absurd rfl (hother source text)

/-- A scalar has a value unless it is an integer out of range. -/
theorem exists_value?_leaf_iff {source : List Char} {scalar : Scalar} :
    (∃ v, (Node.leaf source scalar).value? = .ok v) ↔ scalar.Fits := by
  cases scalar with
  | integer n =>
    have hfits : (Scalar.integer n).Fits ↔ fitsSigned 64 n = true := by
      rw [fitsSigned_64_iff, Scalar.Fits]
      exact ⟨fun h => h n rfl, fun h m hm => by cases hm; exact h⟩
    rw [hfits, value?]
    split
    case isTrue h => exact ⟨fun _ => h, fun _ => ⟨_, rfl⟩⟩
    case isFalse h =>
      refine ⟨fun hv => ?_, fun hfits => absurd hfits h⟩
      obtain ⟨v, hv⟩ := hv
      split at hv <;> cases hv
  | string | float | boolean | datetime =>
    exact ⟨fun _ => nofun, fun _ => ⟨_, rfl⟩⟩

end Node

theorem exists_itemValues?_iff {items : List Node} :
    (∃ vs, itemValues? items = .ok vs) ↔ ∀ item ∈ items, ∃ v, item.value? = .ok v := by
  induction items with
  | nil => simp [itemValues?]
  | cons item items ih =>
    rw [List.forall_mem_cons, ← ih, itemValues?]
    cases item.value? <;> cases itemValues? items <;> simp

theorem exists_entryListValues?_iff {entries : List (String × Node)} :
    (∃ vs, entryListValues? entries = .ok vs) ↔ ∀ e ∈ entries, ∃ v, e.2.value? = .ok v := by
  induction entries with
  | nil => simp [entryListValues?]
  | cons e entries ih =>
    obtain ⟨key, node⟩ := e
    rw [List.forall_mem_cons, ← ih, entryListValues?, entryValue?]
    cases node.value? <;> cases entryListValues? entries <;> simp

theorem itemsMisfit?_eq_none_iff {items : List Node} :
    itemsMisfit? items = none ↔ ∀ item ∈ items, item.misfit? = none := by
  induction items with
  | nil => simp [itemsMisfit?]
  | cons item items ih => rw [itemsMisfit?, Option.or_eq_none_iff, ih, List.forall_mem_cons]

theorem entryListMisfit?_eq_none_iff {entries : List (String × Node)} :
    entryListMisfit? entries = none ↔ ∀ e ∈ entries, e.2.misfit? = none := by
  induction entries with
  | nil => simp [entryListMisfit?]
  | cons e entries ih =>
    rw [entryListMisfit?, Option.or_eq_none_iff, ih, List.forall_mem_cons, entryMisfit?]

namespace Node

theorem exists_value?_array_iff {source : List Char} {origin : ArrayOrigin} {items : List Node} :
    (∃ v, (Node.array source origin items).value? = .ok v) ↔
      ∀ item ∈ items, ∃ v, item.value? = .ok v := by
  rw [← exists_itemValues?_iff, value?]
  cases itemValues? items <;> simp

/-- A table that stands for no date has a value iff all of its nodes have one. -/
theorem exists_value?_table_iff {source : List Char} {origin : TableOrigin}
    {entries : List (String × Node)} (hkey : ∀ e ∈ entries.head?, e.1 ≠ datetimeKey) :
    (∃ v, (Node.table source origin entries).value? = .ok v) ↔
      ∀ e ∈ entries, ∃ v, e.2.value? = .ok v := by
  rw [← exists_entryListValues?_iff]
  cases entries with
  | nil => simp [value?, entryListValues?]
  | cons e entries =>
    obtain ⟨key, node⟩ := e
    rw [value?, if_neg (hkey _ rfl)]
    cases entryListValues? ((key, node) :: entries) <;> simp

/-- A table that stands for a date is judged by this entry alone. -/
theorem exists_value?_datetimeKey_iff {source : List Char} {origin : TableOrigin} {node : Node}
    {others : List (String × Node)} :
    (∃ v, (Node.table source origin ((datetimeKey, node) :: others)).value? = .ok v) ↔
      ∃ v, node.datetime? = .ok v := by
  rw [value?, if_pos rfl]

/-- Nodes with a value are read, by induction on why they have one. -/
theorem exists_value?_of_isValue {node : Node} (h : node.IsValue) : ∃ v, node.value? = .ok v := by
  induction h with
  | leaf source hfits => exact exists_value?_leaf_iff.2 hfits
  | array source origin _ ih => exact exists_value?_array_iff.2 ih
  | table source origin hkey _ ih => exact (exists_value?_table_iff hkey).2 ih
  | datetime source origin place others hread =>
    exact exists_value?_datetimeKey_iff.2 (exists_datetime?_iff.2 ⟨place, _, rfl, hread⟩)

theorem isValue_of_value?_table {source : List Char} {origin : TableOrigin}
    {entries : List (String × Node)}
    (hnodes : ∀ e ∈ entries, (∃ v, e.2.value? = .ok v) → e.2.IsValue)
    (h : ∃ v, (Node.table source origin entries).value? = .ok v) :
    (Node.table source origin entries).IsValue := by
  by_cases hkey : ∀ e ∈ entries.head?, e.1 ≠ datetimeKey
  · refine .table source origin hkey fun e he => hnodes e he ?_
    exact (exists_value?_table_iff hkey).1 h e he
  · cases entries with
    | nil => exact absurd nofun hkey
    | cons e others =>
      obtain ⟨key, node⟩ := e
      obtain rfl : key = datetimeKey := by simpa using hkey
      obtain ⟨place, text, rfl, hread⟩ := exists_datetime?_iff.1 (exists_value?_datetimeKey_iff.1 h)
      exact .datetime source origin place others hread

mutual

/-- Nodes that are read have a value. The recursion is that of the reader, through items and
    entries. -/
theorem isValue_of_value? : ∀ node : Node, (∃ v, node.value? = .ok v) → node.IsValue
  | .leaf source _, h => .leaf source (exists_value?_leaf_iff.1 h)
  | .misfit _, ⟨_, h⟩ => nomatch h
  | .array source origin items, h =>
    .array source origin fun item hitem =>
      isValue_of_mem_items items item hitem (exists_value?_array_iff.1 h item hitem)
  | .table _ _ entries, h => isValue_of_value?_table (isValue_of_mem_entries entries) h

theorem isValue_of_mem_items : ∀ items : List Node, ∀ item ∈ items,
    (∃ v, item.value? = .ok v) → item.IsValue
  | [], _, hitem, _ => nomatch hitem
  | first :: items, item, hitem, h =>
    match List.mem_cons.1 hitem with
    | .inl heq => heq ▸ isValue_of_value? first (heq ▸ h)
    | .inr hitem => isValue_of_mem_items items item hitem h

theorem isValue_of_mem_entries : ∀ entries : List (String × Node), ∀ e ∈ entries,
    (∃ v, e.2.value? = .ok v) → e.2.IsValue
  | [], _, he, _ => nomatch he
  | (key, first) :: entries, e, he, h =>
    match List.mem_cons.1 he with
    | .inl heq => heq ▸ isValue_of_value? first (by rw [heq] at h; exact h)
    | .inr he => isValue_of_mem_entries entries e he h

end

/-- The reader accepts exactly the nodes with a value. -/
theorem exists_value?_iff {node : Node} : (∃ v, node.value? = .ok v) ↔ node.IsValue :=
  ⟨node.isValue_of_value?, exists_value?_of_isValue⟩

end Node

end ExpiryGate.Toml
