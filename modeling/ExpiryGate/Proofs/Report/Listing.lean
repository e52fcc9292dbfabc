import ExpiryGate.Proofs.Text.Lines
import ExpiryGate.Verdict.Report

namespace ExpiryGate.Report

open Verdict (activeHeader failingHeader closingLine cleanLine)

/-- The lines of a report that stand for entries, by the group they are in. -/
structure Listing where
  active : List String
  failing : List String
deriving DecidableEq, Repr

/-- A line for an entry starts with two spaces, and no other line of a report does. -/
def isEntryLine (line : String) : Bool :=
  line.toList.take 2 = [' ', ' ']

/-- Lines for one or more entries. -/
def AreEntries (lines : List String) : Prop :=
  lines ≠ [] ∧ ∀ line ∈ lines, isEntryLine line = true

/-- The failing group: an empty line, a header with the number of entries, and their lines. -/
def failingGroup (failing : List String) : List String :=
  "" :: failingHeader failing.length :: failing

/-- The lines are a report with this listing. Each group is there iff it has entries; behind the
    active group stands the failing one or the closing line. -/
inductive Shows : List String → Listing → Prop
  | clean : Shows [cleanLine] ⟨[], []⟩
  | active {active : List String} (hactive : AreEntries active) :
      Shows (activeHeader active.length :: (active ++ [closingLine])) ⟨active, []⟩
  | failing {failing : List String} (hfailing : AreEntries failing) :
      Shows (failingGroup failing) ⟨[], failing⟩
  | both {active failing : List String} (hactive : AreEntries active)
      (hfailing : AreEntries failing) :
      Shows (activeHeader active.length :: (active ++ failingGroup failing)) ⟨active, failing⟩

/-- The lines of the failing group, which has to reach up to the end. -/
def readFailing? : List String → Option (List String)
  | blank :: header :: failing =>
    if blank = "" ∧ header = failingHeader failing.length ∧ failing ≠ [] ∧
        failing.all isEntryLine then some failing
    else none
  | _ => none

/-- What follows the active group: the closing line or the failing group. -/
def readEnd? (lines : List String) : Option (List String) :=
  if lines = [closingLine] then some [] else readFailing? lines

/-- The listing of a report. -/
def readLines? (lines : List String) : Option Listing :=
  if lines = [cleanLine] then some ⟨[], []⟩
  else
    match lines with
    | [] => none
    | first :: rest =>
      let active := rest.takeWhile isEntryLine
      if active = [] then (readFailing? lines).map fun failing => ⟨[], failing⟩
      else if first = activeHeader active.length then
        (readEnd? (rest.dropWhile isEntryLine)).map fun failing => ⟨active, failing⟩
      else none

/-- The listing of a report that is given as a text. -/
def read? (text : String) : Option Listing :=
  (Text.lines? text).bind readLines?

/-- The reader of failing entries takes exactly the lines of a failing group, with the number of
    entries that its header gives. -/
theorem readFailing?_eq_some_iff {lines failing : List String} :
    readFailing? lines = some failing ↔ AreEntries failing ∧ lines = failingGroup failing := by
  unfold AreEntries failingGroup
  constructor
  · intro hread
    unfold readFailing? at hread
    split at hread
    · split at hread
      · rename_i hform
        obtain ⟨rfl, rfl, hne, hall⟩ := hform
        cases hread
        exact ⟨⟨hne, List.all_eq_true.1 hall⟩, rfl⟩
      · cases hread
    · cases hread
  · rintro ⟨⟨hne, hall⟩, rfl⟩
    simp [readFailing?, hne, List.all_eq_true.2 hall]

/-- A failing group is never the one line that closes a passing report. -/
theorem failingGroup_ne_closingLine (failing : List String) :
    failingGroup failing ≠ [closingLine] := by
  intro h
  have hlength := congrArg List.length h
  simp [failingGroup] at hlength

/-- What follows the active entries is either the closing line or a failing group. -/
theorem readEnd?_eq_some_iff {lines failing : List String} :
    readEnd? lines = some failing ↔ failing = [] ∧ lines = [closingLine] ∨
      AreEntries failing ∧ lines = failingGroup failing := by
  unfold readEnd?
  by_cases hclosing : lines = [closingLine]
  · rw [if_pos hclosing]
    constructor
    · intro hread
      cases hread
      exact .inl ⟨rfl, hclosing⟩
    · rintro (⟨rfl, _⟩ | ⟨_, hgroup⟩)
      · rfl
      · rw [hgroup] at hclosing
        exact absurd hclosing (failingGroup_ne_closingLine failing)
  · rw [if_neg hclosing, readFailing?_eq_some_iff]
    simp [hclosing]

/-- The line of an entry is told by its indentation. -/
theorem isEntryLine_line (e : Entry) : isEntryLine e.line = true := by
  simp [isEntryLine, Entry.line]

theorem isEntryLine_failingHeader (count : Nat) : isEntryLine (failingHeader count) = false := by
  unfold isEntryLine failingHeader
  simp

/-- The active entries end where the failing group starts. -/
theorem takeWhile_append_failingGroup {active : List String} (hactive : AreEntries active)
    (failing : List String) :
    (active ++ failingGroup failing).takeWhile isEntryLine = active ∧
      (active ++ failingGroup failing).dropWhile isEntryLine = failingGroup failing := by
  have hblank : isEntryLine "" = false := rfl
  constructor
  · rw [List.takeWhile_append_of_pos hactive.2]
    simp [failingGroup, hblank]
  · rw [List.dropWhile_append_of_pos hactive.2]
    simp [failingGroup, hblank]

theorem takeWhile_append_closingLine {active : List String} (hactive : AreEntries active) :
    (active ++ [closingLine]).takeWhile isEntryLine = active ∧
      (active ++ [closingLine]).dropWhile isEntryLine = [closingLine] := by
  have hclosing : isEntryLine closingLine = false := by decide
  constructor
  · rw [List.takeWhile_append_of_pos hactive.2]
    simp [hclosing]
  · rw [List.dropWhile_append_of_pos hactive.2]
    simp [hclosing]

theorem areEntries_takeWhile {lines : List String} (hne : lines.takeWhile isEntryLine ≠ []) :
    AreEntries (lines.takeWhile isEntryLine) := by
  refine ⟨hne, fun line hline => ?_⟩
  exact List.all_eq_true.1 (List.all_takeWhile) line hline

/-- What the reader finds in lines is what they show. -/
theorem shows_of_readLines? {lines : List String} {listing : Listing}
    (hread : readLines? lines = some listing) : Shows lines listing := by
  unfold readLines? at hread
  split at hread
  · rename_i hclean
    cases hread
    rw [hclean]
    exact .clean
  cases lines with
  | nil => cases hread
  | cons first rest =>
    simp only at hread
    split at hread
    · obtain ⟨failing, hfailing, rfl⟩ := Option.map_eq_some_iff.1 hread
      obtain ⟨hentries, hgroup⟩ := readFailing?_eq_some_iff.1 hfailing
      rw [hgroup]
      exact .failing hentries
    rename_i hne
    split at hread
    · rename_i hheader
      obtain ⟨failing, hend, rfl⟩ := Option.map_eq_some_iff.1 hread
      have hactive := areEntries_takeWhile hne
      have hrest := List.takeWhile_append_dropWhile (p := isEntryLine) (l := rest)
      rw [hheader, ← hrest]
      rcases readEnd?_eq_some_iff.1 hend with ⟨rfl, hdrop⟩ | ⟨hentries, hdrop⟩
      · rw [hdrop, (takeWhile_append_closingLine hactive).1]
        exact .active hactive
      · rw [hdrop, (takeWhile_append_failingGroup hactive failing).1]
        exact .both hactive hentries
    · cases hread

/-- What lines show is found by the reader. -/
theorem readLines?_of_shows {lines : List String} {listing : Listing}
    (hshows : Shows lines listing) : readLines? lines = some listing := by
  cases hshows with
  | clean => simp [readLines?]
  | @active active hactive =>
    obtain ⟨htake, hdrop⟩ := takeWhile_append_closingLine hactive
    have hend : readEnd? [closingLine] = some [] := by simp [readEnd?]
    simp [readLines?, htake, hdrop, hend, hactive.1]
  | @failing failing hfailing =>
    have hread := readFailing?_eq_some_iff.2 ⟨hfailing, rfl⟩
    unfold failingGroup at hread ⊢
    simp [readLines?, isEntryLine_failingHeader, hread]
  | @both active failing hactive hfailing =>
    obtain ⟨htake, hdrop⟩ := takeWhile_append_failingGroup hactive failing
    have hend := readEnd?_eq_some_iff.2 (.inr ⟨hfailing, rfl⟩)
    simp [readLines?, htake, hdrop, hend, hactive.1]

/-- The reader accepts exactly the lines of the format. -/
theorem readLines?_eq_some_iff {lines : List String} {listing : Listing} :
    readLines? lines = some listing ↔ Shows lines listing :=
  ⟨shows_of_readLines?, readLines?_of_shows⟩

end ExpiryGate.Report
