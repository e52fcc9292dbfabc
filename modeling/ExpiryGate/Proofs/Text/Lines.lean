import ExpiryGate.Text.Lines

namespace ExpiryGate.Text

/-- The lines of a text, in which every line has to end with a line feed. -/
def lines? (text : String) : Option (List String) :=
  let pieces := text.toList.splitOn '\n'
  if pieces.getLast? = some [] then some (pieces.dropLast.map String.ofList) else none

/-- The text is one line. -/
def IsLine (text : String) : Prop :=
  '\n' ∉ text.toList

instance (text : String) : Decidable (IsLine text) :=
  inferInstanceAs (Decidable ('\n' ∉ text.toList))

theorem unlines_append (first rest : List String) :
    unlines (first ++ rest) = unlines first ++ unlines rest := by
  apply String.toList_injective
  simp [toList_unlines]

theorem unlines_singleton (line : String) : unlines [line] = line ++ "\n" := by
  apply String.toList_injective
  simp [toList_unlines]

/-- A text made of lines ends with a line feed. -/
theorem exists_unlines_eq {lines : List String} (hne : lines ≠ []) :
    ∃ before, unlines lines = before ++ "\n" := by
  rw [← List.dropLast_concat_getLast hne, unlines_append, unlines_singleton]
  exact ⟨_, (String.append_assoc ..).symm⟩

/-- Splitting a text made of lines at its line feeds gives the lines and an empty piece behind the
    last one. -/
theorem splitOn_unlines {lines : List String} (hlines : ∀ line ∈ lines, IsLine line) :
    (unlines lines).toList.splitOn '\n' = lines.map String.toList ++ [[]] := by
  rw [toList_unlines]
  induction lines with
  | nil => rfl
  | cons line lines ih =>
    have hline : '\n' ∉ line.toList := hlines line List.mem_cons_self
    have hrest := ih fun other hother => hlines other (List.mem_cons_of_mem _ hother)
    rw [List.flatMap_cons, List.append_assoc, List.singleton_append,
      List.splitOn_append_cons_self_of_not_mem hline, hrest]
    rfl

/-- Splitting a text undoes making it of lines, if none of them holds a line feed. -/
theorem lines?_unlines {lines : List String} (hlines : ∀ line ∈ lines, IsLine line) :
    lines? (unlines lines) = some lines := by
  unfold lines?
  simp only [splitOn_unlines hlines]
  simp [Function.comp_def]

theorem IsLine.append {s t : String} (hs : IsLine s) (ht : IsLine t) : IsLine (s ++ t) := by
  unfold IsLine at *
  simp [hs, ht]

end ExpiryGate.Text
