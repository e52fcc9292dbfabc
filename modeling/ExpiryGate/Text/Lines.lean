namespace ExpiryGate.Text

/-- The lines with a line feed behind each of them. -/
def unlines (lines : List String) : String :=
  String.join (lines.map (· ++ "\n"))

/-- The characters of a text made of lines: each line is followed by a line feed, the last one too.
    -/
theorem toList_unlines (lines : List String) :
    (unlines lines).toList = lines.flatMap fun line => line.toList ++ ['\n'] := by
  simp [unlines, String.toList_join, List.flatMap_map]

end ExpiryGate.Text
