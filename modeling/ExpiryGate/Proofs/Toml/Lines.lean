import ExpiryGate.Proofs.Toml.Quoted
import ExpiryGate.Toml.Reader
import ExpiryGate.Waiver.Document
import Mathlib.Data.List.Forall2

namespace ExpiryGate.Toml

/-- The name can stand as a key without quotes. -/
def IsBareName (name : String) : Prop :=
  name.toList ≠ [] ∧ ∀ c ∈ name.toList, isBareKeyChar c = true

theorem ne_of_isBareKeyChar {c d : Char} (hc : isBareKeyChar c = true)
    (hd : isBareKeyChar d = false) : c ≠ d := by
  rintro rfl
  rw [hc] at hd
  cases hd

theorem isBlank_of_isBareKeyChar {c : Char} (hc : isBareKeyChar c = true) : isBlank c = false := by
  have hspace : c ≠ ' ' := ne_of_isBareKeyChar hc (by decide)
  have htab : c ≠ '\t' := ne_of_isBareKeyChar hc (by decide)
  simp [isBlank, hspace, htab]

theorem skipBlanks_cons {c : Char} (hc : isBlank c = false) (rest : List Char) :
    skipBlanks (c :: rest) = c :: rest := by
  simp [skipBlanks, hc]

theorem readKeyPart_bare {name : String} (hname : IsBareName name) {rest : List Char}
    (hrest : ∀ c, rest.head? = some c → isBareKeyChar c = false) :
    readKeyPart (name.toList ++ rest) = some (⟨name, name.toList ++ rest⟩, rest) := by
  obtain ⟨hne, hbare⟩ := hname
  have htake : (name.toList ++ rest).takeWhile isBareKeyChar = name.toList := by
    have hstop : rest.takeWhile isBareKeyChar = [] := by
      cases rest with
      | nil => rfl
      | cons c rest => simp [hrest c rfl]
    rw [List.takeWhile_append_of_pos hbare, hstop, List.append_nil]
  have hofList : String.ofList name.toList = name := String.ofList_toList
  obtain ⟨c, cs, hcs⟩ := List.exists_cons_of_ne_nil hne
  rw [hcs] at htake hbare hofList ⊢
  have hc := hbare c List.mem_cons_self
  have hdouble : c ≠ '"' := ne_of_isBareKeyChar hc (by decide)
  have hsingle : c ≠ '\'' := ne_of_isBareKeyChar hc (by decide)
  rw [List.cons_append] at htake ⊢
  simp only [readKeyPart, if_neg hdouble, if_neg hsingle, htake, hofList]
  simp

/-- A bare name is a whole key unless a dot follows it. -/
theorem readKey_bare {name : String} (hname : IsBareName name) (limit : Nat) {rest : List Char}
    (hrest : ∀ c, rest.head? = some c → isBareKeyChar c = false)
    (hdot : (skipBlanks rest).head? ≠ some '.') :
    readKey (limit + 1) (name.toList ++ rest) =
      some (⟨[], ⟨name, name.toList ++ rest⟩⟩, skipBlanks rest) := by
  have hskip : skipBlanks (name.toList ++ rest) = name.toList ++ rest := by
    obtain ⟨hne, hbare⟩ := hname
    obtain ⟨c, cs, hcs⟩ := List.exists_cons_of_ne_nil hne
    rw [hcs] at hbare ⊢
    exact skipBlanks_cons (isBlank_of_isBareKeyChar (hbare c List.mem_cons_self)) _
  rw [readKey, hskip, readKeyPart_bare hname hrest]
  simp only [bind, Option.bind]
  split
  · rename_i hopens
    rw [hopens] at hdot
    exact absurd rfl hdot
  · rfl

/-- A bare name in double brackets is the header of one more table of an array. -/
theorem readHeader_bare {name : String} (hname : IsBareName name) (source rest : List Char) :
    ∃ part : KeyPart, part.name = name ∧
      readHeader source ('[' :: (name.toList ++ ']' :: ']' :: rest)) =
        some (.header source true ⟨[], part⟩, rest) := by
  have hstop : ∀ c, (']' :: ']' :: rest).head? = some c → isBareKeyChar c = false := by
    intro c hc
    cases hc
    decide
  have hskip : skipBlanks (']' :: ']' :: rest) = ']' :: ']' :: rest :=
    skipBlanks_cons (by decide) _
  have hkey : readKey maxKeyParts (name.toList ++ ']' :: ']' :: rest) =
      some (⟨[], ⟨name, name.toList ++ ']' :: ']' :: rest⟩⟩, ']' :: ']' :: rest) := by
    rw [maxKeyParts, readKey_bare hname 79 hstop (by simp [hskip]), hskip]
  refine ⟨⟨name, name.toList ++ ']' :: ']' :: rest⟩, rfl, ?_⟩
  simp only [readHeader, hkey]

/-- Whatever form a string is written in, it starts with a quote. -/
theorem quoteString_opens (s : String) :
    ∃ c rest, quoteString s = c :: rest ∧ (c = '"' ∨ c = '\'') := by
  unfold quoteString
  cases StringForm.of s.toList with
  | basic => exact ⟨'"', _, rfl, .inl rfl⟩
  | literal => exact ⟨'\'', _, rfl, .inr rfl⟩
  | basicBlock => exact ⟨'"', _, rfl, .inl rfl⟩
  | literalBlock => exact ⟨'\'', _, rfl, .inr rfl⟩

/-- A string is read as a value up to the end of its line. -/
theorem readValue_quoteString (fuel levels : Nat) (s : String) (rest : List Char) :
    ∃ source, readValue (fuel + 1) levels (quoteString s ++ '\n' :: rest) =
      some (.leaf source (.string s), '\n' :: rest) := by
  have hfeed : ('\n' :: rest).head? = some '\n' := rfl
  have hread : readQuoted (quoteString s ++ '\n' :: rest) = some (s, '\n' :: rest) :=
    readQuoted_quoteString s (by rw [hfeed]; decide) (by rw [hfeed]; decide)
  obtain ⟨c, tail, htext, hquote⟩ := quoteString_opens s
  rw [htext, List.cons_append] at hread ⊢
  have hbracket : c ≠ '[' := by
    rcases hquote with rfl | rfl <;> decide
  have hbrace : c ≠ '\x7b' := by
    rcases hquote with rfl | rfl <;> decide
  refine ⟨c :: (tail ++ '\n' :: rest), ?_⟩
  simp only [readValue, if_neg hbracket, if_neg hbrace, readScalar, if_pos hquote, hread,
    Option.map_some]

/-- The assignment gives the key this string. -/
def Assignment.Sets (a : Assignment) (key value : String) : Prop :=
  a.key.parents = [] ∧ a.key.last.name = key ∧ ∃ source, a.value = .leaf source (.string value)

/-- The line for a field is read as the assignment of its text to its key. -/
theorem readAssignment_stringLine {key : String} (hkey : IsBareName key) (value : String)
    (rest : List Char) :
    ∃ a : Assignment, a.Sets key value ∧
      readAssignment (stringLine key value ++ rest) = some (.assignment a, '\n' :: rest) := by
  have htext : stringLine key value ++ rest =
      key.toList ++ ' ' :: '=' :: ' ' :: (quoteString value ++ '\n' :: rest) := by
    simp [stringLine]
  obtain ⟨c, tail, hopens, hquote⟩ := quoteString_opens value
  have hblank : isBlank c = false := by
    rcases hquote with rfl | rfl <;> decide
  have hstop : ∀ c, (' ' :: '=' :: ' ' :: (quoteString value ++ '\n' :: rest)).head? = some c →
      isBareKeyChar c = false := by
    intro c hc
    cases hc
    decide
  have hbefore : skipBlanks (' ' :: '=' :: ' ' :: (quoteString value ++ '\n' :: rest)) =
      '=' :: ' ' :: (quoteString value ++ '\n' :: rest) := rfl
  have hbehind : skipBlanks (' ' :: (quoteString value ++ '\n' :: rest)) =
      quoteString value ++ '\n' :: rest := by
    rw [hopens, List.cons_append]
    exact skipBlanks_cons hblank _
  have hread := readKey_bare hkey 79 hstop (by simp [hbefore])
  obtain ⟨source, hvalue⟩ := readValue_quoteString
    (2 * (quoteString value ++ '\n' :: rest).length + 1) maxNesting value rest
  have hequals : readKeyEquals (fun cs => some (skipBlanks cs)) (stringLine key value ++ rest) =
      some (⟨[], ⟨key, stringLine key value ++ rest⟩⟩, quoteString value ++ '\n' :: rest) := by
    rw [readKeyEquals, maxKeyParts, htext, hread, hbefore]
    simp only [bind, Option.bind, skipBlanks_cons (c := '=') (by decide), hbehind]
  refine ⟨⟨⟨[], ⟨key, stringLine key value ++ rest⟩⟩, .leaf source (.string value)⟩,
    ⟨rfl, rfl, source, rfl⟩, ?_⟩
  simp only [readAssignment, hequals, hvalue, Option.map_some]

/-- A line is read, and what bounds the number of lines still suffices for the rest. -/
theorem readLines_of_line {c : Char} {tail rest : List Char} {line : Line} (fuel : Nat)
    (done : List Line) (hc : c = '[' ∨ isBareKeyChar c = true)
    (hline : (if c = '[' then readHeader (c :: tail) tail else readAssignment (c :: tail)) =
      some (line, '\n' :: rest)) :
    readLines (fuel + 1) done (c :: tail) = readLines fuel (line :: done) rest := by
  have hopens : isBlank c = false ∧ ¬ (c = '\n' ∨ c = '\r' ∨ c = '#') := by
    rcases hc with rfl | hbare
    · decide
    · refine ⟨isBlank_of_isBareKeyChar hbare, ?_⟩
      rintro (rfl | rfl | rfl) <;> exact absurd hbare (by decide)
  have hend : endLine ('\n' :: rest) = some rest := rfl
  rw [readLines, skipBlanks_cons hopens.1]
  simp only [if_neg hopens.2, hline, hend]

/-- A table of an array: its header and its fields, all of them strings. -/
def tableChars (name : String) (fields : List (String × String)) : List Char :=
  '[' :: '[' :: (name.toList ++ ']' :: ']' :: '\n' :: fields.flatMap fun f => stringLine f.1 f.2)

/-- The section is the table of an array with this name and these fields. -/
structure Section.IsTable (s : Section) (name : String) (fields : List (String × String)) :
    Prop where
  inArray : s.inArray = true
  parents : s.key.parents = []
  name : s.key.last.name = name
  assignments : List.Forall₂ (fun a f => a.Sets f.1 f.2) s.assignments fields

/-- The lines that make up a section. -/
def Section.lines (s : Section) : List Line :=
  .header s.source s.inArray s.key :: s.assignments.map .assignment

/-- The fields of a table are read line by line, and the reader goes on behind the last of them. -/
theorem readLines_stringLines {fields : List (String × String)}
    (hbare : ∀ f ∈ fields, IsBareName f.1) (done : List Line) (rest : List Char) {fuel : Nat}
    (hfuel : (fields.flatMap (fun f => stringLine f.1 f.2) ++ rest).length < fuel) :
    ∃ assignments left, List.Forall₂ (fun a f => a.Sets f.1 f.2) assignments fields ∧
      rest.length < left ∧
      readLines fuel done (fields.flatMap (fun f => stringLine f.1 f.2) ++ rest) =
        readLines left ((assignments.map Line.assignment).reverse ++ done) rest := by
  induction fields generalizing done fuel with
  | nil => exact ⟨[], fuel, .nil, hfuel, rfl⟩
  | cons f fields ih =>
    obtain ⟨key, value⟩ := f
    have hkey : IsBareName key := hbare (key, value) List.mem_cons_self
    rw [List.flatMap_cons, List.append_assoc] at hfuel ⊢
    generalize htail : fields.flatMap (fun f => stringLine f.1 f.2) ++ rest = tail at hfuel ih ⊢
    obtain ⟨a, hsets, hread⟩ := readAssignment_stringLine hkey value tail
    obtain ⟨c, cs, hcs⟩ := List.exists_cons_of_ne_nil hkey.1
    have htext : stringLine key value ++ tail =
        c :: (cs ++ ' ' :: '=' :: ' ' :: (quoteString value ++ '\n' :: tail)) := by
      simp [stringLine, hcs]
    have hc : isBareKeyChar c = true := hkey.2 c (by simp [hcs])
    have hbracket : c ≠ '[' := ne_of_isBareKeyChar hc (by decide)
    simp only at hfuel ⊢
    rw [htext] at hfuel hread ⊢
    obtain ⟨fuel, rfl⟩ : ∃ k, fuel = k + 1 := ⟨fuel - 1, by omega⟩
    rw [readLines_of_line fuel done (.inr hc) (by rw [if_neg hbracket, hread])]
    have hshort : tail.length < fuel := by
      simp only [List.length_cons, List.length_append] at hfuel
      omega
    obtain ⟨assignments, left, hall, hleft, hrest⟩ :=
      ih (fun f hf => hbare f (List.mem_cons_of_mem _ hf)) (.assignment a :: done) hshort
    refine ⟨a :: assignments, left, .cons hsets hall, hleft, ?_⟩
    rw [hrest, List.map_cons, List.reverse_cons, List.append_assoc, List.singleton_append]

/-- A table is read as the lines of one section, and the reader goes on behind it. -/
theorem readLines_tableChars {name : String} (hname : IsBareName name)
    {fields : List (String × String)} (hbare : ∀ f ∈ fields, IsBareName f.1) (done : List Line)
    (rest : List Char) {fuel : Nat} (hfuel : (tableChars name fields ++ rest).length < fuel) :
    ∃ (s : Section) (left : Nat), s.IsTable name fields ∧ rest.length < left ∧
      readLines fuel done (tableChars name fields ++ rest) =
        readLines left (s.lines.reverse ++ done) rest := by
  have htext : tableChars name fields ++ rest = '[' :: '[' :: (name.toList ++ ']' :: ']' ::
      '\n' :: (fields.flatMap (fun f => stringLine f.1 f.2) ++ rest)) := by
    simp [tableChars]
  rw [htext] at hfuel ⊢
  obtain ⟨fuel, rfl⟩ : ∃ k, fuel = k + 1 := ⟨fuel - 1, by omega⟩
  generalize hsource : '[' :: '[' :: (name.toList ++ ']' :: ']' ::
      '\n' :: (fields.flatMap (fun f => stringLine f.1 f.2) ++ rest)) = source at hfuel ⊢
  obtain ⟨part, hpart, hheader⟩ := readHeader_bare hname source
    ('\n' :: (fields.flatMap (fun f => stringLine f.1 f.2) ++ rest))
  have hshort : (fields.flatMap (fun f => stringLine f.1 f.2) ++ rest).length < fuel := by
    rw [← hsource] at hfuel
    simp only [List.length_cons, List.length_append] at hfuel ⊢
    omega
  obtain ⟨assignments, left, hall, hleft, hread⟩ :=
    readLines_stringLines hbare (.header source true ⟨[], part⟩ :: done) rest hshort
  refine ⟨⟨source, true, ⟨[], part⟩, assignments⟩, left, ⟨rfl, rfl, hpart, hall⟩, hleft, ?_⟩
  rw [← hsource] at hheader
  conv_lhs => rw [← hsource]
  rw [readLines_of_line fuel done (.inl rfl) (by rw [if_pos rfl, hheader]), hsource, hread]
  simp [Section.lines]

theorem groupLines_assignments (assignments : List Assignment) (lines : List Line) :
    groupLines (assignments.map .assignment ++ lines) =
      (assignments ++ (groupLines lines).1, (groupLines lines).2) := by
  induction assignments with
  | nil => rfl
  | cons a assignments ih => rw [List.map_cons, List.cons_append, groupLines, ih, List.cons_append]

/-- Lines of whole sections are grouped into these sections. -/
theorem groupLines_sections (sections : List Section) :
    groupLines (sections.flatMap Section.lines) = ([], sections) := by
  induction sections with
  | nil => rfl
  | cons s sections ih =>
    rw [List.flatMap_cons, Section.lines, List.cons_append, groupLines, groupLines_assignments, ih]
    simp

/-- A document of tables with string fields is read as the lines of one section for each of them, by
    induction on the tables. -/
theorem readLines_tables {name : String} (hname : IsBareName name)
    {tables : List (List (String × String))}
    (hbare : ∀ fields ∈ tables, ∀ f ∈ fields, IsBareName f.1) (done : List Line) {fuel : Nat}
    (hfuel : (tables.flatMap (tableChars name)).length < fuel) :
    ∃ sections : List Section, List.Forall₂ (fun s fields => s.IsTable name fields) sections tables ∧
      readLines fuel done (tables.flatMap (tableChars name)) =
        some (done.reverse ++ sections.flatMap Section.lines) := by
  induction tables generalizing done fuel with
  | nil =>
    obtain ⟨fuel, rfl⟩ : ∃ k, fuel = k + 1 := ⟨fuel - 1, by omega⟩
    exact ⟨[], .nil, by simp [readLines, skipBlanks]⟩
  | cons fields tables ih =>
    rw [List.flatMap_cons] at hfuel ⊢
    obtain ⟨s, left, htable, hleft, hread⟩ :=
      readLines_tableChars hname (hbare fields List.mem_cons_self) done _ hfuel
    obtain ⟨sections, hall, hrest⟩ :=
      ih (fun other hother => hbare other (List.mem_cons_of_mem _ hother)) _ hleft
    refine ⟨s :: sections, .cons htable hall, ?_⟩
    rw [hread, hrest]
    simp

/-- A document of tables with string fields is read as one section for each table. -/
theorem readDocument_tables {name : String} (hname : IsBareName name)
    {tables : List (List (String × String))}
    (hbare : ∀ fields ∈ tables, ∀ f ∈ fields, IsBareName f.1) :
    ∃ sections : List Section, List.Forall₂ (fun s fields => s.IsTable name fields) sections tables ∧
      readDocument (tables.flatMap (tableChars name)) = sections.foldlM addSection [] := by
  obtain ⟨sections, hall, hread⟩ := readLines_tables hname hbare [] (Nat.lt_succ_self _)
  refine ⟨sections, hall, ?_⟩
  -- Neither the empty text nor a bracket is a byte order mark.
  have hbody : readDocument (tables.flatMap (tableChars name)) =
      (readLines ((tables.flatMap (tableChars name)).length + 1) []
        (tables.flatMap (tableChars name))).bind assemble := by
    cases tables with
    | nil => rfl
    | cons fields tables => rfl
  rw [hbody, hread, List.reverse_nil, List.nil_append, Option.bind_some]
  simp [assemble, groupLines_sections, assignAll]

end ExpiryGate.Toml
