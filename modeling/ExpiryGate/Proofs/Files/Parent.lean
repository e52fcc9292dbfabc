import ExpiryGate.Proofs.Files.Path
import Mathlib.Data.List.DropRight

namespace ExpiryGate.Path

/-- The path starts at the root. -/
def IsAbsolute (path : String) : Prop :=
  path.toList.head? = some '/'

instance (path : String) : Decidable (IsAbsolute path) :=
  inferInstanceAs (Decidable (path.toList.head? = some '/'))

theorem splitLead_append (cs : List Char) : (splitLead cs).1 ++ (splitLead cs).2 = cs := by
  unfold splitLead
  split <;> rfl

theorem splitLead_fst_cases (cs : List Char) :
    (splitLead cs).1 = [] ∨ (splitLead cs).1 = ['/'] ∨ (splitLead cs).1 = ['.'] := by
  unfold splitLead
  split <;> simp

/-- The start of a path has nothing behind it, taken by itself. -/
theorem splitLead_fst (cs : List Char) : splitLead (splitLead cs).1 = ((splitLead cs).1, []) := by
  rcases splitLead_fst_cases cs with hlead | hlead | hlead <;> rw [hlead] <;> rfl

theorem isAbsolute_iff {path : String} :
    IsAbsolute path ↔ (splitLead path.toList).1 = ['/'] := by
  unfold IsAbsolute
  constructor
  · intro hhead
    obtain ⟨rest, hrest⟩ := List.head?_eq_some_iff.1 hhead
    rw [hrest]
    rfl
  · intro hlead
    rw [← splitLead_append path.toList, hlead]
    rfl

theorem not_mem_of_mem_splitOn {cs segment : List Char} (h : segment ∈ cs.splitOn '/') :
    '/' ∉ segment := by
  induction cs generalizing segment with
  | nil =>
    rw [List.splitOn_nil, List.mem_singleton] at h
    rw [h]
    exact List.not_mem_nil
  | cons c cs ih =>
    obtain ⟨first, more, hsplit⟩ := List.exists_cons_of_ne_nil (List.splitOn_ne_nil '/' cs)
    rw [List.splitOn_cons_eq_if_modifyHead] at h
    rw [hsplit] at h ih
    by_cases hslash : c = '/'
    · rw [if_pos (beq_iff_eq.2 hslash)] at h
      rcases List.mem_cons.1 h with rfl | hmem
      · exact List.not_mem_nil
      · exact ih hmem
    · rw [if_neg (by simpa using hslash), List.modifyHead_cons] at h
      rcases List.mem_cons.1 h with rfl | hmem
      · have hfirst := ih List.mem_cons_self
        simp [hfirst, Ne.symm hslash]
      · exact ih (List.mem_cons_of_mem first hmem)

theorem intercalate_append {found more : List (List Char)} (hfound : found ≠ [])
    (hmore : more ≠ []) :
    ['/'].intercalate (found ++ more) =
      ['/'].intercalate found ++ '/' :: ['/'].intercalate more := by
  induction found with
  | nil => exact absurd rfl hfound
  | cons segment found ih =>
    cases found with
    | nil => simp [List.intercalate_cons_of_ne_nil hmore]
    | cons next found =>
      have hrest := ih (List.cons_ne_nil next found)
      simp only [List.cons_append] at hrest ⊢
      rw [List.intercalate_cons_cons, hrest, List.intercalate_cons_cons]
      simp

/-- The first segments of a body are the components of what is left of it. -/
theorem bodyComponents_intercalate {body : List Char} {found : List (List Char)}
    (hfound : found <+: body.splitOn '/') :
    bodyComponents (['/'].intercalate found) =
      (found.filter fun segment => !isIdle segment).map String.ofList := by
  by_cases hnil : found = []
  · subst hnil
    decide
  · have hslash : ∀ segment ∈ found, '/' ∉ segment := fun segment hmem =>
      not_mem_of_mem_splitOn (hfound.subset hmem)
    rw [bodyComponents, List.splitOn_intercalate '/' hslash hnil]

/-- A path that loses segments at its end keeps its start. -/
theorem splitLead_intercalate {cs : List Char} {found : List (List Char)}
    (hfound : found <+: (splitLead cs).2.splitOn '/') :
    splitLead ((splitLead cs).1 ++ ['/'].intercalate found) =
      ((splitLead cs).1, ['/'].intercalate found) := by
  obtain ⟨more, hmore⟩ := hfound
  have hbody : ['/'].intercalate (found ++ more) = (splitLead cs).2 := by
    rw [hmore, List.intercalate_splitOn]
  by_cases hfoundNil : found = []
  · subst hfoundNil
    rw [List.intercalate_nil, List.append_nil, splitLead_fst]
  by_cases hmoreNil : more = []
  · subst hmoreNil
    rw [List.append_nil] at hbody
    rw [hbody, splitLead_append]
  · rw [intercalate_append hfoundNil hmoreNil] at hbody
    by_cases hempty : (splitLead cs).1 ++ ['/'].intercalate found = []
    · obtain ⟨hlead, hrest⟩ := List.append_eq_nil_iff.1 hempty
      rw [hlead, hrest]
      rfl
    · -- The slash behind the kept segments shows that the start ends before them.
      have hcs : (splitLead cs).1 ++ ['/'].intercalate found ++ '/' :: ['/'].intercalate more =
          cs := by
        rw [List.append_assoc, hbody, splitLead_append]
      have hsame := splitLead_append_slash hempty (['/'].intercalate more)
      rw [hcs] at hsame
      have hfst := congrArg Prod.fst hsame
      have happend := splitLead_append ((splitLead cs).1 ++ ['/'].intercalate found)
      rw [← hfst] at happend
      exact Prod.ext hfst.symm (List.append_cancel_left happend)

/-- Idle pieces are trimmed off the end only. -/
theorem isPrefix_trimIdle (found : List (List Char)) : trimIdle found <+: found :=
  List.rdropWhile_prefix isIdle found

/-- Trimming looks at the last piece first, and stops where it is not idle. -/
theorem trimIdle_append_singleton (found : List (List Char)) (last : List Char) :
    trimIdle (found ++ [last]) = if isIdle last then trimIdle found else found ++ [last] :=
  List.rdropWhile_concat isIdle found last

/-- Either all segments are idle, or trimming ends behind the last one that is not. -/
theorem trimIdle_cases (found : List (List Char)) :
    (trimIdle found = [] ∧ ∀ segment ∈ found, isIdle segment = true) ∨
      ∃ before last, trimIdle found = before ++ [last] ∧ isIdle last = false := by
  induction found using List.reverseRecOn with
  | nil => exact .inl ⟨rfl, fun segment hsegment => absurd hsegment List.not_mem_nil⟩
  | append_singleton found last ih =>
    rw [trimIdle_append_singleton]
    by_cases hidle : isIdle last = true
    · rw [if_pos hidle]
      rcases ih with ⟨htrim, hall⟩ | hlast
      · refine .inl ⟨htrim, fun segment hsegment => ?_⟩
        rcases List.mem_append.1 hsegment with hmem | hmem
        · exact hall segment hmem
        · rw [List.mem_singleton.1 hmem]
          exact hidle
      · exact .inr hlast
    · rw [if_neg hidle]
      exact .inr ⟨found, last, rfl, Bool.eq_false_iff.2 hidle⟩

/-- Trimming keeps all pieces that count. -/
theorem filter_trimIdle (found : List (List Char)) :
    (trimIdle found).filter (fun segment => !isIdle segment) =
      found.filter fun segment => !isIdle segment := by
  induction found using List.reverseRecOn with
  | nil => rfl
  | append_singleton found last ih =>
    rw [trimIdle_append_singleton]
    by_cases hidle : isIdle last = true
    · rw [if_pos hidle, ih, List.filter_append]
      simp [hidle]
    · rw [if_neg hidle]

/-- A path of idle segments that has no start of its own is empty. -/
theorem eq_nil_of_idle {cs : List Char} (hlead : (splitLead cs).1 = [])
    (hidle : ∀ segment ∈ cs.splitOn '/', isIdle segment = true) : cs = [] := by
  obtain ⟨first, more, hsplit⟩ := List.exists_cons_of_ne_nil (List.splitOn_ne_nil '/' cs)
  have hcs : ['/'].intercalate (first :: more) = cs := by
    rw [← hsplit, List.intercalate_splitOn]
  have hfirst : first = [] ∨ first = ['.'] := by
    simpa [isIdle] using hidle first (by simp [hsplit])
  subst hcs
  by_cases hmore : more = []
  · subst hmore
    rcases hfirst with rfl | rfl
    · rfl
    · cases hlead
  · rw [List.intercalate_cons_of_ne_nil hmore] at hlead ⊢
    rcases hfirst with rfl | rfl <;> cases hlead

/-- The start of a path as a component. -/
def leadComponents (lead : List Char) : List String :=
  if lead = [] then [] else [String.ofList lead]

theorem components_eq (path : String) :
    components path =
      leadComponents (splitLead path.toList).1 ++ bodyComponents (splitLead path.toList).2 :=
  rfl

theorem bodyComponents_of_idle {body : List Char}
    (hidle : ∀ segment ∈ body.splitOn '/', isIdle segment = true) : bodyComponents body = [] := by
  simpa [bodyComponents] using hidle

/-- A path with a segment behind its start loses the last one. -/
theorem parent?_of_segments {path : String} {before : List (List Char)} {last : List Char}
    (hsegments : segments (splitLead path.toList).2 = before ++ [last]) :
    parent? path =
      some (String.ofList ((splitLead path.toList).1 ++ ['/'].intercalate (trimIdle before))) := by
  rw [parent?]
  dsimp only
  rw [hsegments]
  cases before with
  | nil => rfl
  | cons segment before =>
    rw [List.cons_append]
    dsimp only
    rw [← List.cons_append, List.dropLast_concat]

/-- What is left above the last segment is written as it was before. -/
theorem isPrefix_trimIdle_of_segments {body : List Char} {before : List (List Char)}
    {last : List Char} (hsegments : segments body = before ++ [last]) :
    trimIdle before <+: body.splitOn '/' := by
  have hall : before ++ [last] <+: body.splitOn '/' := by
    rw [← hsegments]
    exact isPrefix_trimIdle (body.splitOn '/')
  exact (isPrefix_trimIdle before).trans ((List.prefix_append before [last]).trans hall)

/-- Going up takes off the last component, with the idle pieces around it. -/
theorem bodyComponents_of_segments {body : List Char} {before : List (List Char)}
    {last : List Char} (hsegments : segments body = before ++ [last])
    (hlast : isIdle last = false) :
    bodyComponents body =
      bodyComponents (['/'].intercalate (trimIdle before)) ++ [String.ofList last] := by
  have hkept := isPrefix_trimIdle_of_segments hsegments
  have hfilter := filter_trimIdle (body.splitOn '/')
  change (segments body).filter _ = _ at hfilter
  rw [hsegments, List.filter_append] at hfilter
  rw [bodyComponents_intercalate hkept, filter_trimIdle, bodyComponents, ← hfilter,
    List.map_append]
  simp [hlast]

/-- Where only idle segments follow the start, there is no parent but that of a leading dot. -/
theorem parent?_of_idle {path : String} (hsegments : segments (splitLead path.toList).2 = []) :
    parent? path = if (splitLead path.toList).1 = ['.'] then some "" else none := by
  rw [parent?]
  dsimp only
  rw [hsegments]

/-- The root and the empty path have no parent. The parent of any other path has the components of
    the path but the last one, and starts where the path starts. -/
theorem parent?_cases (path : String) :
    (parent? path = none ∧ if IsAbsolute path then components path = ["/"] else path = "") ∨
      ∃ parent last, parent? path = some parent ∧ components path = components parent ++ [last] ∧
        (IsAbsolute parent ↔ IsAbsolute path) := by
  have habsolute : IsAbsolute path ↔ (splitLead path.toList).1 = ['/'] := isAbsolute_iff
  rcases trimIdle_cases ((splitLead path.toList).2.splitOn '/') with ⟨hnone, hidle⟩ |
    ⟨before, last, hsegments, hlast⟩
  · have hparent := parent?_of_idle hnone
    have hcomponents := components_eq path
    rw [bodyComponents_of_idle hidle, List.append_nil] at hcomponents
    rcases splitLead_fst_cases path.toList with hlead | hlead | hlead <;>
      rw [hlead] at hparent hcomponents habsolute
    · left
      have hall := splitLead_append path.toList
      rw [hlead, List.nil_append] at hall
      rw [hall] at hidle
      rw [if_neg (by simp [habsolute])]
      exact ⟨hparent, String.toList_eq_nil_iff.1 (eq_nil_of_idle hlead hidle)⟩
    · left
      rw [if_pos (habsolute.2 rfl)]
      exact ⟨hparent, hcomponents⟩
    · right
      exact ⟨"", ".", hparent, hcomponents, iff_of_false (by decide) (by simp [habsolute])⟩
  · right
    have hlead := splitLead_intercalate (isPrefix_trimIdle_of_segments hsegments)
    refine ⟨_, String.ofList last, parent?_of_segments hsegments, ?_, ?_⟩
    · rw [components_eq, components_eq, String.toList_ofList, hlead,
        bodyComponents_of_segments hsegments hlast, List.append_assoc]
    · rw [habsolute, isAbsolute_iff, String.toList_ofList, hlead]

end ExpiryGate.Path
