import ExpiryGate.Proofs.Files.Parent

namespace ExpiryGate.Path

/-- Slashes that have nothing or a lone dot behind them. -/
inductive IsTail : List Char → Prop
  | nil : IsTail []
  | slash {tail : List Char} (h : IsTail tail) : IsTail ('/' :: tail)
  | slashDot {tail : List Char} (h : IsTail tail) : IsTail ('/' :: '.' :: tail)

/-- The last segment of the path that is neither empty nor a lone dot is this one: it stands at the
    start or behind a slash, and nothing but a tail follows. -/
structure EndsIn (path segment : String) : Prop where
  ne_empty : segment ≠ ""
  ne_dot : segment ≠ "."
  no_slash : '/' ∉ segment.toList
  exists_text : ∃ before tail, path.toList = before ++ segment.toList ++ tail ∧
    (before = [] ∨ before.getLast? = some '/') ∧ IsTail tail

/-- The path is absolute, with nothing behind the root. -/
def IsRoot (path : String) : Prop :=
  path ≠ "" ∧ IsTail path.toList

/-- The path is relative, with nothing in it but dots that stand for the current directory. -/
def IsHere (path : String) : Prop :=
  path = "" ∨ ∃ tail, path.toList = '.' :: tail ∧ IsTail tail

variable {path rest segment : String} {cs tail : List Char}

/-- Slashes and lone dots at the end of a path have no components of their own. -/
theorem IsTail.bodyComponents_eq (h : IsTail tail) :
    bodyComponents tail = [] ∧ bodyComponents ('.' :: tail) = [] := by
  induction h with
  | nil => decide
  | @slash tail _ ih =>
    have hslash := bodyComponents_append_slash [] tail
    have hdot := bodyComponents_append_slash ['.'] tail
    rw [ih.1] at hslash hdot
    exact ⟨hslash, hdot⟩
  | @slashDot tail _ ih =>
    have hslash := bodyComponents_append_slash [] ('.' :: tail)
    have hdot := bodyComponents_append_slash ['.'] ('.' :: tail)
    rw [ih.2] at hslash hdot
    exact ⟨hslash, hdot⟩

/-- Slashes and lone dots at the end of a path add no component to what stands before them. -/
theorem IsTail.bodyComponents_append (h : IsTail tail) (cs : List Char) :
    bodyComponents (cs ++ tail) = bodyComponents cs := by
  cases h with
  | nil => rw [List.append_nil]
  | slash htail => rw [bodyComponents_append_slash, htail.bodyComponents_eq.1, List.append_nil]
  | slashDot htail => rw [bodyComponents_append_slash, htail.bodyComponents_eq.2, List.append_nil]

theorem isTail_flatMap {idle : List (List Char)} (hidle : ∀ piece ∈ idle, isIdle piece = true) :
    IsTail (idle.flatMap ('/' :: ·)) := by
  induction idle with
  | nil => exact .nil
  | cons piece idle ih =>
    obtain ⟨hpiece, hrest⟩ := List.forall_mem_cons.1 hidle
    have hforms : piece = [] ∨ piece = ['.'] := by simpa [isIdle] using hpiece
    rw [List.flatMap_cons]
    rcases hforms with rfl | rfl
    · exact .slash (ih hrest)
    · exact .slashDot (ih hrest)

/-- A text around one of its segments. -/
theorem intercalate_middle (before : List (List Char)) (middle : List Char)
    (behind : List (List Char)) :
    ['/'].intercalate (before ++ middle :: behind) =
      before.flatMap (· ++ ['/']) ++ middle ++ behind.flatMap ('/' :: ·) := by
  induction before with
  | nil =>
    induction behind generalizing middle with
    | nil => simp
    | cons next behind ih =>
      have hrest := ih next
      simp only [List.flatMap_nil, List.nil_append] at hrest ⊢
      rw [List.intercalate_cons_cons, hrest]
      simp
  | cons first before ih =>
    have hne : before ++ middle :: behind ≠ [] := by simp
    rw [List.cons_append, List.intercalate_cons_of_ne_nil hne, ih]
    simp

theorem flatMap_slash_cases (before : List (List Char)) :
    before.flatMap (· ++ ['/']) = [] ∨ (before.flatMap (· ++ ['/'])).getLast? = some '/' := by
  rcases List.eq_nil_or_concat before with rfl | ⟨front, last, rfl⟩
  · exact .inl rfl
  · right
    simp

/-- Either all segments are idle, or there is a last one that is not. -/
theorem splitOn_cases (cs : List Char) :
    (∀ piece ∈ cs.splitOn '/', isIdle piece = true) ∨
      ∃ before last idle, cs.splitOn '/' = before ++ last :: idle ∧ isIdle last = false ∧
        ∀ piece ∈ idle, isIdle piece = true := by
  rcases trimIdle_cases (cs.splitOn '/') with ⟨_, hidle⟩ | ⟨before, last, htrim, hlast⟩
  · exact .inl hidle
  · right
    refine ⟨before, last, (cs.splitOn '/').rtakeWhile isIdle, ?_, hlast, ?_⟩
    · have hall : trimIdle (cs.splitOn '/') ++ (cs.splitOn '/').rtakeWhile isIdle =
          cs.splitOn '/' := List.rdropWhile_append_rtakeWhile
      rw [htrim, List.append_assoc, List.singleton_append] at hall
      exact hall.symm
    · intro piece hpiece
      exact List.mem_rtakeWhile_imp hpiece

/-- The last piece that is not idle is the last component. -/
theorem getLast?_bodyComponents {before idle : List (List Char)} {last : List Char}
    (hsplit : cs.splitOn '/' = before ++ last :: idle) (hlast : isIdle last = false)
    (hidle : ∀ piece ∈ idle, isIdle piece = true) :
    (bodyComponents cs).getLast? = some (String.ofList last) := by
  have hnone : idle.filter (fun piece => !isIdle piece) = [] := by
    simpa using hidle
  rw [bodyComponents, hsplit, List.filter_append, List.filter_cons_of_pos (by simp [hlast]), hnone]
  simp

theorem EndsIn.isIdle_eq (h : EndsIn path segment) : isIdle segment.toList = false := by
  have hempty : segment.toList ≠ [] := by simpa using h.ne_empty
  have hdot : segment.toList ≠ ['.'] := by
    intro heq
    exact h.ne_dot (String.toList_injective heq)
  simp [isIdle, hempty, hdot]

/-- The segment in which a path ends is its last component. -/
theorem EndsIn.getLast?_eq (h : EndsIn path segment) :
    (bodyComponents path.toList).getLast? = some segment := by
  obtain ⟨before, tail, htext, hbefore, htail⟩ := h.exists_text
  have hself : bodyComponents segment.toList = [segment] := by
    rw [bodyComponents, List.splitOn_eq_singleton h.no_slash]
    simp [h.isIdle_eq]
  rw [htext, htail.bodyComponents_append]
  rcases hbefore with rfl | hslash
  · rw [List.nil_append, hself, List.getLast?_singleton]
  · obtain ⟨front, rfl⟩ := List.getLast?_eq_some_iff.1 hslash
    rw [List.append_assoc, List.singleton_append, bodyComponents_append_slash, hself,
      List.getLast?_concat]

/-- A path ends in its last piece that is not idle, with the idle pieces behind it as its end. -/
theorem endsIn_of_splitOn {before idle : List (List Char)} {last : List Char}
    (hsplit : path.toList.splitOn '/' = before ++ last :: idle) (hlast : isIdle last = false)
    (hidle : ∀ piece ∈ idle, isIdle piece = true) : EndsIn path (String.ofList last) := by
  have hmem : last ∈ path.toList.splitOn '/' := by simp [hsplit]
  have hforms : last ≠ [] ∧ last ≠ ['.'] := by simpa [isIdle] using hlast
  have htext : ['/'].intercalate (path.toList.splitOn '/') = path.toList :=
    List.intercalate_splitOn '/'
  rw [hsplit, intercalate_middle] at htext
  refine ⟨?_, ?_, ?_, before.flatMap (· ++ ['/']), idle.flatMap ('/' :: ·), ?_,
    flatMap_slash_cases before, isTail_flatMap hidle⟩
  · simpa using hforms.1
  · intro heq
    apply hforms.2
    rw [← String.toList_ofList (l := last), heq]
    rfl
  · rw [String.toList_ofList]
    exact not_mem_of_mem_splitOn hmem
  · rw [String.toList_ofList, htext]

/-- The segment that a path ends in, as it is found among all of them. -/
theorem endsIn_iff : EndsIn path segment ↔ (bodyComponents path.toList).getLast? = some segment := by
  constructor
  · exact EndsIn.getLast?_eq
  · intro hsegment
    rcases splitOn_cases path.toList with hidle | ⟨before, last, idle, hsplit, hlast, hidle⟩
    · rw [bodyComponents_of_idle hidle] at hsegment
      cases hsegment
    · rw [getLast?_bodyComponents hsplit hlast hidle] at hsegment
      cases hsegment
      exact endsIn_of_splitOn hsplit hlast hidle

/-- Neither the slashes nor the dot behind it belong to the last segment. -/
example : EndsIn "ci//b.toml/./" "b.toml" := by
  rw [endsIn_iff]
  decide

/-- A path ends in one segment only. -/
theorem EndsIn.unique {other : String} (h : EndsIn path segment) (hother : EndsIn path other) :
    segment = other := by
  rw [endsIn_iff] at h hother
  rw [h] at hother
  exact Option.some.inj hother

/-- The start of a path is no segment. -/
theorem bodyComponents_splitLead (cs : List Char) :
    bodyComponents (splitLead cs).2 = bodyComponents cs := by
  unfold splitLead
  split
  · rename_i rest
    exact (bodyComponents_append_slash [] rest).symm
  · decide
  · rename_i rest
    have hdot := bodyComponents_append_slash ['.'] rest
    exact (bodyComponents_append_slash [] rest).trans hdot.symm
  · rfl

theorem fileName?_of_idle (hidle : segments (splitLead path.toList).2 = []) :
    fileName? path = none := by
  rw [fileName?, hidle]
  rfl

/-- The last segment is the name, unless it is two dots. -/
theorem fileName?_of_segments {before : List (List Char)} {last : List Char}
    (hsegments : segments (splitLead path.toList).2 = before ++ [last]) :
    fileName? path = if last = ['.', '.'] then none else some (String.ofList last) := by
  rw [fileName?, hsegments, List.getLast?_concat]

/-- The name is what the path ends in, unless that leads upwards. -/
theorem fileName?_eq_some_iff {name : String} :
    fileName? path = some name ↔ EndsIn path name ∧ name ≠ ".." := by
  rw [endsIn_iff, ← bodyComponents_splitLead]
  rcases trimIdle_cases ((splitLead path.toList).2.splitOn '/') with ⟨hnone, hidle⟩ |
    ⟨before, last, hsegments, hlast⟩
  · rw [fileName?_of_idle hnone, bodyComponents_of_idle hidle]
    simp
  · rw [fileName?_of_segments hsegments, bodyComponents_of_segments hsegments hlast,
      List.getLast?_concat]
    by_cases hup : last = ['.', '.']
    · subst hup
      rw [if_pos rfl]
      simp [eq_comm]
    · rw [if_neg hup, iff_self_and]
      intro hname heq
      rw [heq] at hname
      apply hup
      rw [← String.toList_ofList (l := last), Option.some.inj hname]
      rfl

/-- What is left of a path without segments is a root slash, a leading dot, or nothing. -/
theorem bodyComponents_eq_nil_iff :
    bodyComponents path.toList = [] ↔ IsHere path ∨ IsRoot path := by
  constructor
  · intro hnil
    rcases splitOn_cases path.toList with hidle | ⟨before, last, idle, hsplit, hlast, hidle⟩
    · obtain ⟨first, more, hpieces⟩ :=
        List.exists_cons_of_ne_nil (List.splitOn_ne_nil '/' path.toList)
      rw [hpieces] at hidle
      obtain ⟨hfirst, hmore⟩ := List.forall_mem_cons.1 hidle
      have hforms : first = [] ∨ first = ['.'] := by simpa [isIdle] using hfirst
      have htext : ['/'].intercalate (path.toList.splitOn '/') = path.toList :=
        List.intercalate_splitOn '/'
      have hmiddle := intercalate_middle [] first more
      rw [List.nil_append, ← hpieces, htext] at hmiddle
      have htail := isTail_flatMap hmore
      rcases hforms with rfl | rfl
      · by_cases hempty : path = ""
        · exact .inl (.inl hempty)
        · refine .inr ⟨hempty, ?_⟩
          rw [hmiddle]
          exact htail
      · exact .inl (.inr ⟨_, hmiddle, htail⟩)
    · rw [← List.getLast?_eq_none_iff, getLast?_bodyComponents hsplit hlast hidle] at hnil
      cases hnil
  · rintro ((rfl | ⟨tail, htext, htail⟩) | ⟨_, htail⟩)
    · decide
    · rw [htext]
      exact htail.bodyComponents_eq.2
    · exact htail.bodyComponents_eq.1

/-- The paths that have no name. -/
theorem fileName?_eq_none_iff :
    fileName? path = none ↔ IsHere path ∨ IsRoot path ∨ EndsIn path ".." := by
  rw [← or_assoc, ← bodyComponents_eq_nil_iff, ← List.getLast?_eq_none_iff]
  constructor
  · intro hnone
    cases hlast : (bodyComponents path.toList).getLast? with
    | none => exact .inl rfl
    | some segment =>
      right
      by_contra hup
      have hends := endsIn_iff.2 hlast
      have hne : segment ≠ ".." := by
        rintro rfl
        exact hup hends
      rw [fileName?_eq_some_iff.2 ⟨hends, hne⟩] at hnone
      cases hnone
  · intro hcases
    by_contra hsome
    obtain ⟨name, hname⟩ := Option.ne_none_iff_exists'.1 hsome
    obtain ⟨hends, hne⟩ := fileName?_eq_some_iff.1 hname
    rcases hcases with hnone | hup
    · rw [endsIn_iff, hnone] at hends
      cases hends
    · exact hne (hends.unique hup)

/-- Whatever base comes before it, a path stands at the start or behind a slash. -/
theorem exists_toList_join (base rest : String) :
    ∃ front, (join base rest).toList = front ++ rest.toList ∧
      (front = [] ∨ front.getLast? = some '/') := by
  unfold join
  split
  · exact ⟨[], rfl, .inl rfl⟩
  split
  · rename_i hbase
    refine ⟨base.toList, String.toList_append, hbase.imp_left ?_⟩
    rintro rfl
    rfl
  · exact ⟨base.toList ++ ['/'], by simp, .inr (by simp)⟩

/-- A path keeps what it ends in when it is taken below another one. -/
theorem EndsIn.join (h : EndsIn rest segment) (base : String) :
    EndsIn (Path.join base rest) segment := by
  obtain ⟨before, tail, htext, hbefore, htail⟩ := h.exists_text
  obtain ⟨front, hjoined, hfront⟩ := exists_toList_join base rest
  refine ⟨h.ne_empty, h.ne_dot, h.no_slash, front ++ before, tail, ?_, ?_, htail⟩
  · simp only [hjoined, htext, List.append_assoc]
  · rcases hbefore with rfl | hslash
    · rwa [List.append_nil]
    · right
      rw [List.getLast?_append, hslash]
      rfl

end ExpiryGate.Path
