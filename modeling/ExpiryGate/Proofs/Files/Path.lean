import ExpiryGate.Files.Path

namespace ExpiryGate.Path

/-- The segments of a body that mean something. -/
def bodyComponents (body : List Char) : List String :=
  ((body.splitOn '/').filter fun segment => !isIdle segment).map String.ofList

/-- The components of a path: its start, if that stands for itself, and the segments behind it. -/
def components (path : String) : List String :=
  let (lead, body) := splitLead path.toList
  (if lead = [] then [] else [String.ofList lead]) ++ bodyComponents body

theorem bodyComponents_append_slash (body rest : List Char) :
    bodyComponents (body ++ '/' :: rest) = bodyComponents body ++ bodyComponents rest := by
  rw [bodyComponents, List.splitOn_append_cons_self, List.filter_append, List.map_append,
    bodyComponents, bodyComponents]

theorem bodyComponents_nil : bodyComponents [] = [] := by
  decide

theorem splitLead_of_ne {c : Char} (hslash : c ≠ '/') (hdot : c ≠ '.') (cs : List Char) :
    splitLead (c :: cs) = ([], c :: cs) := by
  unfold splitLead
  split <;> simp_all

theorem splitLead_dot_cons {c : Char} (hslash : c ≠ '/') (cs : List Char) :
    splitLead ('.' :: c :: cs) = ([], '.' :: c :: cs) := by
  unfold splitLead
  split <;> simp_all

/-- A slash behind the first character does not change the start of a path. -/
theorem splitLead_append_slash {cs : List Char} (hne : cs ≠ []) (rest : List Char) :
    splitLead (cs ++ '/' :: rest) = ((splitLead cs).1, (splitLead cs).2 ++ '/' :: rest) := by
  obtain ⟨c, cs, rfl⟩ := List.exists_cons_of_ne_nil hne
  by_cases hslash : c = '/'
  · subst hslash
    rfl
  by_cases hdot : c = '.'
  · subst hdot
    cases cs with
    | nil => rfl
    | cons d cs =>
      by_cases hlead : d = '/'
      · subst hlead
        rfl
      · rw [List.cons_append, List.cons_append, splitLead_dot_cons hlead, splitLead_dot_cons hlead]
        rfl
  · rw [List.cons_append, splitLead_of_ne hslash hdot, splitLead_of_ne hslash hdot]
    rfl

/-- The components behind a slash come after those before it, wherever the path starts. -/
theorem components_append_slash {cs : List Char} (hne : cs ≠ []) (rest : List Char) :
    components (String.ofList (cs ++ '/' :: rest)) =
      components (String.ofList cs) ++ bodyComponents rest := by
  simp only [components, String.toList_ofList, splitLead_append_slash hne,
    bodyComponents_append_slash, List.append_assoc]

/-- A relative path that does not start with a dot keeps all its components below another path. -/
theorem components_join (base : String) {rest : String} (hrest : (splitLead rest.toList).1 = []) :
    components (join base rest) = components base ++ components rest := by
  have hbody : splitLead rest.toList = ([], rest.toList) := by
    unfold splitLead at hrest ⊢
    split at hrest <;> simp_all
  have hslash : rest.toList.head? ≠ some '/' := by
    intro hhead
    obtain ⟨tail, htail⟩ := List.head?_eq_some_iff.1 hhead
    rw [htail] at hrest
    cases hrest
  have hcomponents : components rest = bodyComponents rest.toList := by
    simp [components, hbody]
  rw [join, if_neg hslash, hcomponents]
  by_cases hempty : base = ""
  · subst hempty
    have hnone : components "" = [] := by decide
    rw [if_pos (.inl rfl), String.empty_append, hcomponents, hnone, List.nil_append]
  by_cases hlast : base.toList.getLast? = some '/'
  · rw [if_pos (.inr hlast)]
    obtain ⟨cs, hcs⟩ := List.getLast?_eq_some_iff.1 hlast
    have hbase : base = String.ofList (cs ++ ['/']) := by
      rw [← hcs, String.ofList_toList]
    have hjoined : base ++ rest = String.ofList (cs ++ '/' :: rest.toList) := by
      apply String.toList_injective
      simp [hcs]
    rw [hjoined, hbase]
    by_cases hroot : cs = []
    · subst hroot
      simp [components, splitLead, bodyComponents_nil]
    · rw [components_append_slash hroot, components_append_slash hroot, bodyComponents_nil,
        List.append_nil]
  · rw [if_neg (by simp [hempty, hlast])]
    have hne : base.toList ≠ [] := by simpa using hempty
    have hjoined : base ++ "/" ++ rest = String.ofList (base.toList ++ '/' :: rest.toList) := by
      apply String.toList_injective
      simp
    rw [hjoined, components_append_slash hne, String.ofList_toList]

end ExpiryGate.Path
