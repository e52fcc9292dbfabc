import ExpiryGate.Proofs.Toml.Blocks

namespace ExpiryGate.Toml

/-- The form can hold the string: a form without escapes holds the characters and quotes that it
    need not tell from its own syntax. -/
def StringForm.CanHold (cs : List Char) : StringForm → Prop
  | .basic => True
  | .literal => cs ≠ [] ∧ ∀ c ∈ cs, isPlain c = true ∧ c ≠ '\''
  | .basicBlock => True
  | .literalBlock => (∀ c ∈ cs, isPlain c = true ∨ c = '\n') ∧ RunsWithin '\'' 2 0 cs

theorem isPlain_or_feed_of_any_isControl {cs : List Char} (hcontrols : cs.any isControl = false) :
    ∀ c ∈ cs, isPlain c = true ∨ c = '\n' := by
  intro c hc
  by_cases hfeed : c = '\n'
  · exact .inr hfeed
  · have hcontrol : isControl c = false := by
      simpa using List.any_eq_false.1 hcontrols c hc
    exact .inl (isPlain_of_not_isControl hcontrol hfeed)

/-- The writer picks a form that can hold the string. -/
theorem StringForm.canHold_of (cs : List Char) : (StringForm.of cs).CanHold cs := by
  unfold StringForm.of
  by_cases hsimple : cs.all isSimpleChar = true
  · rw [if_pos hsimple]
    trivial
  rw [if_neg hsimple]
  have hne : cs ≠ [] := by
    rintro rfl
    exact hsimple rfl
  split
  · trivial
  split
  · rename_i hliteral
    simp only [Bool.and_eq_true, Bool.not_eq_true', decide_eq_true_eq, List.contains_eq_mem,
      decide_eq_false_iff_not] at hliteral
    obtain ⟨⟨hcontrols, hsingles⟩, hlines⟩ := hliteral
    have hquote := not_mem_of_runsWithin_zero
      (runsWithin_of_longestRun_le (Nat.le_of_eq hsingles))
    refine ⟨hne, fun c hc => ⟨?_, fun heq => hquote (heq ▸ hc)⟩⟩
    rcases isPlain_or_feed_of_any_isControl hcontrols c hc with hplain | rfl
    · exact hplain
    · exact absurd hc hlines
  split
  · trivial
  split
  · rename_i hblock
    simp only [Bool.and_eq_true, Bool.not_eq_true', decide_eq_true_eq] at hblock
    exact ⟨isPlain_or_feed_of_any_isControl hblock.1, runsWithin_of_longestRun_le hblock.2⟩
  split <;> trivial

/-- The line feed in front of a string with line feeds is taken off again. -/
theorem dropFirstLineEnd_append {cs text : List Char}
    (htext : '\n' ∉ cs → ∀ c, text.head? = some c → isPlain c = true) :
    dropFirstLineEnd ((if cs.contains '\n' then ['\n'] else []) ++ text) = text := by
  by_cases hfeed : '\n' ∈ cs
  · simp [hfeed, dropFirstLineEnd]
  · have hopens := htext hfeed
    simp only [List.contains_eq_mem, decide_eq_true_eq, hfeed, if_false, List.nil_append]
    unfold dropFirstLineEnd
    split
    · exact absurd rfl (ne_of_isPlain (hopens _ rfl)).1
    · exact absurd rfl (ne_of_isPlain (hopens _ rfl)).2
    · rfl

/-- A block on one line does not start with a line end, which the reader would drop. -/
theorem isPlain_of_head?_escapeBlock {cs : List Char} (hlines : '\n' ∉ cs) (more : List Char) :
    ∀ c, (escapeBlock 0 cs ++ '"' :: more).head? = some c → isPlain c = true := by
  have hplainQuote : isPlain '"' = true := by decide
  intro c hhead
  cases cs with
  | nil =>
    cases hhead
    exact hplainQuote
  | cons d cs =>
    simp only [List.mem_cons, not_or] at hlines
    have hfeed : d ≠ '\n' := fun heq => hlines.1 heq.symm
    unfold escapeBlock at hhead
    by_cases hquote : d = '"'
    · rw [if_pos hquote, if_neg (by decide)] at hhead
      cases hhead
      exact hplainQuote
    · obtain ⟨e, tail, hescape, hplain, _⟩ := escapeChar_opens hquote hfeed
      rw [if_neg hquote, if_neg hfeed, hescape] at hhead
      cases hhead
      exact hplain

/-- One quote opens a string on one line, unless a second one makes it empty or a block. -/
theorem readQuoted_basic {text : List Char} (hnot : ¬ Doubled '"' text) :
    readQuoted ('"' :: text) = readBasic [] .plain text := by
  have hopen : ∀ rest, text = '"' :: '"' :: rest → False := fun rest heq => hnot ⟨rest, heq⟩
  rw [readQuoted]
  exact hopen

theorem readQuoted_literal {text : List Char} (hnot : ¬ Doubled '\'' text) :
    readQuoted ('\'' :: text) = readLiteral [] text := by
  have hopen : ∀ rest, text = '\'' :: '\'' :: rest → False := fun rest heq => hnot ⟨rest, heq⟩
  rw [readQuoted]
  exact hopen

/-- A string on one line is never mistaken for a block, not even an empty one. -/
theorem not_doubled_flatMap_escapeBasic {rest : List Char} (hrest : rest.head? ≠ some '"')
    (cs : List Char) : ¬ Doubled '"' (cs.flatMap escapeBasic ++ '"' :: rest) := by
  cases cs with
  | nil =>
    rintro ⟨more, hmore⟩
    rw [List.flatMap_nil, List.nil_append] at hmore
    exact hrest (by rw [(List.cons.inj hmore).2]; rfl)
  | cons c cs =>
    rw [List.flatMap_cons, escapeBasic]
    split
    · exact not_doubled_cons (by decide) _
    split
    · exact not_doubled_cons (by decide) _
    rename_i hquote hfeed
    obtain ⟨d, tail, hescape, _, hd⟩ := escapeChar_opens hquote hfeed
    rw [hescape]
    exact not_doubled_cons hd _

/-- A string is read back from every form that can hold it, in front of anything but a quote. -/
theorem readQuoted_write {cs rest : List Char} {form : StringForm} (hform : form.CanHold cs)
    (hdouble : rest.head? ≠ some '"') (hsingle : rest.head? ≠ some '\'') :
    readQuoted (form.write cs ++ rest) = some (String.ofList cs, rest) := by
  cases form with
  | basic =>
    have htext : StringForm.basic.write cs ++ rest =
        '"' :: (cs.flatMap escapeBasic ++ '"' :: rest) := by
      simp [StringForm.write]
    rw [htext, readQuoted_basic (not_doubled_flatMap_escapeBasic hdouble cs),
      readBasic_flatMap_escapeBasic]
    rfl
  | literal =>
    obtain ⟨hne, hcs⟩ := hform
    have htext : StringForm.literal.write cs ++ rest = '\'' :: (cs ++ '\'' :: rest) := by
      simp [StringForm.write]
    have hnot : ¬ Doubled '\'' (cs ++ '\'' :: rest) := by
      obtain ⟨c, tail, rfl⟩ := List.exists_cons_of_ne_nil hne
      exact not_doubled_cons (hcs c List.mem_cons_self).2 _
    rw [htext, readQuoted_literal hnot, readLiteral_append [] rest hcs]
    rfl
  | basicBlock =>
    have htext : StringForm.basicBlock.write cs ++ rest = '"' :: '"' :: '"' ::
        ((if cs.contains '\n' then ['\n'] else []) ++
          (escapeBlock 0 cs ++ '"' :: '"' :: '"' :: rest)) := by
      simp [StringForm.write]
    rw [htext, readQuoted, dropFirstLineEnd_append fun hlines => isPlain_of_head?_escapeBlock hlines _,
      readBlock_escapeBlock hdouble cs [] (Nat.zero_le 2)]
    rfl
  | literalBlock =>
    obtain ⟨hcs, hruns⟩ := hform
    have htext : StringForm.literalBlock.write cs ++ rest = '\'' :: '\'' :: '\'' ::
        ((if cs.contains '\n' then ['\n'] else []) ++
          (cs ++ '\'' :: '\'' :: '\'' :: rest)) := by
      simp [StringForm.write]
    have hopens : '\n' ∉ cs → ∀ c, (cs ++ '\'' :: '\'' :: '\'' :: rest).head? = some c →
        isPlain c = true := by
      intro hlines c hhead
      cases cs with
      | nil =>
        cases hhead
        decide
      | cons d cs =>
        cases hhead
        rcases hcs c List.mem_cons_self with hplain | rfl
        · exact hplain
        · exact absurd List.mem_cons_self hlines
    rw [htext, readQuoted, dropFirstLineEnd_append hopens,
      readLiteralBlock_append hsingle hcs [] hruns]
    rfl

/-- Every string is read back, in whatever form it was written. -/
theorem readQuoted_quoteString (s : String) {rest : List Char} (hdouble : rest.head? ≠ some '"')
    (hsingle : rest.head? ≠ some '\'') : readQuoted (quoteString s ++ rest) = some (s, rest) := by
  rw [quoteString, readQuoted_write (StringForm.canHold_of s.toList) hdouble hsingle,
    String.ofList_toList]

end ExpiryGate.Toml
