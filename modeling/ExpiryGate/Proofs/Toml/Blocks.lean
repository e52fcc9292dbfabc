import ExpiryGate.Proofs.Toml.Escapes

namespace ExpiryGate.Toml

/-- No run of `c` exceeds `limit`, if `current` of them already stand in front of the text. -/
def RunsWithin (c : Char) (limit : Nat) : Nat → List Char → Prop
  | _, [] => True
  | current, d :: rest =>
    if d = c then current < limit ∧ RunsWithin c limit (current + 1) rest
    else RunsWithin c limit 0 rest

/-- The best run so far can only grow, so the limit holds of it at each step of the fold. -/
theorem runsWithin_of_foldl_le {c : Char} {limit : Nat} (cs : List Char) (best current : Nat)
    (hlimit : (cs.foldl (fun (best, current) d => if d = c then
      (max best (current + 1), current + 1) else (best, 0)) (best, current)).1 ≤ limit) :
    best ≤ limit ∧ RunsWithin c limit current cs := by
  induction cs generalizing best current with
  | nil => exact ⟨hlimit, trivial⟩
  | cons d cs ih =>
    rw [List.foldl_cons] at hlimit
    dsimp only at hlimit
    unfold RunsWithin
    by_cases hd : d = c
    · rw [if_pos hd] at hlimit ⊢
      obtain ⟨hbest, hruns⟩ := ih _ _ hlimit
      exact ⟨by omega, by omega, hruns⟩
    · rw [if_neg hd] at hlimit ⊢
      exact ih _ _ hlimit

/-- The longest run bounds all runs, as the writer computes it. -/
theorem runsWithin_of_longestRun_le {c : Char} {limit : Nat} {cs : List Char}
    (hlimit : longestRun c cs ≤ limit) : RunsWithin c limit 0 cs :=
  (runsWithin_of_foldl_le cs 0 0 hlimit).2

theorem not_mem_of_runsWithin_zero {c : Char} {cs : List Char} (hruns : RunsWithin c 0 0 cs) :
    c ∉ cs := by
  induction cs with
  | nil => exact List.not_mem_nil
  | cons d cs ih =>
    unfold RunsWithin at hruns
    split at hruns
    · exact absurd hruns.1 (Nat.lt_irrefl 0)
    · rename_i hd
      simp only [List.mem_cons, not_or]
      exact ⟨fun heq => hd heq.symm, ih hruns⟩

/-- Two quotes in a row come first. Behind a third one they close a string. -/
def Doubled (quote : Char) (text : List Char) : Prop :=
  ∃ rest, text = quote :: quote :: rest

theorem not_doubled_cons {quote c : Char} (hc : c ≠ quote) (rest : List Char) :
    ¬ Doubled quote (c :: rest) := by
  rintro ⟨rest', heq⟩
  exact hc (List.cons.inj heq).1

/-- Up to two quotes behind the closing ones belong to the string. -/
theorem closeQuotes_replicate {quote : Char} (done : List Char) {rest : List Char} {count : Nat}
    (hcount : count ≤ 2) (hrest : rest.head? ≠ some quote) :
    closeQuotes quote done (List.replicate count quote ++ rest) =
      (String.ofList (done.reverse ++ List.replicate count quote), rest) := by
  have hextra : ((List.replicate count quote ++ rest).take 2).takeWhile (· = quote) =
      List.replicate count quote := by
    have hstop : ∀ n, (rest.take n).takeWhile (· = quote) = [] := by
      intro n
      cases rest with
      | nil => simp
      | cons c rest => cases n <;> simp_all
    have hcases : count = 0 ∨ count = 1 ∨ count = 2 := by omega
    rcases hcases with rfl | rfl | rfl <;> simp [List.replicate, hstop]
  simp only [closeQuotes, hextra, List.length_replicate]
  rw [List.drop_left' (by simp)]

/-- Quotes before the closing ones can as well be counted behind them, which is where the reader
    looks for them. -/
theorem replicate_append_closing (quote : Char) (count : Nat) (rest : List Char) :
    List.replicate count quote ++ quote :: quote :: quote :: rest =
      quote :: quote :: quote :: (List.replicate count quote ++ rest) := by
  induction count with
  | zero => rfl
  | succ count ih => rw [List.replicate_succ, List.cons_append, ih, List.cons_append]

/-- A quote that is not the first of three belongs to the string. -/
theorem readBlock_quote (done : List Char) {rest : List Char} (hnot : ¬ Doubled '"' rest) :
    readBlock done (.plain false) ('"' :: rest) = readBlock ('"' :: done) (.plain false) rest := by
  have hopen : ∀ text, rest = '"' :: '"' :: text → False := fun text heq => hnot ⟨text, heq⟩
  rw [readBlock]
  · simp only [Bool.false_and, Bool.false_eq_true, if_false, if_true]
  · exact hopen

/-- Up to two quotes of the string itself may stand before the three that close it. -/
theorem readBlock_closing (done : List Char) {rest : List Char} {count : Nat} (hcount : count ≤ 2)
    (hrest : rest.head? ≠ some '"') :
    readBlock done (.plain false) (List.replicate count '"' ++ '"' :: '"' :: '"' :: rest) =
      some (String.ofList (done.reverse ++ List.replicate count '"'), rest) := by
  rw [replicate_append_closing]
  simp [readBlock, closeQuotes_replicate done hcount hrest]

theorem readBlock_feed (done rest : List Char) :
    readBlock done (.plain false) ('\n' :: rest) = readBlock ('\n' :: done) (.plain false) rest := by
  simp [readBlock]

/-- An escape is read as its character, in a string of several lines as in one of a single line. -/
theorem readBlock_escapeChar (done rest : List Char) {c : Char} (hquote : c ≠ '"')
    (hfeed : c ≠ '\n') : readBlock done (.plain false) (escapeChar c ++ rest) =
      readBlock (c :: done) (.plain false) rest := by
  rcases escapeChar_cases hquote hfeed with ⟨letter, hletter, hescape⟩ | ⟨hcode, hescape⟩ |
    ⟨hbackslash, hplain, hescape⟩
  · simp [hescape, readBlock, hletter]
  · simpa [hescape, readBlock, escape?] using readBlock_code done rest hcode
  · simp [hescape, readBlock, hquote, hbackslash, hplain]

/-- The text of a block starts with a quote only if its string does, and not behind two quotes. -/
theorem escapeBlock_opens {c : Char} {quotes : Nat} (cs : List Char)
    (hc : c ≠ '"' ∨ quotes = 2) :
    ∃ d rest, escapeBlock quotes (c :: cs) = d :: rest ∧ d ≠ '"' := by
  unfold escapeBlock
  by_cases hquote : c = '"'
  · have htwo : quotes = 2 := hc.resolve_left (Classical.not_not.2 hquote)
    rw [if_pos hquote, if_pos htwo]
    exact ⟨_, _, rfl, by decide⟩
  rw [if_neg hquote]
  by_cases hfeed : c = '\n'
  · rw [if_pos hfeed]
    exact ⟨_, _, rfl, by decide⟩
  rw [if_neg hfeed]
  obtain ⟨d, tail, hescape, _, hd⟩ := escapeChar_opens hquote hfeed
  exact ⟨d, tail ++ escapeBlock 0 cs, by rw [hescape, List.cons_append], hd⟩

/-- Behind a quote of the string two more quotes come only at its end. -/
theorem eq_of_doubled_escapeBlock {cs more : List Char} {quotes : Nat} (hlow : 1 ≤ quotes)
    (hhigh : quotes ≤ 2) (hdoubled : Doubled '"' (escapeBlock quotes cs ++ more)) :
    cs = [] ∨ cs = ['"'] ∧ quotes = 1 := by
  cases cs with
  | nil => exact .inl rfl
  | cons c cs =>
    right
    by_cases hopens : c ≠ '"' ∨ quotes = 2
    · obtain ⟨d, rest, htext, hd⟩ := escapeBlock_opens cs hopens
      rw [htext] at hdoubled
      exact absurd hdoubled (not_doubled_cons hd _)
    · obtain ⟨hquote, htwo⟩ : c = '"' ∧ quotes ≠ 2 := by
        simpa only [not_or, Classical.not_not, ne_eq] using hopens
      have hone : quotes = 1 := by omega
      subst hquote hone
      cases cs with
      | nil => exact ⟨rfl, rfl⟩
      | cons d cs =>
        obtain ⟨e, rest, htext, he⟩ := escapeBlock_opens (c := d) cs (.inr rfl)
        obtain ⟨after, hafter⟩ := hdoubled
        rw [escapeBlock, if_pos rfl, if_neg (by decide), htext] at hafter
        exact absurd (List.cons.inj (List.cons.inj hafter).2).1 he

/-- The text between triple quotes is read back with all of its quotes, since every third one of a
    run was escaped. -/
theorem readBlock_escapeBlock {rest : List Char} (hrest : rest.head? ≠ some '"') (cs : List Char)
    (done : List Char) {quotes : Nat} (hquotes : quotes ≤ 2) :
    readBlock done (.plain false) (escapeBlock quotes cs ++ '"' :: '"' :: '"' :: rest) =
      some (String.ofList (done.reverse ++ cs), rest) := by
  induction cs generalizing done quotes with
  | nil => simpa [escapeBlock] using readBlock_closing done (Nat.zero_le 2) hrest
  | cons c cs ih =>
    unfold escapeBlock
    by_cases hquote : c = '"'
    · subst hquote
      rw [if_pos rfl]
      by_cases hthird : quotes = 2
      · rw [if_pos hthird]
        simp only [List.cons_append, readBlock, escape?]
        simp [ih]
      rw [if_neg hthird, List.cons_append]
      by_cases hdoubled : Doubled '"' (escapeBlock (quotes + 1) cs ++ '"' :: '"' :: '"' :: rest)
      · -- The reader closes the string here, and finds its last quotes behind the closing ones.
        rcases eq_of_doubled_escapeBlock (by omega) (by omega) hdoubled with rfl | ⟨rfl, hone⟩
        · simpa [escapeBlock, List.replicate] using readBlock_closing done (Nat.le_succ 1) hrest
        · simpa [escapeBlock, hone, List.replicate] using readBlock_closing done (Nat.le_refl 2) hrest
      · rw [readBlock_quote done hdoubled, ih ('"' :: done) (by omega)]
        simp
    rw [if_neg hquote]
    by_cases hfeed : c = '\n'
    · rw [if_pos hfeed, List.cons_append, readBlock_feed, ih _ (by decide), hfeed]
      simp
    · rw [if_neg hfeed, List.append_assoc, readBlock_escapeChar _ _ hquote hfeed,
        ih _ (by decide)]
      simp

/-- In a string without escapes too a quote that is not the first of three belongs to the string. -/
theorem readLiteralBlock_quote (done : List Char) {rest : List Char}
    (hnot : ¬ Doubled '\'' rest) :
    readLiteralBlock done ('\'' :: rest) = readLiteralBlock ('\'' :: done) rest := by
  have hopen : ∀ text, rest = '\'' :: '\'' :: text → False := fun text heq => hnot ⟨text, heq⟩
  rw [readLiteralBlock, if_pos rfl]
  exact hopen

theorem readLiteralBlock_plain (done rest : List Char) {c : Char} (hquote : c ≠ '\'')
    (hplain : isPlain c = true ∨ c = '\n') :
    readLiteralBlock done (c :: rest) = readLiteralBlock (c :: done) rest := by
  rcases hplain with hplain | rfl <;> simp [readLiteralBlock, *]

theorem readLiteralBlock_closing (done : List Char) {rest : List Char} {count : Nat}
    (hcount : count ≤ 2) (hrest : rest.head? ≠ some '\'') :
    readLiteralBlock done (List.replicate count '\'' ++ '\'' :: '\'' :: '\'' :: rest) =
      some (String.ofList (done.reverse ++ List.replicate count '\''), rest) := by
  rw [replicate_append_closing]
  simp [readLiteralBlock, closeQuotes_replicate done hcount hrest]

/-- Behind a quote in runs of at most two, two more quotes come only at the end. -/
theorem eq_of_doubled_append {cs more : List Char} {quotes : Nat} (hlow : 1 ≤ quotes)
    (hruns : RunsWithin '\'' 2 quotes cs) (hdoubled : Doubled '\'' (cs ++ more)) :
    cs = [] ∨ cs = ['\''] := by
  obtain ⟨after, hafter⟩ := hdoubled
  cases cs with
  | nil => exact .inl rfl
  | cons c cs =>
    right
    obtain ⟨rfl, hbehind⟩ := List.cons.inj hafter
    unfold RunsWithin at hruns
    rw [if_pos rfl] at hruns
    cases cs with
    | nil => rfl
    | cons d cs =>
      obtain ⟨rfl, _⟩ := List.cons.inj hbehind
      obtain ⟨hone, hruns⟩ := hruns
      unfold RunsWithin at hruns
      rw [if_pos rfl] at hruns
      omega

/-- A text without runs of three quotes is read back without any escape. -/
theorem readLiteralBlock_append {rest : List Char} (hrest : rest.head? ≠ some '\'')
    {cs : List Char} (hcs : ∀ c ∈ cs, isPlain c = true ∨ c = '\n') (done : List Char)
    {quotes : Nat} (hruns : RunsWithin '\'' 2 quotes cs) :
    readLiteralBlock done (cs ++ '\'' :: '\'' :: '\'' :: rest) =
      some (String.ofList (done.reverse ++ cs), rest) := by
  induction cs generalizing done quotes with
  | nil => simpa using readLiteralBlock_closing done (Nat.zero_le 2) hrest
  | cons c cs ih =>
    have htail := fun d hd => hcs d (List.mem_cons_of_mem c hd)
    unfold RunsWithin at hruns
    by_cases hquote : c = '\''
    · subst hquote
      rw [if_pos rfl] at hruns
      rw [List.cons_append]
      by_cases hdoubled : Doubled '\'' (cs ++ '\'' :: '\'' :: '\'' :: rest)
      · rcases eq_of_doubled_append (Nat.succ_pos quotes) hruns.2 hdoubled with rfl | rfl
        · simpa [List.replicate] using readLiteralBlock_closing done (Nat.le_succ 1) hrest
        · simpa [List.replicate] using readLiteralBlock_closing done (Nat.le_refl 2) hrest
      · rw [readLiteralBlock_quote done hdoubled, ih htail _ hruns.2]
        simp
    · rw [if_neg hquote] at hruns
      rw [List.cons_append, readLiteralBlock_plain _ _ hquote (hcs c List.mem_cons_self),
        ih htail _ hruns]
      simp

end ExpiryGate.Toml
