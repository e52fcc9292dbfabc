import ExpiryGate.Waiver.Baseline
import Mathlib.Data.List.Basic

namespace ExpiryGate.Baseline

/-- The identifiers of the waivers in their order. -/
def ids (b : Baseline) : List String :=
  b.waivers.map Waiver.id

/-- What `repeatsAfter` knows behind the identifiers in `scanned`: which of them there are, and
    which come again, in the order of their second occurrences. -/
structure Scanned (scanned seen repeats : List String) : Prop where
  mem_seen_iff : ∀ id, id ∈ seen ↔ id ∈ scanned
  mem_repeats_iff : ∀ id, id ∈ repeats ↔ 2 ≤ scanned.count id
  ordered : repeats.Pairwise fun x y => scanned.idxOfNth x 1 < scanned.idxOfNth y 1

variable {scanned seen repeats : List String} {id : String}

/-- What comes later does not move an occurrence. -/
theorem idxOfNth_append {n : Nat} (more : List String) (hcount : n < scanned.count id) :
    (scanned ++ more).idxOfNth id n = scanned.idxOfNth id n := by
  have hlength : n < (scanned.idxsOf id).length := by
    rw [List.length_idxsOf]
    exact hcount
  have hmore : n < ((scanned ++ more).idxsOf id).length := by
    rw [List.idxsOf_append, List.length_append]
    omega
  rw [← List.getElem_idxOf_eq_idxOfNth (h := hmore),
    ← List.getElem_idxOf_eq_idxOfNth (h := hlength)]
  simp only [List.idxsOf_append, List.getElem_append_left hlength]

/-- An identifier that was there once has its second place at the end. -/
theorem idxOfNth_concat (hcount : scanned.count id = 1) :
    (scanned ++ [id]).idxOfNth id 1 = scanned.length := by
  have hlast : (scanned ++ [id])[scanned.length]? = some id := by simp
  have hbefore : (scanned ++ [id]).countBefore id scanned.length = 1 := by
    rw [List.countBefore_eq_count_take, List.take_left, hcount]
  rw [← hbefore]
  apply List.idxOfNth_countBefore_of_lt_length_of_beq
  · simp
  · simp

/-- Second places do not change as the scan goes on, and neither does their order. -/
theorem Scanned.ordered_append (h : Scanned scanned seen repeats) (more : List String) :
    repeats.Pairwise fun x y =>
      (scanned ++ more).idxOfNth x 1 < (scanned ++ more).idxOfNth y 1 := by
  refine h.ordered.imp_of_mem ?_
  intro x y hx hy hlt
  rw [idxOfNth_append more ((h.mem_repeats_iff x).1 hx),
    idxOfNth_append more ((h.mem_repeats_iff y).1 hy)]
  exact hlt

theorem count_concat (scanned : List String) (id other : String) :
    (scanned ++ [id]).count other = scanned.count other + if other = id then 1 else 0 := by
  rw [List.count_append, List.count_singleton]
  by_cases hother : other = id
  · simp [hother]
  · simp [hother, Ne.symm hother]

/-- An identifier that has been seen adds nothing to those that were seen. -/
theorem Scanned.mem_seen_concat_iff (h : Scanned scanned seen repeats) (hid : id ∈ scanned)
    (other : String) : other ∈ seen ↔ other ∈ scanned ++ [id] := by
  rw [h.mem_seen_iff, List.mem_append, List.mem_singleton]
  constructor
  · exact .inl
  · rintro (hother | rfl)
    · exact hother
    · exact hid

/-- An identifier that comes for the first time. -/
theorem Scanned.first (h : Scanned scanned seen repeats) (hid : id ∉ seen) :
    Scanned (scanned ++ [id]) (id :: seen) repeats where
  mem_seen_iff other := by
    rw [List.mem_cons, List.mem_append, List.mem_singleton, h.mem_seen_iff, or_comm]
  mem_repeats_iff other := by
    rw [h.mem_seen_iff] at hid
    have hcount := List.count_eq_zero_of_not_mem hid
    rw [h.mem_repeats_iff, count_concat]
    split
    · rename_i hother
      rw [hother, hcount]
      decide
    · rw [Nat.add_zero]
  ordered := h.ordered_append [id]

/-- An identifier that comes for the second time is listed behind the others. -/
theorem Scanned.second (h : Scanned scanned seen repeats) (hid : id ∈ seen)
    (hrepeats : id ∉ repeats) : Scanned (scanned ++ [id]) seen (repeats ++ [id]) := by
  rw [h.mem_seen_iff] at hid
  have hcount : scanned.count id = 1 := by
    have hpos := List.count_pos_iff.2 hid
    rw [h.mem_repeats_iff] at hrepeats
    omega
  refine ⟨h.mem_seen_concat_iff hid, fun other => ?_, ?_⟩
  · rw [List.mem_append, List.mem_singleton, h.mem_repeats_iff, count_concat]
    split
    · rename_i hother
      rw [hother, hcount]
      exact iff_of_true (.inr rfl) (Nat.le_refl 2)
    · rename_i hother
      rw [or_iff_left hother, Nat.add_zero]
  · rw [List.pairwise_append]
    refine ⟨h.ordered_append [id], List.pairwise_singleton _ _, ?_⟩
    intro x hx y hy
    have hxcount := (h.mem_repeats_iff x).1 hx
    rw [List.mem_singleton.1 hy, idxOfNth_concat hcount, idxOfNth_append [id] hxcount]
    exact List.idxOfNth_lt_length_of_lt_count hxcount

/-- An identifier that is listed already. -/
theorem Scanned.again (h : Scanned scanned seen repeats) (hid : id ∈ repeats) :
    Scanned (scanned ++ [id]) seen repeats := by
  have hcount := (h.mem_repeats_iff id).1 hid
  have hscanned : id ∈ scanned := List.count_pos_iff.1 (Nat.lt_of_lt_of_le Nat.zero_lt_two hcount)
  refine ⟨h.mem_seen_concat_iff hscanned, fun other => ?_, h.ordered_append [id]⟩
  rw [h.mem_repeats_iff, count_concat]
  split
  · rename_i hother
    rw [hother]
    omega
  · rw [Nat.add_zero]

/-- By induction on the waivers that are left, one case for each branch of the scan. -/
theorem Scanned.repeatsAfter (h : Scanned scanned seen repeats) (ws : List Waiver) :
    ∃ all, Scanned (scanned ++ ws.map Waiver.id) all (repeatsAfter seen repeats ws) := by
  induction ws generalizing scanned seen repeats with
  | nil =>
    refine ⟨seen, ?_⟩
    rw [List.map_nil, List.append_nil]
    exact h
  | cons w ws ih =>
    rw [List.map_cons, ← List.singleton_append, ← List.append_assoc, Baseline.repeatsAfter]
    split
    · rename_i hseen
      split
      · rename_i hrepeats
        exact ih (h.again hrepeats)
      · rename_i hrepeats
        exact ih (h.second hseen hrepeats)
    · rename_i hseen
      exact ih (h.first hseen)

/-- The invariant holds behind the last waiver. -/
theorem exists_scanned_repeatedIds (b : Baseline) : ∃ all, Scanned b.ids all b.repeatedIds := by
  have hnothing : Scanned [] [] [] := ⟨by simp, by simp, .nil⟩
  exact hnothing.repeatsAfter b.waivers

/-- The order is strict, so nothing is listed twice. -/
theorem Scanned.nodup (h : Scanned scanned seen repeats) : repeats.Nodup := by
  refine h.ordered.imp ?_
  rintro x y hlt rfl
  exact absurd hlt (Nat.lt_irrefl _)

/-- An identifier that is there more than once stands at its second place, with one in front. -/
theorem getElem?_second_place {ids : List String} (hcount : 2 ≤ ids.count id) :
    ids[ids.idxOfNth id 1]? = some id ∧ (ids.take (ids.idxOfNth id 1)).count id = 1 := by
  have hlt := List.idxOfNth_lt_length_of_lt_count hcount
  constructor
  · rw [List.getElem?_eq_getElem hlt, List.getElem_idxOfNth_eq]
  · rw [← List.countBefore_eq_count_take]
    exact List.countBefore_idxOfNth_of_lt_count hcount

/-- Waivers are counted by what is written for their identifiers, where nothing stands for the
    identifier that is filled in. -/
theorem count_ids_of_written {b : Baseline}
    {written : List (Option String × Option String × Option String)}
    (hwritten : b.waivers = written.map fun w => .ofFields w.1 w.2.1 w.2.2) (id : String) :
    b.ids.count id = written.countP fun w => w.1.getD Waiver.unknownId = id := by
  rw [ids, hwritten, List.map_map, List.count_eq_countP, List.countP_map]
  rfl

/-- An identifier is listed iff at least two waivers have it, and listed once however often it
    comes. The list is in the order of the second places: at these an identifier stands with one of
    its kind in front. A waiver that is written without an identifier counts as one for `UNKNOWN`,
    be it with others of this sort or with waivers that spell the word out. -/
theorem repeatedIds_complete_once_ordered (b : Baseline) :
    (∀ id, id ∈ b.repeatedIds ↔ 2 ≤ b.ids.count id) ∧ b.repeatedIds.Nodup ∧
      (b.repeatedIds.Pairwise fun x y => b.ids.idxOfNth x 1 < b.ids.idxOfNth y 1) ∧
      (∀ id ∈ b.repeatedIds, b.ids[b.ids.idxOfNth id 1]? = some id ∧
        (b.ids.take (b.ids.idxOfNth id 1)).count id = 1) ∧
      ∀ written : List (Option String × Option String × Option String),
        (b.waivers = written.map fun w => .ofFields w.1 w.2.1 w.2.2) →
          ∀ id, id ∈ b.repeatedIds ↔ 2 ≤ written.countP fun w => w.1.getD "UNKNOWN" = id := by
  obtain ⟨all, hscanned⟩ := b.exists_scanned_repeatedIds
  have hmem := hscanned.mem_repeats_iff
  refine ⟨hmem, hscanned.nodup, hscanned.ordered, ?_, ?_⟩
  · intro id hid
    exact getElem?_second_place ((hmem id).1 hid)
  · intro written hwritten id
    rw [hmem, count_ids_of_written hwritten]
    rfl

/-- Two waivers without an identifier and one that spells out what is filled in are three of a
    kind. Their identifier comes again behind that of the others, and is listed behind it. -/
example :
    let b : Baseline := ⟨[none, some "A", some "A", none, some "UNKNOWN"].map fun id =>
      .ofFields id none none⟩
    b.repeatedIds = ["A", "UNKNOWN"] := by
  decide

/-- In a list that is sorted by places, the order of two members is that of their places. -/
theorem idxOf_lt_iff_of_pairwise {list : List String} {place : String → Nat}
    (hsorted : list.Pairwise fun x y => place x < place y) {x y : String} (hx : x ∈ list)
    (hy : y ∈ list) : list.idxOf x < list.idxOf y ↔ place x < place y := by
  have hplaces : ∀ {x y}, x ∈ list → y ∈ list → list.idxOf x < list.idxOf y →
      place x < place y := by
    intro x y hx hy hlt
    have hrelated := List.pairwise_iff_getElem.1 hsorted _ _ (List.idxOf_lt_length_of_mem hx)
      (List.idxOf_lt_length_of_mem hy) hlt
    rwa [List.getElem_idxOf, List.getElem_idxOf] at hrelated
  constructor
  · exact hplaces hx hy
  · intro hlt
    rcases Nat.lt_trichotomy (list.idxOf x) (list.idxOf y) with hbefore | hsame | hbehind
    · exact hbefore
    · rw [List.idxOf_inj hx] at hsame
      rw [hsame] at hlt
      exact absurd hlt (Nat.lt_irrefl _)
    · exact absurd (hplaces hy hx hbehind) (Nat.lt_asymm hlt)

/-- The second occurrence of one identifier comes before that of another iff in front of it there
    is at most one of the other. -/
theorem idxOfNth_lt_iff_count_take_le {ids : List String} {x y : String} (hne : x ≠ y)
    (hx : 2 ≤ ids.count x) (hy : 2 ≤ ids.count y) :
    ids.idxOfNth x 1 < ids.idxOfNth y 1 ↔ (ids.take (ids.idxOfNth x 1)).count y ≤ 1 := by
  have hxlt := List.idxOfNth_lt_length_of_lt_count hx
  have hylt := List.idxOfNth_lt_length_of_lt_count hy
  have hsecond : (ids.take (ids.idxOfNth y 1)).count y = 1 := by
    rw [← List.countBefore_eq_count_take, List.countBefore_idxOfNth_of_lt_count hy]
  constructor
  · intro hlt
    have hle := (List.take_sublist_take_left (l := ids) (Nat.le_of_lt hlt)).count_le y
    omega
  · intro hcount
    by_contra hnot
    -- The second occurrence of the other one is in front as well, as no place holds both.
    have hplaces : ids.idxOfNth y 1 ≠ ids.idxOfNth x 1 := by
      intro hsame
      have hxat := List.getElem_idxOfNth_eq (h := hxlt)
      have hyat := List.getElem_idxOfNth_eq (h := hylt)
      simp only [hsame] at hyat
      exact hne (hxat.symm.trans hyat)
    have hinside : ids.take (ids.idxOfNth y 1) ++ [y] = ids.take (ids.idxOfNth y 1 + 1) := by
      rw [← List.take_append_getElem hylt, List.getElem_idxOfNth_eq]
    have htwice : (ids.take (ids.idxOfNth y 1 + 1)).count y = 2 := by
      rw [← hinside, List.count_append, hsecond, List.count_singleton_self]
    have hle := (List.take_sublist_take_left (l := ids)
      (show ids.idxOfNth y 1 + 1 ≤ ids.idxOfNth x 1 by omega)).count_le y
    omega

/-- Of two identifiers that several waivers share, the one that is seen first is listed first iff
    the other one does not come twice before it comes again. Both are listed in any case. -/
theorem first_seen_listed_first_iff (b : Baseline) {x y : String} (hx : 2 ≤ b.ids.count x)
    (hy : 2 ≤ b.ids.count y) (hfirst : b.ids.idxOf x < b.ids.idxOf y) :
    x ∈ b.repeatedIds ∧ y ∈ b.repeatedIds ∧
      (b.repeatedIds.idxOf x < b.repeatedIds.idxOf y ↔
        (b.ids.take (b.ids.idxOfNth x 1)).count y ≤ 1) := by
  obtain ⟨all, hscanned⟩ := b.exists_scanned_repeatedIds
  have hxmem := (hscanned.mem_repeats_iff x).2 hx
  have hymem := (hscanned.mem_repeats_iff y).2 hy
  have hne : x ≠ y := by
    rintro rfl
    exact absurd hfirst (Nat.lt_irrefl _)
  refine ⟨hxmem, hymem, ?_⟩
  rw [idxOf_lt_iff_of_pairwise hscanned.ordered hxmem hymem,
    idxOfNth_lt_iff_count_take_le hne hx hy]

/-- Between the first two waivers for `A` there are two for `B`, but only one for `C`. -/
theorem first_seen_listed_first_iff_example :
    let b : Baseline := ⟨["A", "B", "C", "B", "A", "C"].map fun id => .ofFields (some id) none none⟩
    (2 ≤ b.ids.count "A" ∧ 2 ≤ b.ids.count "B" ∧ 2 ≤ b.ids.count "C") ∧
      b.ids.idxOf "A" < b.ids.idxOf "B" ∧ b.ids.idxOf "A" < b.ids.idxOf "C" ∧
      b.repeatedIds.idxOf "A" < b.repeatedIds.idxOf "C" ∧
      ¬ b.repeatedIds.idxOf "A" < b.repeatedIds.idxOf "B" := by
  intro b
  have hA : 2 ≤ b.ids.count "A" := by decide
  have hB : 2 ≤ b.ids.count "B" := by decide
  have hC : 2 ≤ b.ids.count "C" := by decide
  have hAB : b.ids.idxOf "A" < b.ids.idxOf "B" := by decide
  have hAC : b.ids.idxOf "A" < b.ids.idxOf "C" := by decide
  obtain ⟨_, _, hlistedB⟩ := b.first_seen_listed_first_iff hA hB hAB
  obtain ⟨_, _, hlistedC⟩ := b.first_seen_listed_first_iff hA hC hAC
  refine ⟨⟨hA, hB, hC⟩, hAB, hAC, hlistedC.2 (by decide), ?_⟩
  rw [hlistedB]
  decide

/-- The order in which identifiers are seen is not kept where the waivers for one stand between
    those for another. -/
theorem nested_repeats_listed_inside_out :
    let b : Baseline := ⟨["A", "B", "B", "A"].map fun id => .ofFields (some id) none none⟩
    b.ids.count "A" = 2 ∧ b.ids.count "B" = 2 ∧ b.ids.idxOf "A" < b.ids.idxOf "B" ∧
      b.repeatedIds = ["B", "A"] ∧ ¬ b.repeatedIds.idxOf "A" < b.repeatedIds.idxOf "B" := by
  decide

end ExpiryGate.Baseline
