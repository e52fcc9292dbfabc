namespace ExpiryGate

variable {α β ε : Type} {step : β → α → Except ε β}

/-- If two steps in a row succeed, so does the first one, and the second one on its result. -/
theorem exists_of_bind_eq_ok {x : Except ε α} {f : α → Except ε β} {b : β}
    (hbind : x >>= f = .ok b) : ∃ a, x = .ok a ∧ f a = .ok b := by
  cases x with
  | error fault => cases hbind
  | ok a => exact ⟨a, rfl, hbind⟩

theorem exists_map_eq_ok_iff {x : Except ε α} {f : α → β} :
    (∃ b, x.map f = .ok b) ↔ ∃ a, x = .ok a := by
  cases x <;> simp [Except.map]

theorem exists_of_map_eq_ok {x : Except ε α} {f : α → β} {b : β} (h : x.map f = .ok b) :
    ∃ a, x = .ok a ∧ b = f a := by
  cases x with
  | error fault => cases h
  | ok a =>
    cases h
    exact ⟨a, rfl, rfl⟩

theorem mapError_eq_ok_iff {ε' : Type} {x : Except ε α} {f : ε → ε'} {a : α} :
    x.mapError f = .ok a ↔ x = .ok a := by
  constructor
  · intro h
    cases x with
    | error fault => cases h
    | ok b =>
      cases h
      rfl
  · rintro rfl
    rfl

theorem exists_of_foldlM_cons {a : α} {l : List α} {b last : β}
    (h : (a :: l).foldlM step b = .ok last) :
    ∃ next, step b a = .ok next ∧ l.foldlM step next = .ok last := by
  rw [List.foldlM_cons] at h
  exact exists_of_bind_eq_ok h

/-- A fold succeeds iff each step does, if that does not depend on the state. -/
theorem exists_foldlM_iff {P : α → Prop} (hstep : ∀ b a, (∃ next, step b a = .ok next) ↔ P a)
    {l : List α} {b : β} : (∃ last, l.foldlM step b = .ok last) ↔ ∀ a ∈ l, P a := by
  induction l generalizing b with
  | nil => simp [pure, Except.pure]
  | cons a l ih =>
    rw [List.forall_mem_cons]
    constructor
    · rintro ⟨last, hlast⟩
      obtain ⟨next, hnext, hlast⟩ := exists_of_foldlM_cons hlast
      exact ⟨(hstep b a).1 ⟨next, hnext⟩, ih.1 ⟨last, hlast⟩⟩
    · rintro ⟨ha, hl⟩
      obtain ⟨next, hnext⟩ := (hstep b a).2 ha
      obtain ⟨last, hlast⟩ := (ih (b := next)).2 hl
      refine ⟨last, ?_⟩
      rw [List.foldlM_cons, hnext]
      exact hlast

/-- Steps that agree on all members of a list lead to the same fold. -/
theorem foldlM_congr_of_mem {other : β → α → Except ε β} {l : List α}
    (hsame : ∀ a ∈ l, ∀ b, step b a = other b a) (b : β) : l.foldlM step b = l.foldlM other b := by
  induction l generalizing b with
  | nil => rfl
  | cons a l ih =>
    obtain ⟨ha, hl⟩ := List.forall_mem_cons.1 hsame
    rw [List.foldlM_cons, List.foldlM_cons, ha b]
    exact bind_congr fun next => ih hl next

/-- Steps that never change the state may be left out. -/
theorem foldlM_filter_of_skip {p : α → Bool} {l : List α}
    (hskip : ∀ a ∈ l, p a = false → ∀ b, step b a = .ok b) (b : β) :
    (l.filter p).foldlM step b = l.foldlM step b := by
  rw [List.foldlM_filter]
  refine foldlM_congr_of_mem (fun a ha b => ?_) b
  cases hp : p a with
  | true => rfl
  | false => exact (hskip a ha hp b).symm

/-- What a fold over entries with distinct keys leaves in a part of its state that only the entry
    under one key changes. -/
theorem part_of_foldlM {κ ν γ : Type} [DecidableEq κ] {step : β → κ × ν → Except ε β}
    {part : β → γ} {read : ν → γ} {key : κ}
    (hstep : ∀ {b k v next}, step b (k, v) = .ok next →
      part next = if k = key then read v else part b)
    {entries : List (κ × ν)} (hkeys : (entries.map Prod.fst).Nodup) {b last : β}
    (hlast : entries.foldlM step b = .ok last) :
    part last = ((entries.lookup key).map read).getD (part b) := by
  induction entries generalizing b with
  | nil =>
    cases hlast
    rfl
  | cons e entries ih =>
    obtain ⟨k, v⟩ := e
    obtain ⟨hk, hkeys⟩ := List.nodup_cons.1 hkeys
    obtain ⟨next, hnext, hlast⟩ := exists_of_foldlM_cons hlast
    rw [ih hkeys hlast, hstep hnext, List.lookup_cons]
    by_cases heq : k = key
    · subst heq
      have hnone : entries.lookup k = none := by
        rw [List.lookup_eq_none_iff]
        intro e he
        rw [bne_iff_ne]
        rintro rfl
        exact hk (List.mem_map.2 ⟨e, he, rfl⟩)
      rw [hnone, beq_self_eq_true, if_pos rfl]
      rfl
    · rw [beq_false_of_ne (Ne.symm heq), if_neg heq]

end ExpiryGate
