import ExpiryGate.Proofs.Files.Parent
import ExpiryGate.Proofs.Location.Root

namespace ExpiryGate.Location

variable {start directory : String} {count : Nat}

/-- Each level takes one component off the end. -/
theorem components_above? (habove : above? start count = some directory) :
    ∃ left, Path.components start = Path.components directory ++ left ∧ left.length = count := by
  induction count generalizing directory with
  | zero =>
    cases habove
    exact ⟨[], (List.append_nil _).symm, rfl⟩
  | succ count ih =>
    rw [above?] at habove
    obtain ⟨below, hbelow, hdirectory⟩ := Option.bind_eq_some_iff.1 habove
    obtain ⟨left, hstart, hlength⟩ := ih hbelow
    rcases Path.parent?_cases below with ⟨hnone, _⟩ | ⟨parent, last, hparent, hcomponents, _⟩
    · rw [hnone] at hdirectory
      cases hdirectory
    · rw [hparent] at hdirectory
      cases hdirectory
      refine ⟨last :: left, ?_, by rw [List.length_cons, hlength]⟩
      rw [hstart, hcomponents, List.append_assoc, List.singleton_append]

/-- Going up ends, at the root or at the empty path. By induction on the number of components. -/
theorem exists_last_above? (start : String) :
    ∃ last top, above? start last = some top ∧ above? start (last + 1) = none ∧
      if Path.IsAbsolute start then Path.components top = ["/"] else top = "" := by
  induction hsize : (Path.components start).length using Nat.strongRecOn generalizing start with
  | ind size ih =>
    rcases Path.parent?_cases start with ⟨hnone, hend⟩ |
      ⟨parent, component, hparent, hcomponents, habsolute⟩
    · exact ⟨0, start, rfl, hnone, hend⟩
    · have hfewer : (Path.components parent).length < size := by
        rw [← hsize, hcomponents, List.length_append]
        exact Nat.lt_succ_self _
      obtain ⟨last, top, htop, hbeyond, hend⟩ := ih _ hfewer parent rfl
      refine ⟨last + 1, top, ?_, ?_, ?_⟩
      · rw [above?_succ, hparent]
        exact htop
      · rw [above?_succ, hparent]
        exact hbeyond
      · simp only [habsolute] at hend
        exact hend

/-- The root of the repository is found by a bounded search. The directories that are looked at are
    the start and those above it: each has the components of the start but the last ones, one less
    at each level, up to the root of an absolute path or the empty path. Of the start and the nine
    directories above it, the nearest one with a root mark is the root; only if none has one it is
    the start, as it was written. So no nearer root mark is passed over, and no directory without
    one is the root but the start. -/
theorem repositoryRoot_bounded_search (files : Files) (start : String) :
    (∀ count directory, above? start count = some directory →
        ∃ left, Path.components start = Path.components directory ++ left ∧ left.length = count) ∧
      (∃ last top, above? start last = some top ∧ above? start (last + 1) = none ∧
        if Path.IsAbsolute start then Path.components top = ["/"] else top = "") ∧
      (∀ root, repositoryRoot files start = root ↔
        (∃ count ≤ 9, IsNearest files start count root) ∨
          root = start ∧ ∀ count ≤ 9, ∀ directory, above? start count = some directory →
            ¬ Marked files directory) ∧
      (∀ count ≤ 9, ∀ directory, above? start count = some directory → Marked files directory →
        ∃ nearer ≤ count, IsNearest files start nearer (repositoryRoot files start)) ∧
      (¬ Marked files (repositoryRoot files start) → repositoryRoot files start = start) := by
  refine ⟨fun count directory => components_above?, exists_last_above? start, ?_, ?_, ?_⟩
  · intro root
    have hroot : repositoryRoot files start = root ↔ _ := repositoryRoot_eq_iff
    simp only [searchDepth, Nat.lt_succ_iff] at hroot
    exact hroot
  · intro count hcount directory habove hmarked
    obtain ⟨nearer, hle, root, hnearest⟩ := exists_isNearest_of_marked habove hmarked
    have hreached : nearer < searchDepth := Nat.lt_succ_of_le (Nat.le_trans hle hcount)
    refine ⟨nearer, hle, ?_⟩
    rw [hnearest.repositoryRoot_eq hreached]
    exact hnearest
  · intro hunmarked
    rcases repositoryRoot_cases files start with ⟨count, _, hnearest⟩ | ⟨hroot, _⟩
    · exact absurd hnearest.marked hunmarked
    · exact hroot

/-- The start itself and its parent have no root mark, the directory above them has one, and so has
    the root. -/
theorem repositoryRoot_bounded_search_example :
    let files : Files :=
      ⟨fun path => path ∈ ["/r/.git", "/.git"], fun _ => .error .notFound⟩
    let start := "/r//a/./b/"
    above? start 2 = some "/r" ∧ above? start 3 = some "/" ∧ Marked files "/r" ∧ Marked files "/" ∧
      repositoryRoot files start = "/r" := by
  intro files start
  have habove : above? start 2 = some "/r" := by decide +kernel
  have hmarked : Marked files "/r" := by decide +kernel
  obtain ⟨_, _, hroot, _⟩ := repositoryRoot_bounded_search files start
  refine ⟨habove, by decide +kernel, hmarked, by decide +kernel, (hroot "/r").2 (.inl ?_)⟩
  refine ⟨2, by decide, habove, hmarked, ?_⟩
  decide +kernel

end ExpiryGate.Location
