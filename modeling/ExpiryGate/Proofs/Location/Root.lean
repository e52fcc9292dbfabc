import ExpiryGate.Location
import ExpiryGate.Proofs.Files.Path

namespace ExpiryGate.Location

/-- The directory that is `count` levels above another one, if there are that many. -/
def above? (directory : String) : Nat → Option String
  | 0 => some directory
  | count + 1 => (above? directory count).bind Path.parent?

/-- There is a root mark in the directory. -/
def Marked (files : Files) (directory : String) : Prop :=
  files.present (Path.join directory rootMark) = true

instance (files : Files) (directory : String) : Decidable (Marked files directory) :=
  inferInstanceAs (Decidable (files.present (Path.join directory rootMark) = true))

/-- The directory `count` levels above `start` has a root mark, and no nearer one does. -/
structure IsNearest (files : Files) (start : String) (count : Nat) (root : String) : Prop where
  above : above? start count = some root
  marked : Marked files root
  nearer : ∀ fewer < count, ∀ directory, above? start fewer = some directory →
    ¬ Marked files directory

variable {files : Files} {start directory root : String} {count : Nat}

/-- Going up may as well begin with the first level. -/
theorem above?_succ (directory : String) (count : Nat) :
    above? directory (count + 1) = (Path.parent? directory).bind fun parent =>
      above? parent count := by
  induction count with
  | zero => cases hparent : Path.parent? directory <;> simp [above?, hparent]
  | succ count ih =>
    rw [above?, ih, Option.bind_assoc]
    rfl

theorem isNearest_zero_iff : IsNearest files start 0 root ↔ root = start ∧ Marked files start := by
  constructor
  · rintro ⟨habove, hmarked, _⟩
    cases habove
    exact ⟨rfl, hmarked⟩
  · rintro ⟨rfl, hmarked⟩
    exact ⟨rfl, hmarked, fun fewer hfewer => absurd hfewer (Nat.not_lt_zero fewer)⟩

/-- From an unmarked directory the nearest marked one is that of its parent, one level farther. -/
theorem isNearest_succ_iff (hmark : ¬ Marked files start) :
    IsNearest files start (count + 1) root ↔
      ∃ parent, Path.parent? start = some parent ∧ IsNearest files parent count root := by
  constructor
  · rintro ⟨habove, hmarked, hnearer⟩
    rw [above?_succ] at habove
    obtain ⟨parent, hparent, habove⟩ := Option.bind_eq_some_iff.1 habove
    refine ⟨parent, hparent, habove, hmarked, fun fewer hfewer directory hdirectory => ?_⟩
    apply hnearer (fewer + 1) (Nat.succ_lt_succ hfewer)
    rw [above?_succ, hparent]
    exact hdirectory
  · rintro ⟨parent, hparent, habove, hmarked, hnearer⟩
    refine ⟨?_, hmarked, fun fewer hfewer directory hdirectory => ?_⟩
    · rw [above?_succ, hparent]
      exact habove
    · cases fewer with
      | zero =>
        cases hdirectory
        exact hmark
      | succ fewer =>
        rw [above?_succ, hparent] at hdirectory
        exact hnearer fewer (Nat.lt_of_succ_lt_succ hfewer) directory hdirectory

/-- One round of the search: the directory itself if it has a root mark, and else a search from its
    parent with a round less. -/
theorem searchRoot_succ (files : Files) (depth : Nat) (start : String) :
    searchRoot files (depth + 1) start =
      if Marked files start then some start
      else (Path.parent? start).bind (searchRoot files depth) := by
  rw [searchRoot]
  cases Path.parent? start <;> rfl

/-- By induction on the number of directories that may be looked at. -/
theorem searchRoot_eq_some_iff {depth : Nat} :
    searchRoot files depth start = some root ↔
      ∃ count < depth, IsNearest files start count root := by
  induction depth generalizing start with
  | zero => simp [searchRoot]
  | succ depth ih =>
    rw [searchRoot_succ]
    by_cases hmark : Marked files start
    · rw [if_pos hmark]
      constructor
      · intro hroot
        cases hroot
        exact ⟨0, Nat.succ_pos depth, isNearest_zero_iff.2 ⟨rfl, hmark⟩⟩
      · rintro ⟨count, _, hnearest⟩
        cases count with
        | zero => rw [(isNearest_zero_iff.1 hnearest).1]
        | succ count => exact absurd hmark (hnearest.nearer 0 (Nat.succ_pos count) start rfl)
    · rw [if_neg hmark, Option.bind_eq_some_iff]
      constructor
      · rintro ⟨parent, hparent, hroot⟩
        obtain ⟨count, hcount, hnearest⟩ := ih.1 hroot
        exact ⟨count + 1, Nat.succ_lt_succ hcount,
          (isNearest_succ_iff hmark).2 ⟨parent, hparent, hnearest⟩⟩
      · rintro ⟨count, hcount, hnearest⟩
        cases count with
        | zero => exact absurd (isNearest_zero_iff.1 hnearest).2 hmark
        | succ count =>
          obtain ⟨parent, hparent, hnearest⟩ := (isNearest_succ_iff hmark).1 hnearest
          exact ⟨parent, hparent, ih.2 ⟨count, Nat.lt_of_succ_lt_succ hcount, hnearest⟩⟩

/-- There is at most one nearest directory. -/
theorem IsNearest.count_unique {other : String} {more : Nat}
    (h : IsNearest files start count root) (hother : IsNearest files start more other) :
    count = more := by
  rcases Nat.lt_trichotomy count more with hlt | heq | hlt
  · exact absurd h.marked (hother.nearer count hlt root h.above)
  · exact heq
  · exact absurd hother.marked (h.nearer more hlt other hother.above)

/-- A nearest directory within the rounds of the search is what the search finds. -/
theorem IsNearest.repositoryRoot_eq (h : IsNearest files start count root)
    (hcount : count < searchDepth) : repositoryRoot files start = root := by
  rw [repositoryRoot, searchRoot_eq_some_iff.2 ⟨count, hcount, h⟩, Option.getD_some]

/-- At or below a marked directory there is a nearest one. By induction on its level. -/
theorem exists_isNearest_of_marked (habove : above? start count = some directory)
    (hmarked : Marked files directory) :
    ∃ nearer ≤ count, ∃ root, IsNearest files start nearer root := by
  induction count using Nat.strongRecOn generalizing directory with
  | ind count ih =>
    by_cases hnearer : ∃ fewer < count, ∃ other, above? start fewer = some other ∧
        Marked files other
    · obtain ⟨fewer, hfewer, other, hother, hotherMarked⟩ := hnearer
      obtain ⟨nearer, hle, hnearest⟩ := ih fewer hfewer hother hotherMarked
      exact ⟨nearer, Nat.le_trans hle (Nat.le_of_lt hfewer), hnearest⟩
    · refine ⟨count, Nat.le_refl count, directory, habove, hmarked, ?_⟩
      intro fewer hfewer other hother hotherMarked
      exact hnearer ⟨fewer, hfewer, other, hother, hotherMarked⟩

/-- Either the nearest marked directory is among the first ten, or none of these is marked. -/
theorem repositoryRoot_cases (files : Files) (start : String) :
    (∃ count < searchDepth, IsNearest files start count (repositoryRoot files start)) ∨
      repositoryRoot files start = start ∧ ∀ count < searchDepth, ∀ directory,
        above? start count = some directory → ¬ Marked files directory := by
  cases hsearch : searchRoot files searchDepth start with
  | some root =>
    left
    obtain ⟨count, hcount, hnearest⟩ := searchRoot_eq_some_iff.1 hsearch
    refine ⟨count, hcount, ?_⟩
    rw [hnearest.repositoryRoot_eq hcount]
    exact hnearest
  | none =>
    right
    refine ⟨by rw [repositoryRoot, hsearch, Option.getD_none], ?_⟩
    intro count hcount directory habove hmarked
    obtain ⟨nearer, hle, root, hnearest⟩ := exists_isNearest_of_marked habove hmarked
    rw [searchRoot_eq_some_iff.2 ⟨nearer, Nat.lt_of_le_of_lt hle hcount, hnearest⟩] at hsearch
    cases hsearch

/-- The root that is found, exactly: the nearest marked directory within the rounds, and the start
    if none of them is marked. -/
theorem repositoryRoot_eq_iff :
    repositoryRoot files start = root ↔
      (∃ count < searchDepth, IsNearest files start count root) ∨
        root = start ∧ ∀ count < searchDepth, ∀ directory,
          above? start count = some directory → ¬ Marked files directory := by
  constructor
  · rintro rfl
    exact repositoryRoot_cases files start
  · rintro (⟨count, hcount, hnearest⟩ | ⟨rfl, hunmarked⟩)
    · exact hnearest.repositoryRoot_eq hcount
    · rcases repositoryRoot_cases files root with ⟨count, hcount, hnearest⟩ | ⟨hroot, _⟩
      · exact absurd hnearest.marked (hunmarked count hcount _ hnearest.above)
      · exact hroot

/-- A root mark that is too far above might as well not be there. -/
theorem IsNearest.repositoryRoot_eq_start (h : IsNearest files start count root)
    (hcount : searchDepth ≤ count) : repositoryRoot files start = start := by
  rcases repositoryRoot_cases files start with ⟨fewer, hfewer, hnearest⟩ | ⟨hstart, _⟩
  · have hsame := h.count_unique hnearest
    omega
  · exact hstart

/-- The default baseline is two components below the root. -/
theorem components_defaultFrom (files : Files) (start : String) :
    Path.components (defaultFrom files start) =
      Path.components (repositoryRoot files start) ++ ["security", "advisory-baseline.toml"] := by
  have hdefault : Path.components defaultPath = ["security", "advisory-baseline.toml"] := by
    decide
  rw [defaultFrom, Path.components_join _ (by decide), hdefault]

/-- If the nearest directory with a root mark is the start or one of the nine directories above it,
    it is the root and the default baseline is below it. If it is farther above, from the tenth
    directory on, the start counts as the root and the default baseline is below the start. -/
theorem IsNearest.reached_up_to_nine (h : IsNearest files start count root) :
    (count ≤ 9 → repositoryRoot files start = root ∧
        Path.components (defaultFrom files start) =
          Path.components root ++ ["security", "advisory-baseline.toml"]) ∧
      (10 ≤ count → repositoryRoot files start = start ∧
        Path.components (defaultFrom files start) =
          Path.components start ++ ["security", "advisory-baseline.toml"]) := by
  have hbelow := components_defaultFrom files start
  constructor
  · intro hcount
    have hroot := h.repositoryRoot_eq (Nat.lt_succ_of_le hcount)
    rw [hroot] at hbelow
    exact ⟨hroot, hbelow⟩
  · intro hcount
    have hroot := h.repositoryRoot_eq_start hcount
    rw [hroot] at hbelow
    exact ⟨hroot, hbelow⟩

/-- The only root mark is nine directories above the start. -/
theorem IsNearest.reached_up_to_nine_example :
    let files : Files := ⟨fun path => path = "r/.git", fun _ => .error .notFound⟩
    let start := "r/a/b/c//d/e/f/./g/h/i/"
    IsNearest files start 9 "r" ∧ repositoryRoot files start = "r" ∧
      Path.components (defaultFrom files start) = ["r", "security", "advisory-baseline.toml"] := by
  intro files start
  have hnearest : IsNearest files start 9 "r" := by
    refine ⟨by decide +kernel, by decide +kernel, ?_⟩
    decide +kernel
  obtain ⟨hreached, _⟩ := hnearest.reached_up_to_nine
  exact ⟨hnearest, hreached (Nat.le_refl 9)⟩

/-- A root mark ten directories above the start is missed: the tenth parent of this directory is the
    current directory, which has one, but the search ends at `a`. -/
theorem tenth_parent_not_reached :
    let files : Files := ⟨fun path => path = ".git", fun _ => .error .notFound⟩
    let start := "a/b/c/d/e/f/g/h/i/j"
    IsNearest files start 10 "" ∧ repositoryRoot files start = start ∧ start ≠ "" ∧
      defaultFrom files start = "a/b/c/d/e/f/g/h/i/j/security/advisory-baseline.toml" := by
  intro files start
  refine ⟨⟨by decide +kernel, by decide +kernel, ?_⟩, by decide +kernel, by decide,
    by decide +kernel⟩
  decide +kernel

end ExpiryGate.Location
