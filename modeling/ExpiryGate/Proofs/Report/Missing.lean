import ExpiryGate.Proofs.Files.Name
import ExpiryGate.Proofs.Gate.Load
import ExpiryGate.Proofs.Text.Lines
import ExpiryGate.Verdict.Report

namespace ExpiryGate

variable {files : Files} {path : String}

namespace Verdict

/-- The report on a baseline that does not exist is one sentence, with a name for the baseline. -/
theorem report_absent (path : String) (today : Date) :
    (absent path today).report = missingName path ++ " not found — no exceptions to enforce\n" := by
  have hlines : (absent path today).reportLines =
      [missingName path ++ " not found — no exceptions to enforce"] := rfl
  rw [report, hlines, Text.unlines_singleton, String.append_assoc]
  rfl

/-- A path that ends in a proper segment is called by this segment. -/
theorem missingName_of_endsIn {name : String} (hends : Path.EndsIn path name) (hne : name ≠ "..") :
    missingName path = name := by
  rw [missingName, Path.fileName?_eq_some_iff.2 ⟨hends, hne⟩, Option.getD_some]

/-- A path without a name is given in full. -/
theorem missingName_of_nameless
    (hnameless : Path.IsHere path ∨ Path.IsRoot path ∨ Path.EndsIn path "..") :
    missingName path = path := by
  rw [missingName, Path.fileName?_eq_none_iff.2 hnameless, Option.getD_none]

end Verdict

namespace Location

/-- The default path decides on the name, and not the root that it is taken below. -/
theorem endsIn_join_defaultPath (root : String) :
    Path.EndsIn (Path.join root defaultPath) "advisory-baseline.toml" := by
  have hdefault : Path.EndsIn defaultPath "advisory-baseline.toml" := by
    rw [Path.endsIn_iff]
    decide
  exact hdefault.join root

/-- A place that nobody asked for is the default path below the root of the repository. -/
theorem path_of_resolve_default {start : String} {explicit environment : Option String}
    {location : Location} (hresolve : resolve files start explicit environment = .ok location)
    (hsource : location.source = .default) : location.path = defaultFrom files start := by
  unfold resolve at hresolve
  split at hresolve
  · split at hresolve
    · cases hresolve
      cases hsource
    · cases hresolve
  · split at hresolve
    · cases hresolve
      cases hsource
    · cases hresolve
      rfl

end Location

/-- Where nothing is at a path, the check succeeds, and its report is the sentence on the name of
    the path. If the path has none, the sentence is on all of the path: these paths are empty, or
    would be without the dots in them, or are the root, or end in two dots. The name of a place that
    was chosen by default is always that of the default baseline, from wherever the search for the
    root starts and whichever root it comes to. -/
theorem Gate.missing_baseline_reported_by_name (files : Files) (today : Date) :
    (∀ path, files.present path = false → ∃ v, check files path today = .ok v ∧
        (∀ name, Path.EndsIn path name → name ≠ ".." →
          v.report = name ++ " not found — no exceptions to enforce\n") ∧
        ((¬ ∃ name, Path.EndsIn path name ∧ name ≠ "..") →
          v.report = path ++ " not found — no exceptions to enforce\n")) ∧
      (∀ path, (¬ ∃ name, Path.EndsIn path name ∧ name ≠ "..") ↔
        Path.IsHere path ∨ Path.IsRoot path ∨ Path.EndsIn path "..") ∧
      (∀ root, Path.EndsIn (Path.join root Location.defaultPath) "advisory-baseline.toml") ∧
      ∀ start explicit environment location,
        Location.resolve files start explicit environment = .ok location →
        location.source = .default → Path.EndsIn location.path "advisory-baseline.toml" ∧
          (files.present location.path = false → ∃ v, check files location.path today = .ok v ∧
            v.report = "advisory-baseline.toml not found — no exceptions to enforce\n") := by
  have hnameless : ∀ path, (¬ ∃ name, Path.EndsIn path name ∧ name ≠ "..") ↔
      Path.IsHere path ∨ Path.IsRoot path ∨ Path.EndsIn path ".." := by
    intro path
    rw [← Path.fileName?_eq_none_iff, Option.eq_none_iff_forall_ne_some]
    simp only [ne_eq, Path.fileName?_eq_some_iff, not_exists]
  refine ⟨?_, hnameless, Location.endsIn_join_defaultPath, ?_⟩
  · intro path habsent
    refine ⟨_, check_of_absent today habsent, ?_, ?_⟩
    · intro name hends hne
      rw [Verdict.report_absent, Verdict.missingName_of_endsIn hends hne]
    · intro hnone
      rw [Verdict.report_absent, Verdict.missingName_of_nameless ((hnameless path).1 hnone)]
  · intro start explicit environment location hresolve hsource
    have hends : Path.EndsIn location.path "advisory-baseline.toml" := by
      rw [Location.path_of_resolve_default hresolve hsource]
      exact Location.endsIn_join_defaultPath _
    refine ⟨hends, fun habsent => ⟨_, check_of_absent today habsent, ?_⟩⟩
    rw [Verdict.report_absent, Verdict.missingName_of_endsIn hends (by decide)]
    rfl

end ExpiryGate
