import ExpiryGate.Proofs.Run.Explicit

namespace ExpiryGate

/-- The same is at the path in both file systems: nothing, or something with the same contents. -/
def Files.AgreeAt (files other : Files) (path : String) : Prop :=
  files.present path = other.present path ∧ files.contents path = other.contents path

theorem Files.AgreeAt.refl (files : Files) (path : String) : files.AgreeAt files path :=
  ⟨rfl, rfl⟩

/-- A check sees nothing of the file system but the path of the baseline. -/
theorem Gate.check_of_agreeAt {files other : Files} {path : String} (today : Date)
    (hagree : files.AgreeAt other path) : check files path today = check other path today := by
  obtain ⟨hpresent, hcontents⟩ := hagree
  simp only [check, load, Files.readText, hpresent, hcontents]

namespace Location

/-- For a path on the command line neither the environment nor the directory matters. -/
theorem resolve_explicit_of_agreeAt {files other : Files} {path : String}
    (hagree : files.AgreeAt other path) (start elsewhere : String)
    (environment value : Option String) :
    resolve files start (some path) environment = resolve other elsewhere (some path) value := by
  rw [resolve_explicit, resolve_explicit, hagree.1]

/-- A path from the environment is taken as it is, without looking at the file system. -/
theorem resolve_environment (files : Files) (start : String) {path : String} (hpath : path ≠ "") :
    resolve files start none (some path) = .ok ⟨path, .environment⟩ := by
  simp [resolve, Option.filter, hpath]

theorem resolve_empty (files : Files) (start : String) (explicit : Option String) :
    resolve files start explicit (some "") = resolve files start explicit none :=
  rfl

end Location

/-- A day that was asked for keeps the clock out. -/
theorem Settings.todayOf_pinned {options : Options} {text : String}
    (hday : options.today = some text) (clock other : Date) :
    todayOf options clock = todayOf options other := by
  simp only [todayOf, hday]

namespace Options

variable {options : Options} {files other : Files} {start elsewhere : String}
  {environment value : Option String} {clock today : Date}

/-- Runs that work with the same day and the same place, and find the same at this place, have the
    same outcome. -/
theorem run_eq_of_agree (sink : Sink)
    (htoday : Settings.todayOf options clock = Settings.todayOf options today)
    (hplace : Location.resolve files start options.baseline environment =
      Location.resolve other elsewhere options.baseline value)
    (hagree : ∀ location, Location.resolve files start options.baseline environment =
      .ok location → files.AgreeAt other location.path) :
    options.run files start environment clock sink =
      options.run other elsewhere value today sink := by
  have hdiscover : Settings.discover files start environment clock options =
      Settings.discover other elsewhere value today options := by
    rw [Settings.discover, Settings.discover, htoday, hplace]
  rw [run, run, ← hdiscover]
  cases hsettings : Settings.discover files start environment clock options with
  | error fault => rfl
  | ok settings =>
    obtain ⟨_, hresolve, _⟩ := Settings.discover_eq_ok_iff.1 hsettings
    simp only [Settings.check]
    rw [Gate.check_of_agreeAt _ (hagree settings.location hresolve)]

/-- Runs that ask for one path and come to one day agree, whatever else differs around them. -/
theorem run_eq_of_asked {path : String} (sink : Sink) (hpath : options.baseline = some path)
    (htoday : Settings.todayOf options clock = Settings.todayOf options today)
    (hagree : files.AgreeAt other path) :
    options.run files start environment clock sink =
      options.run other elsewhere value today sink := by
  apply run_eq_of_agree sink htoday
  · rw [hpath]
    exact Location.resolve_explicit_of_agreeAt hagree start elsewhere environment value
  · intro location hresolve
    rw [hpath, Location.resolve_explicit] at hresolve
    split at hresolve
    · cases hresolve
      exact hagree
    · cases hresolve

/-- Runs with one path from the environment agree, whatever the current directory is. -/
theorem run_eq_of_environment {path : String} (sink : Sink) (hnone : options.baseline = none)
    (hpath : path ≠ "") (hagree : files.AgreeAt other path) :
    options.run files start (some path) clock sink =
      options.run other elsewhere (some path) clock sink := by
  apply run_eq_of_agree sink rfl
  · rw [hnone, Location.resolve_environment files start hpath,
      Location.resolve_environment other elsewhere hpath]
  · intro location hresolve
    rw [hnone, Location.resolve_environment files start hpath] at hresolve
    cases hresolve
    exact hagree

/-- A run that was asked for a day does not depend on the clock, and one that was asked for a
    baseline depends neither on the environment nor on the directory. A path of the environment
    makes up for a baseline that was not asked for: then neither the directory nor the rest of the
    file system plays a part, root marks included. An empty path of the environment is as good as
    none. So with both a day and a baseline the outcome is settled by the options and by what is
    at the path, be it a verdict or a fault. -/
theorem run_pinned (options : Options) (files : Files) (start : String)
    (environment : Option String) (clock : Date) (sink : Sink) :
    (∀ text, options.today = some text → ∀ today,
        options.run files start environment clock sink =
          options.run files start environment today sink) ∧
      (∀ path, options.baseline = some path → ∀ elsewhere value,
        options.run files start environment clock sink =
          options.run files elsewhere value clock sink) ∧
      (∀ path, options.baseline = none → environment = some path → path ≠ "" →
        ∀ other : Files, files.AgreeAt other path → ∀ elsewhere,
          options.run files start environment clock sink =
            options.run other elsewhere environment clock sink) ∧
      options.run files start (some "") clock sink = options.run files start none clock sink ∧
      ∀ text path, options.today = some text → options.baseline = some path →
        ∀ other : Files, files.AgreeAt other path → ∀ elsewhere value today,
          options.run files start environment clock sink =
            options.run other elsewhere value today sink := by
  refine ⟨?_, ?_, ?_, ?_, ?_⟩
  · intro text hday today
    exact run_eq_of_agree sink (Settings.todayOf_pinned hday clock today) rfl
      fun location _ => .refl files location.path
  · intro path hpath elsewhere value
    exact run_eq_of_asked sink hpath rfl (.refl files path)
  · rintro path hnone rfl hpath other hagree elsewhere
    exact run_eq_of_environment sink hnone hpath hagree
  · exact run_eq_of_agree sink rfl (Location.resolve_empty files start options.baseline)
      fun location _ => .refl files location.path
  · intro text path hday hpath other hagree elsewhere value today
    exact run_eq_of_asked sink hpath (Settings.todayOf_pinned hday clock today) hagree

/-- A waiver that expired the day before, checked at two times, from two directories, with and
    without a root mark and another path in the environment. -/
theorem run_pinned_example :
    let document := "[[advisory]]\nid = \"GHSA-1\"\nexpires = \"2026-01-30\"\n"
    let files : Files := ⟨fun path => path = "ci/b.toml", fun _ => .ok document.toUTF8⟩
    let marked : Files := ⟨fun path => path ∈ ["ci/b.toml", "ci/.git"],
      fun _ => .ok document.toUTF8⟩
    let clock : Date := ⟨2026, 1, 1, by decide⟩
    let later : Date := ⟨2027, 1, 1, by decide⟩
    let asked : Options := ⟨some "ci/b.toml", some "2026-01-31", false, false⟩
    let unasked : Options := ⟨none, some "2026-01-31", false, false⟩
    asked.today = some "2026-01-31" ∧ asked.baseline = some "ci/b.toml" ∧
      unasked.baseline = none ∧ files.AgreeAt marked "ci/b.toml" ∧
      asked.run files "" none clock .works = asked.run marked "ci" (some "x") later .works ∧
      unasked.run files "" (some "ci/b.toml") clock .works =
        unasked.run marked "ci" (some "ci/b.toml") clock .works ∧
      (asked.run files "" none clock .works).ending.exitCode = .policyViolation := by
  intro document files marked clock later asked unasked
  have hagree : files.AgreeAt marked "ci/b.toml" := ⟨by decide, rfl⟩
  obtain ⟨_, _, _, _, hboth⟩ := run_pinned asked files "" none clock .works
  obtain ⟨_, _, hplace, _, _⟩ := run_pinned unasked files "" (some "ci/b.toml") clock .works
  refine ⟨rfl, rfl, rfl, hagree, ?_, ?_, ?_⟩
  · exact hboth _ _ rfl rfl marked hagree "ci" (some "x") later
  · exact hplace _ rfl rfl (by decide) marked hagree "ci"
  · decide +kernel

end Options

end ExpiryGate
