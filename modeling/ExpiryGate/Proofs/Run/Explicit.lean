import ExpiryGate.Proofs.Run.ExitCode

namespace ExpiryGate

/-- A path on the command line wins over the environment and has to exist. No default takes its
    place. -/
theorem Location.resolve_explicit (files : Files) (start path : String)
    (environment : Option String) :
    resolve files start (some path) environment =
      if files.present path then .ok ⟨path, .explicit⟩ else .error (.notFound path) :=
  rfl

/-- A place that the command line decided on exists. The two other sources make no such promise. -/
theorem Location.present_of_resolve {files : Files} {start : String}
    {explicit environment : Option String} {location : Location}
    (hresolve : resolve files start explicit environment = .ok location)
    (hsource : location.source = .explicit) : files.present location.path = true := by
  cases explicit with
  | some path =>
    rw [resolve_explicit] at hresolve
    split at hresolve
    · cases hresolve
      assumption
    · cases hresolve
  | none =>
    simp only [resolve] at hresolve
    split at hresolve <;> cases hresolve <;> cases hsource

/-- Settings come from a day and a place that were worked out apart from each other. -/
theorem Settings.discover_eq_ok_iff {files : Files} {start : String} {environment : Option String}
    {clock : Date} {options : Options} {settings : Settings} :
    discover files start environment clock options = .ok settings ↔
      todayOf options clock = .ok settings.today ∧
        Location.resolve files start options.baseline environment = .ok settings.location ∧
        settings.json = options.json ∧ settings.verbose = options.verbose := by
  cases settings
  cases htoday : todayOf options clock <;>
    cases hresolve : Location.resolve files start options.baseline environment <;>
    simp [discover, htoday, hresolve, bind, Except.bind, pure, Except.pure, eq_comm, and_left_comm]

/-- What exists is judged or refused. -/
theorem Gate.check_of_present {files : Files} {path : String} (today : Date)
    (hpresent : files.present path = true) :
    (∃ v, check files path today = .ok v ∧ v.baselineFound = true) ∨
      ∃ fault, check files path today = .error fault ∧ files.Refuses path fault := by
  rcases check_cases files path today with ⟨habsent, _⟩ | ⟨fault, hrefuses, hfault⟩ | ⟨b, _, hok⟩
  · simp [habsent] at hpresent
  · exact .inr ⟨fault, hfault, hrefuses⟩
  · exact .inl ⟨_, hok, rfl⟩

/-- A verdict without a baseline is that on a missing one. -/
theorem Gate.eq_absent_of_check {files : Files} {path : String} {today : Date} {v : Verdict}
    (hcheck : check files path today = .ok v) (hfound : v.baselineFound = false) :
    files.present path = false ∧ v = .absent path today := by
  rcases check_cases files path today with ⟨habsent, hok⟩ | ⟨fault, _, hfault⟩ | ⟨b, _, hjudged⟩
  · rw [hok] at hcheck
    cases hcheck
    exact ⟨habsent, rfl⟩
  · rw [hfault] at hcheck
    cases hcheck
  · rw [hjudged] at hcheck
    cases hcheck
    cases hfound

namespace Options

variable (options : Options) (files : Files) (start : String) (environment : Option String)
  (clock : Date)

/-- The options with a baseline that is asked for by its path. -/
def asking (options : Options) (path : String) : Options :=
  { options with baseline := some path }

/-- Settings for a path that was asked for have just this path, and something is there. -/
theorem location_of_discover_asking {path : String} {settings : Settings}
    (hdiscover : Settings.discover files start environment clock (options.asking path) =
      .ok settings) :
    settings.location = ⟨path, .explicit⟩ ∧ files.present path = true := by
  obtain ⟨_, hresolve, _⟩ := Settings.discover_eq_ok_iff.1 hdiscover
  rw [asking, Location.resolve_explicit] at hresolve
  split at hresolve
  · rename_i hpresent
    exact ⟨(Except.ok.inj hresolve).symm, hpresent⟩
  · cases hresolve

/-- Asking for a path, discovery can fail for no other reason than that nothing is there, once the
    day is known. -/
theorem discover_asking (path : String) (hday : ¬ options.NamesNoDay) :
    Settings.discover files start environment clock (options.asking path) =
      if files.present path then
        .ok ⟨⟨path, .explicit⟩, options.day clock, options.json, options.verbose⟩
      else .error (.notFound path) := by
  have htoday : Settings.todayOf (options.asking path) clock = .ok (options.day clock) :=
    Settings.todayOf_of_namesDay options clock hday
  rw [Settings.discover, htoday, asking, Location.resolve_explicit]
  cases files.present path <;> rfl

/-- A run with a baseline that was asked for works with its path alone. It finds the baseline or
    refuses it, and if nothing is there it names the path, unless the day is at fault already. So
    a verdict without a baseline comes from the environment or the default path only, and it is
    one with nothing to enforce. -/
theorem explicit_baseline_never_absent (path : String) :
    (∀ settings, Settings.discover files start environment clock (options.asking path) =
        .ok settings →
      settings.location = ⟨path, .explicit⟩ ∧
        ∀ today, (∃ v, Gate.check files settings.location.path today = .ok v ∧
            v.baselineFound = true) ∨
          ∃ fault, Gate.check files settings.location.path today = .error fault ∧
            ((∃ error, fault = .readFailed path error) ∨ ∃ cause, fault = .parseFailed path cause)) ∧
      (¬ options.NamesNoDay →
        Settings.discover files start environment clock (options.asking path) =
          if files.present path then
            .ok ⟨⟨path, .explicit⟩, options.day clock, options.json, options.verbose⟩
          else .error (.notFound path)) ∧
      (files.present path = false → ∀ sink,
        ((options.asking path).run files start environment clock sink).ending.exitCode =
          .configError) ∧
      ∀ settings today v,
        Settings.discover files start environment clock options = .ok settings →
        Gate.check files settings.location.path today = .ok v → v.baselineFound = false →
        (settings.location.source = .environment ∨ settings.location.source = .default) ∧
          v.passed = true ∧ v.total = 0 ∧ v.active = [] ∧ v.failing = [] := by
  refine ⟨?_, options.discover_asking files start environment clock path, ?_, ?_⟩
  · intro settings hdiscover
    obtain ⟨hlocation, hpresent⟩ :=
      options.location_of_discover_asking files start environment clock hdiscover
    refine ⟨hlocation, fun today => ?_⟩
    rw [hlocation]
    rcases Gate.check_of_present today hpresent with hfound | ⟨fault, hfault, hrefuses⟩
    · exact .inl hfound
    · right
      refine ⟨fault, hfault, ?_⟩
      cases hrefuses with
      | unread => exact .inl ⟨_, rfl⟩
      | unparsed => exact .inr ⟨_, rfl⟩
  · intro habsent sink
    exact exitCode_run_of_misconfigured (.inr (.inl ⟨path, rfl, habsent⟩))
  · intro settings today v hdiscover hcheck hfound
    obtain ⟨_, hresolve, _⟩ := Settings.discover_eq_ok_iff.1 hdiscover
    obtain ⟨habsent, rfl⟩ := Gate.eq_absent_of_check hcheck hfound
    refine ⟨?_, rfl, rfl, rfl, rfl⟩
    cases hsource : settings.location.source with
    | environment => exact .inl rfl
    | default => exact .inr rfl
    | explicit =>
      have hpresent := Location.present_of_resolve hresolve hsource
      simp [habsent] at hpresent

end Options

end ExpiryGate
