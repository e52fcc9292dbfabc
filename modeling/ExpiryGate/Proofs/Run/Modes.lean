import ExpiryGate.Proofs.Run.ExitCode

namespace ExpiryGate

/-- The same request for another form of report, with another amount of logging. -/
def Options.presenting (options : Options) (json verbose : Bool) : Options :=
  { options with json := json, verbose := verbose }

/-- The same surroundings with another log filter and another output. -/
def Surroundings.through (s : Surroundings) (logFilter : Option String) (sink : Sink) :
    Surroundings :=
  { s with logFilter := logFilter, sink := sink }

/-- The form of the report passes through the discovery of the settings. -/
theorem Settings.discoverHere_presenting (files : Files)
    (directory : Except SystemError String) (environment : Option String) (clock : Date)
    (options : Options) (json verbose : Bool) :
    discoverHere files directory environment clock (options.presenting json verbose) =
      (discoverHere files directory environment clock options).map
        fun settings => { settings with json := json, verbose := verbose } := by
  cases directory with
  | error e => rfl
  | ok start =>
    have htoday : todayOf (options.presenting json verbose) clock = todayOf options clock := rfl
    simp only [discoverHere, discover, htoday]
    cases todayOf options clock with
    | error fault => rfl
    | ok today =>
      cases hresolve : Location.resolve files start options.baseline environment <;>
        simp [Options.presenting, hresolve, bind, Except.bind, pure, Except.pure, Except.map]

/-- No verdict has the exit code of a fault. -/
theorem Verdict.exitCode_value_ne_two (v : Verdict) : v.exitCode.value ≠ 2 := by
  unfold exitCode
  split <;> decide

namespace Surroundings

/-- What comes before the output is the same for all forms of report: a fault, or a verdict that
    is then written in one form or the other. -/
theorem run_presenting_cases (s : Surroundings) (options : Options) :
    (∃ fault, ∀ json verbose logFilter sink,
      ((s.through logFilter sink).run (options.presenting json verbose)).written = "" ∧
        ((s.through logFilter sink).run (options.presenting json verbose)).conclusion =
          .ran (.refused fault)) ∨
      ∃ v : Verdict, ∀ json verbose logFilter sink,
        ((s.through logFilter sink).run (options.presenting json verbose)).written =
            (v.writeTo json sink).written ∧
          ((s.through logFilter sink).run (options.presenting json verbose)).conclusion =
            .ran (v.writeTo json sink).ending := by
  cases hdiscover : Settings.discoverHere s.files s.directory s.baseline s.clock options with
  | error fault =>
    refine .inl ⟨fault, fun json verbose logFilter sink => ?_⟩
    simp [run, through, Settings.discoverHere_presenting, hdiscover, Except.map]
  | ok settings =>
    cases hcheck : Gate.check s.files settings.location.path settings.today with
    | error fault =>
      refine .inl ⟨fault, fun json verbose logFilter sink => ?_⟩
      simp [run, through, Settings.discoverHere_presenting, hdiscover, Except.map,
        Settings.check, hcheck, Outcome.refused]
    | ok v =>
      refine .inr ⟨v, fun json verbose logFilter sink => ?_⟩
      simp [run, through, Settings.discoverHere_presenting, hdiscover, Except.map,
        Settings.check, hcheck]

/-- Runs that differ only in the form of the report and in what they log end alike. Either all of
    them write nothing and report one fault, with exit code 2, or there is one verdict: each writes
    it in the form that was asked for and ends with its exit code, and where the output fails, each
    ends with exit code 3 whatever the verdict. -/
theorem run_forms_agree (s : Surroundings) (options : Options) :
    (∃ fault : Fault, ∀ json verbose logFilter sink,
      let seen := (s.through logFilter sink).run (options.presenting json verbose)
      seen.written = "" ∧ seen.conclusion = .ran (.refused fault) ∧
        seen.conclusion.exitCode.value = 2) ∨
      ∃ v : Verdict, v.exitCode.value ≠ 2 ∧ ∀ json verbose logFilter sink,
        let seen := (s.through logFilter sink).run (options.presenting json verbose)
        (sink = .works →
          seen.written = (if json then v.jsonReport ++ "\n" else v.report) ∧
            seen.conclusion = .ran (.judged v) ∧ seen.conclusion.exitCode = v.exitCode) ∧
          (sink.Breaks →
            (∃ task error, seen.conclusion = .ran (.unwritten task error)) ∧
              seen.conclusion.exitCode.value = 3) := by
  rcases s.run_presenting_cases options with ⟨fault, hrun⟩ | ⟨v, hrun⟩
  · refine .inl ⟨fault, fun json verbose logFilter sink => ?_⟩
    obtain ⟨hwritten, hconclusion⟩ := hrun json verbose logFilter sink
    refine ⟨hwritten, hconclusion, ?_⟩
    rw [hconclusion]
    rfl
  · refine .inr ⟨v, v.exitCode_value_ne_two, fun json verbose logFilter sink => ?_⟩
    obtain ⟨hwritten, hconclusion⟩ := hrun json verbose logFilter sink
    simp only [hwritten, hconclusion]
    constructor
    · rintro rfl
      exact ⟨rfl, rfl, rfl⟩
    · rintro ⟨error, rfl | rfl⟩
      · exact ⟨⟨_, _, rfl⟩, rfl⟩
      · exact ⟨⟨_, _, rfl⟩, rfl⟩

end Surroundings

end ExpiryGate
