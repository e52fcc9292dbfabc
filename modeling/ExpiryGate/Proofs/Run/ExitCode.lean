import ExpiryGate.Proofs.Run.Outcome

namespace ExpiryGate

/-- The output does not take a report, or cannot pass it on. -/
def Sink.Breaks (sink : Sink) : Prop :=
  ∃ error, sink = .writeFails error ∨ sink = .flushFails error

theorem Sink.works_or_breaks (sink : Sink) : sink = .works ∨ sink.Breaks := by
  cases sink with
  | works => exact .inl rfl
  | writeFails error => exact .inr ⟨error, .inl rfl⟩
  | flushFails error => exact .inr ⟨error, .inr rfl⟩

theorem Sink.not_breaks_works : ¬ Sink.works.Breaks := by
  rintro ⟨error, h | h⟩ <;> cases h

/-- A report that cannot be written ends in an internal fault, whatever the verdict is. -/
theorem Verdict.exitCode_writeTo_of_breaks (v : Verdict) (json : Bool) {sink : Sink}
    (hbreaks : sink.Breaks) : (v.writeTo json sink).ending.exitCode = .internal := by
  obtain ⟨error, rfl | rfl⟩ := hbreaks <;> rfl

namespace Options

variable (options : Options) (files : Files) (start : String) (environment : Option String)
  (clock : Date) (sink : Sink)

/-- The day that was asked for is none, the baseline that was asked for does not exist, or what is
    at the path of the baseline is refused. -/
def Misconfigured : Prop :=
  options.NamesNoDay ∨ options.BaselineMissing files ∨
    ∃ fault, files.Refuses (options.path files start environment) fault

/-- The file at the path of the baseline holds one with a waiver that fails on the day. -/
def Violated : Prop :=
  ∃ b, files.Holds (options.path files start environment) b ∧
    ∃ w ∈ b.waivers, w.Fails (options.day clock)

variable {options files start environment clock sink}

/-- A fault of the setup decides the exit code before the output has a chance to fail. -/
theorem exitCode_run_of_misconfigured (hsetup : options.Misconfigured files start environment) :
    (options.run files start environment clock sink).ending.exitCode = .configError := by
  unfold run
  by_cases hday : options.NamesNoDay
  · obtain ⟨text, _, hdiscover⟩ :=
      Settings.discover_of_namesNoDay options files start environment clock hday
    rw [hdiscover]
    rfl
  by_cases hmissing : options.BaselineMissing files
  · obtain ⟨path, _, hdiscover⟩ :=
      Settings.discover_of_baselineMissing options files start environment clock hday hmissing
    rw [hdiscover]
    rfl
  obtain ⟨source, hdiscover⟩ :=
    Settings.discover_eq_ok options files start environment clock hday hmissing
  rcases hsetup with hno | hno | ⟨fault, hrefuses⟩
  · exact absurd hno hday
  · exact absurd hno hmissing
  · rw [hdiscover]
    simp only [Settings.check]
    rw [Gate.check_of_refuses _ hrefuses]
    rfl

/-- A run that is set up reaches a verdict and writes it. The verdict passes unless the baseline
    is there and one of its waivers fails. -/
theorem run_eq_writeTo (clock : Date) (sink : Sink)
    (hsetup : ¬ options.Misconfigured files start environment) :
    ∃ v : Verdict, options.run files start environment clock sink = v.writeTo options.json sink ∧
      (options.Violated files start environment clock → v.exitCode = .policyViolation) ∧
      (¬ options.Violated files start environment clock → v.exitCode = .success) := by
  obtain ⟨hday, hmissing, hrefuses⟩ : ¬ options.NamesNoDay ∧ ¬ options.BaselineMissing files ∧
      ¬ ∃ fault, files.Refuses (options.path files start environment) fault := by
    simpa only [Misconfigured, not_or] using hsetup
  obtain ⟨source, hdiscover⟩ :=
    Settings.discover_eq_ok options files start environment clock hday hmissing
  simp only [run, hdiscover, Settings.check]
  rcases files.absent_or_refuses_or_holds (options.path files start environment) with
    habsent | hno | ⟨b, hholds⟩
  · rw [Gate.check_of_absent _ habsent]
    refine ⟨_, rfl, ?_, fun _ => rfl⟩
    rintro ⟨b, hholds, _⟩
    have hpresent := hholds.present
    simp [habsent] at hpresent
  · exact absurd hno hrefuses
  · rw [Gate.check_of_holds _ hholds]
    refine ⟨_, rfl, ?_, ?_⟩
    · rintro ⟨c, hc, w, hw, hfails⟩
      cases hc.unique hholds
      rw [Baseline.exitCode_judge_eq_policyViolation_iff, Ne, Baseline.failingOn_eq_nil_iff]
      intro hall
      exact Waiver.fails_iff_not_holdsOn.1 hfails (hall w hw)
    · intro hnone
      rw [Baseline.exitCode_judge_eq_success_iff, Baseline.failingOn_eq_nil_iff]
      intro w hw
      by_cases hw' : w.HoldsOn (options.day clock)
      · exact hw'
      · exact absurd ⟨b, hholds, w, hw, Waiver.fails_iff_not_holdsOn.2 hw'⟩ hnone

/-- The four ways in which a run ends, in the order in which they take precedence. -/
theorem exitCode_run_cases (options : Options) (files : Files) (start : String)
    (environment : Option String) (clock : Date) (sink : Sink) :
    let code := (options.run files start environment clock sink).ending.exitCode
    options.Misconfigured files start environment ∧ code = .configError ∨
      ¬ options.Misconfigured files start environment ∧ sink.Breaks ∧ code = .internal ∨
      ¬ options.Misconfigured files start environment ∧ ¬ sink.Breaks ∧
        options.Violated files start environment clock ∧ code = .policyViolation ∨
      ¬ options.Misconfigured files start environment ∧ ¬ sink.Breaks ∧
        ¬ options.Violated files start environment clock ∧ code = .success := by
  intro code
  by_cases hsetup : options.Misconfigured files start environment
  · exact .inl ⟨hsetup, exitCode_run_of_misconfigured hsetup⟩
  right
  obtain ⟨v, hrun, hviolated, hclean⟩ := run_eq_writeTo clock sink hsetup
  rcases sink.works_or_breaks with rfl | hbreaks
  · right
    have hcode : code = v.exitCode := by
      simp only [code, hrun]
      rfl
    rw [hcode]
    by_cases hv : options.Violated files start environment clock
    · exact .inl ⟨hsetup, Sink.not_breaks_works, hv, hviolated hv⟩
    · exact .inr ⟨hsetup, Sink.not_breaks_works, hv, hclean hv⟩
  · left
    refine ⟨hsetup, hbreaks, ?_⟩
    simp only [code, hrun]
    exact v.exitCode_writeTo_of_breaks options.json hbreaks

/-- The exit code of a run is 2 iff its setup is at fault, else 3 iff the output fails, else 1 iff
    the baseline has a waiver that fails, and else 0. So no run ends with 0 on a baseline with a
    waiver whose expiry is not a date on or after the day. The program passes this code on,
    whatever its log shows. -/
theorem exitCode_run (options : Options) (files : Files) (start : String)
    (environment : Option String) (clock : Date) (sink : Sink) :
    let code := (options.run files start environment clock sink).ending.exitCode.value
    (code = 2 ↔ options.Misconfigured files start environment) ∧
      (code = 3 ↔ ¬ options.Misconfigured files start environment ∧ sink.Breaks) ∧
      (code = 1 ↔ ¬ options.Misconfigured files start environment ∧ ¬ sink.Breaks ∧
        options.Violated files start environment clock) ∧
      (code = 0 ↔ ¬ options.Misconfigured files start environment ∧ ¬ sink.Breaks ∧
        ¬ options.Violated files start environment clock) ∧
      ¬ (code = 0 ∧ ∃ b, files.Holds (options.path files start environment) b ∧
        ∃ w ∈ b.waivers, ¬ w.HoldsOn (options.day clock)) ∧
      ∀ logFilter, ((Surroundings.mk files (.ok start) environment logFilter clock sink).run
        options).conclusion.exitCode.value = code := by
  intro code
  have hprogram : ∀ logFilter, ((Surroundings.mk files (.ok start) environment logFilter clock
      sink).run options).conclusion.exitCode.value = code := by
    intro logFilter
    rw [(Surroundings.run_eq _ options rfl).2]
    rfl
  have hviolated : (∃ b, files.Holds (options.path files start environment) b ∧
      ∃ w ∈ b.waivers, ¬ w.HoldsOn (options.day clock)) ↔
        options.Violated files start environment clock := by
    simp only [Violated, Waiver.fails_iff_not_holdsOn]
  rw [hviolated]
  rcases exitCode_run_cases options files start environment clock sink with
    ⟨hsetup, hcode⟩ | ⟨hsetup, hbreaks, hcode⟩ | ⟨hsetup, hbreaks, hv, hcode⟩ |
      ⟨hsetup, hbreaks, hv, hcode⟩
  · have : code = 2 := congrArg ExitCode.value hcode
    simp [this, hsetup, hprogram]
  · have : code = 3 := congrArg ExitCode.value hcode
    simp [this, hsetup, hbreaks, hprogram]
  · have : code = 1 := congrArg ExitCode.value hcode
    simp [this, hsetup, hbreaks, hv, hprogram]
  · have : code = 0 := congrArg ExitCode.value hcode
    simp [this, hsetup, hbreaks, hv, hprogram]

end Options

end ExpiryGate
