import ExpiryGate.Proofs.Gate.Load
import ExpiryGate.Run.Transcript

namespace ExpiryGate

namespace Options

/-- A day was asked for by a text that is no date. -/
def NamesNoDay (options : Options) : Prop :=
  ∃ text, options.today = some text ∧ Date.ofExpiry? text = none

/-- The baseline that was asked for does not exist. -/
def BaselineMissing (options : Options) (files : Files) : Prop :=
  ∃ path, options.baseline = some path ∧ files.present path = false

/-- The day that was asked for, or else the day of the clock. -/
def day (options : Options) (clock : Date) : Date :=
  (options.today.bind Date.ofExpiry?).getD clock

/-- The path that was asked for, or else a path of the environment that is not empty, or else the
    default path. -/
def path (options : Options) (files : Files) (start : String) (environment : Option String) :
    String :=
  match options.baseline, environment with
  | some path, _ => path
  | none, some path => if path = "" then Location.defaultFrom files start else path
  | none, none => Location.defaultFrom files start

end Options

namespace Settings

variable (options : Options) (files : Files) (start : String) (environment : Option String)
  (clock : Date)

theorem todayOf_of_namesDay (hday : ¬ options.NamesNoDay) :
    todayOf options clock = .ok (options.day clock) := by
  unfold todayOf Options.day
  cases htoday : options.today with
  | none => rfl
  | some text =>
    cases hread : Date.ofExpiry? text with
    | none => exact absurd ⟨text, htoday, hread⟩ hday
    | some date => simp [hread]

/-- A text for the day that is no date is the fault, and the fault repeats it. -/
theorem discover_of_namesNoDay (hday : options.NamesNoDay) :
    ∃ text, options.today = some text ∧
      discover files start environment clock options = .error (.invalidValue "today" text) := by
  obtain ⟨text, htoday, hread⟩ := hday
  refine ⟨text, htoday, ?_⟩
  simp [discover, todayOf, htoday, hread, bind, Except.bind]

/-- A path that was asked for and does not exist is the fault, and the fault names it. -/
theorem discover_of_baselineMissing (hday : ¬ options.NamesNoDay)
    (hmissing : options.BaselineMissing files) :
    ∃ path, options.baseline = some path ∧
      discover files start environment clock options = .error (.notFound path) := by
  obtain ⟨path, hbaseline, habsent⟩ := hmissing
  refine ⟨path, hbaseline, ?_⟩
  simp [discover, todayOf_of_namesDay options clock hday, Location.resolve, hbaseline, habsent,
    bind, Except.bind]

/-- Apart from these two faults the settings hold the day and the path. -/
theorem discover_eq_ok (hday : ¬ options.NamesNoDay)
    (hmissing : ¬ options.BaselineMissing files) :
    ∃ source, discover files start environment clock options =
      .ok ⟨⟨options.path files start environment, source⟩, options.day clock, options.json,
        options.verbose⟩ := by
  have hresolve : ∃ source, Location.resolve files start options.baseline environment =
      .ok ⟨options.path files start environment, source⟩ := by
    unfold Location.resolve Options.path
    cases hbaseline : options.baseline with
    | some path =>
      cases hpresent : files.present path with
      | true => exact ⟨.explicit, by simp [hpresent]⟩
      | false => exact absurd ⟨path, hbaseline, hpresent⟩ hmissing
    | none =>
      cases environment with
      | none => exact ⟨.default, rfl⟩
      | some path =>
        by_cases hempty : path = ""
        · exact ⟨.default, by simp [hempty, Option.filter]⟩
        · exact ⟨.environment, by simp [hempty, Option.filter]⟩
  obtain ⟨source, hsource⟩ := hresolve
  refine ⟨source, ?_⟩
  simp [discover, todayOf_of_namesDay options clock hday, hsource, bind, Except.bind, pure,
    Except.pure]

end Settings

/-- In a current directory the program writes what the run writes and ends as the run ends; the log
    is kept apart from both. -/
theorem Surroundings.run_eq (s : Surroundings) (options : Options) {start : String}
    (hdirectory : s.directory = .ok start) :
    (s.run options).written =
        (options.run s.files start s.baseline s.clock s.sink).written ∧
      (s.run options).conclusion =
        .ran (options.run s.files start s.baseline s.clock s.sink).ending := by
  cases hdiscover : Settings.discover s.files start s.baseline s.clock options <;>
    simp [Surroundings.run, Options.run, Settings.discoverHere, hdirectory, hdiscover,
      Outcome.refused]

end ExpiryGate
