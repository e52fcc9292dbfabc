import ExpiryGate.Proofs.Report.Listing
import ExpiryGate.Proofs.Verdict.Partition

namespace ExpiryGate

open Text (IsLine)

/-- No field of the waiver holds a line feed. -/
structure Waiver.SingleLine (w : Waiver) : Prop where
  id : IsLine w.id
  expires : ∀ text ∈ w.expires, IsLine text
  reason : IsLine w.reason

instance (w : Waiver) : Decidable w.SingleLine :=
  decidable_of_iff (IsLine w.id ∧ (∀ text ∈ w.expires, IsLine text) ∧ IsLine w.reason)
    ⟨fun h => ⟨h.1, h.2.1, h.2.2⟩, fun h => ⟨h.id, h.expires, h.reason⟩⟩

/-- No field of a waiver holds a line feed. -/
def Baseline.SingleLine (b : Baseline) : Prop :=
  ∀ w ∈ b.waivers, w.SingleLine

instance (b : Baseline) : Decidable b.SingleLine :=
  inferInstanceAs (Decidable (∀ w ∈ b.waivers, w.SingleLine))

theorem Decimal.isLine_text (count : Nat) : IsLine (Decimal.text count) := by
  unfold IsLine Decimal.text Decimal.digits
  rw [String.toList_ofList]
  intro hmem
  exact absurd (Nat.isDigit_of_mem_toDigits (by decide) (by decide) hmem) (by decide)

/-- The message only copies the expiry and the reason into fixed texts. -/
theorem Entry.isLine_messageFor {expires reason : String} (hexpires : IsLine expires)
    (hreason : IsLine reason) (s : Standing) : IsLine (messageFor expires reason s) := by
  have hdash : IsLine " — " := by decide
  cases s with
  | missingExpiry =>
    change IsLine "missing expiry date"
    decide
  | invalidDate =>
    have hopening : IsLine "invalid date format '" := by decide
    exact (hopening.append hexpires).append (by decide)
  | expired date =>
    have hopening : IsLine "expired " := by decide
    exact ((hopening.append hexpires).append hdash).append hreason
  | active date =>
    have hopening : IsLine "expires " := by decide
    exact ((hopening.append hexpires).append hdash).append hreason

/-- The line for a waiver is one line if no field of it holds a line feed. -/
theorem Waiver.SingleLine.isLine_line {w : Waiver} (hw : w.SingleLine) (today : Date) :
    IsLine (Entry.ofWaiver w today).line := by
  have hexpires : IsLine (w.expires.getD "") := by
    cases h : w.expires with
    | none => exact (by decide : IsLine "")
    | some text => exact hw.expires text h
  have hindent : IsLine "  " := by decide
  have hcolon : IsLine ": " := by decide
  exact ((hindent.append hw.id).append hcolon).append
    (Entry.isLine_messageFor hexpires hw.reason (w.standing today))

namespace Verdict

/-- The entry lines of a verdict. -/
def listing (v : Verdict) : Report.Listing :=
  ⟨v.active.map Entry.line, v.failing.map Entry.line⟩

theorem isLine_activeHeader (count : Nat) : IsLine (activeHeader count) := by
  have hopening : IsLine "Active exceptions (" := by decide
  exact (hopening.append (Decimal.isLine_text count)).append (by decide)

theorem isLine_failingHeader (count : Nat) : IsLine (failingHeader count) := by
  have hopening : IsLine "EXPIRED exceptions (" := by decide
  exact (hopening.append (Decimal.isLine_text count)).append (by decide)

end Verdict

/-- A report whose entry lines are lines of the text consists of such lines. -/
theorem Report.Shows.isLine {lines : List String} {listing : Listing} (hshows : Shows lines listing)
    (hactive : ∀ line ∈ listing.active, IsLine line)
    (hfailing : ∀ line ∈ listing.failing, IsLine line) : ∀ line ∈ lines, IsLine line := by
  have hblank : IsLine "" := by decide
  have hclean : IsLine Verdict.cleanLine := by decide
  have hclosing : IsLine Verdict.closingLine := by decide
  cases hshows with
  | clean => simp [hclean]
  | active =>
    simp only [List.mem_cons, List.mem_append, List.not_mem_nil, or_false]
    rintro line (rfl | hline | rfl)
    · exact Verdict.isLine_activeHeader _
    · exact hactive line hline
    · exact hclosing
  | failing =>
    simp only [failingGroup, List.mem_cons]
    rintro line (rfl | rfl | hline)
    · exact hblank
    · exact Verdict.isLine_failingHeader _
    · exact hfailing line hline
  | both =>
    simp only [failingGroup, List.mem_cons, List.mem_append]
    rintro line (rfl | hline | rfl | rfl | hline)
    · exact Verdict.isLine_activeHeader _
    · exact hactive line hline
    · exact hblank
    · exact Verdict.isLine_failingHeader _
    · exact hfailing line hline

theorem Report.areEntries_map_line {entries : List Entry} (hne : entries ≠ []) :
    AreEntries (entries.map Entry.line) := by
  refine ⟨by simpa using hne, fun line hline => ?_⟩
  obtain ⟨e, _, rfl⟩ := List.mem_map.1 hline
  exact isEntryLine_line e

namespace Baseline

/-- The total of a verdict is zero iff it lists nothing. -/
theorem total_judge_eq_zero_iff (b : Baseline) (today : Date) (path : String) :
    (b.judge today path).total = 0 ↔
      (b.judge today path).active = [] ∧ (b.judge today path).failing = [] := by
  have hlength := b.length_activeOn_add_length_failingOn today
  simp only [judge, ← List.length_eq_zero_iff]
  omega

/-- The lines of every report show its entries, even where an entry imitates another line. -/
theorem shows_reportLines (b : Baseline) (today : Date) (path : String) :
    Report.Shows (b.judge today path).reportLines (b.judge today path).listing := by
  have htotal := b.total_judge_eq_zero_iff today path
  have hfound : (b.judge today path).baselineFound = true := rfl
  generalize b.judge today path = v at htotal hfound
  unfold Verdict.reportLines Verdict.activeLines Verdict.closingLines Verdict.listing
  by_cases hactive : v.active = [] <;> by_cases hfailing : v.failing = []
  · simp only [hfound, htotal, hactive, hfailing]
    exact .clean
  · have hshows := Report.Shows.failing (Report.areEntries_map_line hfailing)
    simpa [hfound, htotal, hactive, hfailing, Report.failingGroup] using hshows
  · have hshows := Report.Shows.active (Report.areEntries_map_line hactive)
    simpa [hfound, htotal, hactive, hfailing] using hshows
  · have hshows := Report.Shows.both (Report.areEntries_map_line hactive)
      (Report.areEntries_map_line hfailing)
    simpa [hfound, htotal, hactive, hfailing, Report.failingGroup] using hshows

/-- The text of a report falls apart into its lines, if no field of the baseline holds a line feed.
    -/
theorem lines?_report {b : Baseline} (hb : b.SingleLine) (today : Date) (path : String) :
    Text.lines? (b.judge today path).report = some (b.judge today path).reportLines := by
  apply Text.lines?_unlines
  apply (b.shows_reportLines today path).isLine
  · intro line hline
    obtain ⟨e, he, rfl⟩ := List.mem_map.1 hline
    obtain ⟨w, hw, _, rfl⟩ := mem_activeOn_iff.1 he
    exact (hb w hw).isLine_line today
  · intro line hline
    obtain ⟨e, he, rfl⟩ := List.mem_map.1 hline
    obtain ⟨w, hw, _, rfl⟩ := mem_failingOn_iff.1 he
    exact (hb w hw).isLine_line today

/-- From the text of a report without line feeds in its fields the reader gets back both groups of
    entries. -/
theorem read?_report {b : Baseline} (hb : b.SingleLine) (today : Date) (path : String) :
    Report.read? (b.judge today path).report = some (b.judge today path).listing := by
  rw [Report.read?, lines?_report hb today path, Option.bind_some, Report.readLines?_eq_some_iff]
  exact b.shows_reportLines today path

/-- If no field holds a line feed, the lines of a report show exactly one listing, which is the
    list of the active and of the failing entries, and the reader finds it. So another baseline of
    this kind has the same report only if its entry lines, their numbers and the exit code are the
    same. -/
theorem report_determines_entries (b : Baseline) (hb : b.SingleLine) (today : Date)
    (path : String) :
    let v := b.judge today path
    (∃ lines, Text.lines? v.report = some lines ∧
        ∀ listing, Report.Shows lines listing ↔
          listing = ⟨v.active.map Entry.line, v.failing.map Entry.line⟩) ∧
      Report.read? v.report = some ⟨v.active.map Entry.line, v.failing.map Entry.line⟩ ∧
      ∀ (c : Baseline) (day : Date) (place : String), c.SingleLine →
        (c.judge day place).report = v.report →
          (c.judge day place).active.map Entry.line = v.active.map Entry.line ∧
          (c.judge day place).failing.map Entry.line = v.failing.map Entry.line ∧
          (c.judge day place).active.length = v.active.length ∧
          (c.judge day place).failing.length = v.failing.length ∧
          (c.judge day place).total = v.total ∧
          (c.judge day place).exitCode = v.exitCode := by
  intro v
  refine ⟨⟨v.reportLines, lines?_report hb today path, fun listing => ?_⟩,
    read?_report hb today path, ?_⟩
  · constructor
    · intro hshows
      have hread := Report.readLines?_of_shows (b.shows_reportLines today path)
      rw [Report.readLines?_of_shows hshows] at hread
      exact Option.some.inj hread
    · rintro rfl
      exact b.shows_reportLines today path
  · intro c day place hc hreport
    have hlisting : (c.judge day place).listing = v.listing := by
      have hread := read?_report hc day place
      rw [hreport, read?_report hb today path] at hread
      exact (Option.some.inj hread).symm
    obtain ⟨hactive, hfailing⟩ := Report.Listing.mk.inj hlisting
    have hactiveLength : (c.judge day place).active.length = v.active.length := by
      simpa using congrArg List.length hactive
    have hfailingLength : (c.judge day place).failing.length = v.failing.length := by
      simpa using congrArg List.length hfailing
    refine ⟨hactive, hfailing, hactiveLength, hfailingLength, ?_, ?_⟩
    · have hcTotal := c.length_activeOn_add_length_failingOn day
      have hbTotal := b.length_activeOn_add_length_failingOn today
      simp only [v, judge] at hactiveLength hfailingLength ⊢
      omega
    · have hnil : c.failingOn day = [] ↔ b.failingOn today = [] := by
        simp only [← List.length_eq_zero_iff]
        simp only [v, judge] at hfailingLength
        omega
      simp only [v, exitCode_judge, hnil]

/-- Identifiers that look like other lines of a report do no harm, and neither does a reason that
    the report does not show. -/
theorem report_determines_entries_example :
    let day : Date := ⟨2026, 10, 19, by decide⟩
    let b : Baseline := ⟨[⟨"All advisory exceptions are within their expiry window",
      some "2099-01-01", "vendor patch pending"⟩, ⟨"Active exceptions (1):", none, "first"⟩]⟩
    let c : Baseline := ⟨[⟨"Active exceptions (1):", some "", "second"⟩,
      ⟨"All advisory exceptions are within their expiry window", some "2099-01-01",
        "vendor patch pending"⟩]⟩
    b.SingleLine ∧ c.SingleLine ∧
      Report.read? (b.judge day "b.toml").report =
        some ⟨(b.judge day "b.toml").active.map Entry.line,
          (b.judge day "b.toml").failing.map Entry.line⟩ ∧
      (c.judge day "c.toml").failing.map Entry.line =
        (b.judge day "b.toml").failing.map Entry.line := by
  intro day b c
  have hb : b.SingleLine := by decide
  have hc : c.SingleLine := by decide
  obtain ⟨_, hread, hequal⟩ := report_determines_entries b hb day "b.toml"
  have hreport : (c.judge day "c.toml").report = (b.judge day "b.toml").report := by decide +kernel
  exact ⟨hb, hc, hread, (hequal c day "c.toml" hc hreport).2.1⟩

end Baseline

end ExpiryGate
