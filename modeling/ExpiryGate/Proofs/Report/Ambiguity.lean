import ExpiryGate.Proofs.Report.ReadBack

namespace ExpiryGate

open Verdict (activeHeader failingHeader closingLine cleanLine)

/-- A verdict on a baseline with active waivers whose last failing waiver has expired and has a
    reason that ends with the closing line of passing reports, on a line of its own. -/
def Verdict.EndsAsPassing (v : Verdict) : Prop :=
  v.active ≠ [] ∧ ∃ e, v.failing.getLast? = some e ∧ e.status = .expired ∧
    ∃ opening, e.reason = opening ++ "\n" ++ closingLine

/-- What stands before the reason in the line for a waiver. -/
def Waiver.lead (w : Waiver) (verb : String) : String :=
  "  " ++ w.id ++ ": " ++ verb ++ w.expires.getD "" ++ " — "

/-- The line for a waiver copies its fields as they are, line feeds included. -/
theorem Entry.line_ofWaiver (w : Waiver) (today : Date) :
    (ofWaiver w today).line =
      "  " ++ w.id ++ ": " ++ messageFor (w.expires.getD "") w.reason (w.standing today) :=
  rfl

theorem Entry.line_of_active {w : Waiver} {today date : Date}
    (hstanding : w.standing today = .active date) :
    (ofWaiver w today).line = w.lead "expires " ++ w.reason := by
  rw [line_ofWaiver, hstanding]
  change "  " ++ w.id ++ ": " ++ ("expires " ++ w.expires.getD "" ++ " — " ++ w.reason) = _
  simp only [Waiver.lead, String.append_assoc]

theorem Entry.line_of_expired {w : Waiver} {today date : Date}
    (hstanding : w.standing today = .expired date) :
    (ofWaiver w today).line = w.lead "expired " ++ w.reason := by
  rw [line_ofWaiver, hstanding]
  change "  " ++ w.id ++ ": " ++ ("expired " ++ w.expires.getD "" ++ " — " ++ w.reason) = _
  simp only [Waiver.lead, String.append_assoc]

/-- The waiver with another line in its reason. -/
def Waiver.extend (w : Waiver) (text : String) : Waiver :=
  { w with reason := w.reason ++ "\n" ++ text }

theorem Waiver.holdsOn_extend {w : Waiver} {text : String} {today : Date} :
    (w.extend text).HoldsOn today ↔ w.HoldsOn today :=
  Iff.rfl

/-- Further text in the reason appears on lines of its own behind the line of the entry. -/
theorem Entry.line_extend {w : Waiver} {today : Date} (hholds : w.HoldsOn today) (text : String) :
    (ofWaiver (w.extend text) today).line = (ofWaiver w today).line ++ "\n" ++ text := by
  obtain ⟨date, hstanding⟩ := Waiver.standing_of_holdsOn hholds
  have hextend : (w.extend text).standing today = .active date := hstanding
  rw [line_of_active hextend, line_of_active hstanding]
  change w.lead "expires " ++ (w.reason ++ "\n" ++ text) = _
  simp only [String.append_assoc]

/-- Behind the dash in front of a reason, a text that ends with the closing line on a line of its
    own has all of that line in the reason, because the closing line holds no dash. -/
theorem reason_endsWith_closingLine (before lead : String) {reason : String}
    (htext : before ++ "\n" ++ closingLine = lead ++ " — " ++ reason) :
    ∃ opening, reason = opening ++ "\n" ++ closingLine := by
  have hchars := congrArg String.toList htext
  simp only [String.toList_append] at hchars
  rw [List.append_assoc, List.append_eq_append_iff] at hchars
  rcases hchars with ⟨middle, hlead, hclosing⟩ | ⟨opening, _, hreason⟩
  · have hdash : " — ".toList <:+ lead.toList ++ " — ".toList := List.suffix_append _ _
    have hmiddle : middle <:+ lead.toList ++ " — ".toList := ⟨_, hlead.symm⟩
    have hsubset : ∀ c ∈ middle, c ∈ "\n".toList ++ closingLine.toList := by
      intro c hc
      rw [hclosing]
      exact List.mem_append_left _ hc
    rcases List.suffix_or_suffix_of_suffix hdash hmiddle with hinner | hinner
    · have hmem := hsubset '—' (hinner.mem (by decide))
      exact absurd hmem (by decide)
    · cases middle with
      | nil =>
        refine ⟨"", String.toList_injective ?_⟩
        simpa using hclosing.symm
      | cons c middle =>
        have hc : c = '\n' := by
          simpa using (congrArg List.head? hclosing).symm
        have hmem := hinner.mem (a := c) (by simp)
        rw [hc] at hmem
        exact absurd hmem (by decide)
  · refine ⟨String.ofList opening, String.toList_injective ?_⟩
    simp only [String.toList_append, String.toList_ofList, hreason, List.append_assoc]

theorem getLast?_toList_append {s t : String} (ht : t.toList ≠ []) :
    (s ++ t).toList.getLast? = t.toList.getLast? := by
  rw [String.toList_append, List.getLast?_append, List.getLast?_eq_some_getLast ht]
  rfl

/-- Of the lines for failing waivers only one for an expired waiver can end with the closing line on
    a line of its own, and then it has it from the reason. -/
theorem Entry.expired_of_line_endsWith_closingLine {w : Waiver} {today : Date}
    (before start : String) (hfails : w.Fails today)
    (htext : before ++ "\n" ++ closingLine = start ++ (ofWaiver w today).line) :
    (ofWaiver w today).status = .expired ∧ ∃ opening, w.reason = opening ++ "\n" ++ closingLine := by
  have hlast : (start ++ (ofWaiver w today).line).toList.getLast? =
      closingLine.toList.getLast? := by
    rw [← htext]
    exact getLast?_toList_append (by decide)
  rw [status_ofWaiver]
  rw [line_ofWaiver, ← String.append_assoc] at hlast
  have hfailure := Waiver.isFailure_standing_iff.2 hfails
  cases hstanding : w.standing today with
  | active date => simp [hstanding, Standing.isFailure] at hfailure
  | missingExpiry =>
    -- "missing expiry date" ends with another letter than the closing line
    have hmessage : (start ++ ("  " ++ w.id ++ ": ") ++ "missing expiry date").toList.getLast? =
        "missing expiry date".toList.getLast? :=
      getLast?_toList_append (by decide)
    rw [hstanding] at hlast
    exact absurd (hmessage.symm.trans hlast) (by decide)
  | invalidDate =>
    -- the message on an unreadable expiry ends with a quotation mark
    have hmessage : (start ++ ("  " ++ w.id ++ ": ") ++ ("invalid date format '" ++
        w.expires.getD "" ++ "'")).toList.getLast? = "'".toList.getLast? := by
      rw [← String.append_assoc]
      exact getLast?_toList_append (by decide)
    rw [hstanding] at hlast
    exact absurd (hmessage.symm.trans hlast) (by decide)
  | expired date =>
    refine ⟨rfl, ?_⟩
    rw [line_of_expired hstanding, Waiver.lead] at htext
    apply reason_endsWith_closingLine before
      (start ++ ("  " ++ w.id ++ ": " ++ "expired " ++ w.expires.getD ""))
    simpa only [String.append_assoc] using htext

namespace Verdict

variable {v : Verdict}

/-- A report that lists entries has two parts, the active ones and whatever closes it. -/
theorem report_of_total (hfound : v.baselineFound = true) (htotal : v.total ≠ 0) :
    v.report = Text.unlines v.activeLines ++ Text.unlines v.closingLines := by
  simp only [report, reportLines, hfound, htotal, Bool.not_true, Bool.false_eq_true, if_false,
    Text.unlines_append]

theorem unlines_closingLines_of_passing (hfailing : v.failing = []) :
    Text.unlines v.closingLines = closingLine ++ "\n" := by
  rw [closingLines, if_pos hfailing, Text.unlines_singleton]

/-- A failing report ends with the line for the last failing waiver. -/
theorem exists_unlines_closingLines {e : Entry} (hlast : v.failing.getLast? = some e) :
    ∃ start, Text.unlines v.closingLines = start ++ e.line ++ "\n" := by
  obtain ⟨init, hinit⟩ := List.getLast?_eq_some_iff.1 hlast
  have hne : v.failing ≠ [] := by simp [hinit]
  rw [closingLines, if_neg hne, hinit, List.map_append, List.map_singleton, ← List.cons_append,
    ← List.cons_append, Text.unlines_append, Text.unlines_singleton]
  exact ⟨_, (String.append_assoc ..).symm⟩

/-- The active entries end with the line of the last one. -/
theorem unlines_activeLines_of_concat {init : List Entry} {e : Entry}
    (hactive : v.active = init ++ [e]) :
    Text.unlines v.activeLines =
      Text.unlines (activeHeader (init.length + 1) :: init.map Entry.line) ++ e.line ++ "\n" := by
  have hne : v.active ≠ [] := by simp [hactive]
  rw [activeLines, if_neg hne, hactive, List.map_append, List.map_singleton, ← List.cons_append,
    Text.unlines_append, Text.unlines_singleton, List.length_append, List.length_singleton,
    String.append_assoc]

/-- The first character tells that there are active entries. -/
theorem head?_report_of_active (hfound : v.baselineFound = true) (htotal : v.total ≠ 0)
    (hactive : v.active ≠ []) : v.report.toList.head? = some 'A' := by
  rw [report_of_total hfound htotal, activeLines, if_neg hactive]
  unfold activeHeader
  simp [Text.toList_unlines]

/-- A report that starts with an empty line has failing entries only. -/
theorem head?_report_of_failing (hfound : v.baselineFound = true) (htotal : v.total ≠ 0)
    (hactive : v.active = []) (hfailing : v.failing ≠ []) :
    v.report.toList.head? = some '\n' := by
  rw [report_of_total hfound htotal, activeLines, if_pos hactive, closingLines, if_neg hfailing]
  simp [Text.toList_unlines]

theorem head?_report_of_clean (hfound : v.baselineFound = true) (htotal : v.total = 0) :
    v.report.toList.head? = some 'N' := by
  simp [report, reportLines, hfound, htotal, Text.toList_unlines, cleanLine]

end Verdict

namespace Baseline

variable {b c : Baseline} {s t : Date} {p q : String}

/-- A failing report that is also the report of a passing check ends as `EndsAsPassing` says. -/
theorem endsAsPassing_of_report_eq (hreport : (c.judge t q).report = (b.judge s p).report)
    (hpasses : c.failingOn t = []) (hfails : b.failingOn s ≠ []) :
    (b.judge s p).EndsAsPassing := by
  have hbTotal : (b.judge s p).total ≠ 0 := by
    rw [Ne, total_judge_eq_zero_iff]
    exact fun h => hfails h.2
  have hcTotal : (c.judge t q).total ≠ 0 := by
    intro hzero
    have hhead := Verdict.head?_report_of_clean (v := c.judge t q) rfl hzero
    rw [hreport] at hhead
    by_cases hactive : (b.judge s p).active = []
    · rw [Verdict.head?_report_of_failing rfl hbTotal hactive hfails] at hhead
      exact absurd hhead (by decide)
    · rw [Verdict.head?_report_of_active rfl hbTotal hactive] at hhead
      exact absurd hhead (by decide)
  have hcActive : (c.judge t q).active ≠ [] := by
    intro hnil
    exact hcTotal ((total_judge_eq_zero_iff c t q).2 ⟨hnil, hpasses⟩)
  have hbActive : (b.judge s p).active ≠ [] := by
    intro hnil
    have hhead := Verdict.head?_report_of_failing (v := b.judge s p) rfl hbTotal hnil hfails
    rw [← hreport, Verdict.head?_report_of_active rfl hcTotal hcActive] at hhead
    exact absurd hhead (by decide)
  refine ⟨hbActive, ?_⟩
  have he := List.getLast?_eq_some_getLast hfails
  generalize (b.failingOn s).getLast hfails = e at he
  refine ⟨e, he, ?_⟩
  obtain ⟨w, _, hw, rfl⟩ := mem_failingOn_iff.1 (List.mem_of_getLast? he)
  have hlines : (c.judge t q).activeLines ≠ [] := by simp [Verdict.activeLines, hcActive]
  obtain ⟨before, hbefore⟩ := Text.exists_unlines_eq hlines
  obtain ⟨start, hstart⟩ := Verdict.exists_unlines_closingLines (v := b.judge s p) he
  rw [Verdict.report_of_total rfl hcTotal, Verdict.report_of_total rfl hbTotal, hbefore,
    Verdict.unlines_closingLines_of_passing hpasses, hstart] at hreport
  apply Entry.expired_of_line_endsWith_closingLine before
    (Text.unlines (b.judge s p).activeLines ++ start) hw
  apply (String.append_left_inj "\n").1
  simpa only [String.append_assoc] using hreport

/-- What a misleading report has behind its active group ends like a passing report. -/
theorem exists_unlines_closingLines_of_endsAsPassing (hends : (b.judge s p).EndsAsPassing) :
    ∃ hidden, Text.unlines (b.judge s p).closingLines =
      hidden ++ "\n" ++ (closingLine ++ "\n") := by
  obtain ⟨_, e, he, hstatus, opening, hreason⟩ := hends
  obtain ⟨start, hstart⟩ := Verdict.exists_unlines_closingLines he
  obtain ⟨w, _, _, rfl⟩ := mem_failingOn_iff.1 (List.mem_of_getLast? he)
  obtain ⟨date, hstanding⟩ : ∃ date, w.standing s = .expired date := by
    rw [Entry.status_ofWaiver] at hstatus
    cases hstanding : w.standing s <;> simp_all [Standing.status]
  change w.reason = opening ++ "\n" ++ closingLine at hreason
  rw [hstart, Entry.line_of_expired hstanding, hreason]
  exact ⟨start ++ w.lead "expired " ++ opening, by simp only [String.append_assoc]⟩

theorem judge_of_holds (ws : List Waiver) (hholds : ∀ w ∈ ws, w.HoldsOn s) :
    (⟨ws⟩ : Baseline).activeOn s = ws.map (Entry.ofWaiver · s) ∧
      (⟨ws⟩ : Baseline).failingOn s = [] := by
  refine ⟨?_, failingOn_eq_nil_iff.2 hholds⟩
  rw [activeOn, List.filter_eq_self.2]
  intro w hw
  rw [Bool.not_eq_true', Waiver.isFailure_standing_eq_false_iff]
  exact hholds w hw

/-- Active entries end with one waiver that holds, as those before it do. -/
theorem exists_activeOn_eq_concat (hactive : b.activeOn s ≠ []) :
    ∃ init w, b.activeOn s = init.map (Entry.ofWaiver · s) ++ [.ofWaiver w s] ∧
      ∀ x ∈ init ++ [w], x.HoldsOn s := by
  have hne : (b.waivers.filter fun w => !(w.standing s).isFailure) ≠ [] := by
    intro hnil
    exact hactive (by rw [activeOn, hnil, List.map_nil])
  obtain ⟨init, w, hholding⟩ : ∃ init w,
      (b.waivers.filter fun w => !(w.standing s).isFailure) = init ++ [w] :=
    ⟨_, _, (List.dropLast_concat_getLast hne).symm⟩
  refine ⟨init, w, ?_, ?_⟩
  · rw [activeOn, hholding, List.map_append, List.map_singleton]
  · rw [← hholding]
    intro x hx
    rw [List.mem_filter, Bool.not_eq_true', Waiver.isFailure_standing_eq_false_iff] at hx
    exact hx.2

/-- A baseline of waivers that hold can show any text between its last waiver and the closing
    line. -/
theorem report_extend {init : List Waiver} {w : Waiver} (hholds : ∀ x ∈ init ++ [w], x.HoldsOn s)
    (text : String) :
    (⟨init ++ [w.extend text]⟩ : Baseline).failingOn s = [] ∧
      ((⟨init ++ [w.extend text]⟩ : Baseline).judge s p).report =
        Text.unlines (activeHeader (init.length + 1) ::
          (init.map (Entry.ofWaiver · s)).map Entry.line) ++
            (Entry.ofWaiver w s).line ++ "\n" ++ text ++ "\n" ++ (closingLine ++ "\n") := by
  have hall : ∀ x ∈ init ++ [w.extend text], x.HoldsOn s := by
    intro x hx
    rcases List.mem_append.1 hx with hinit | hlast
    · exact hholds x (List.mem_append_left _ hinit)
    · rw [List.mem_singleton.1 hlast, Waiver.holdsOn_extend]
      exact hholds w (by simp)
  obtain ⟨hactive, hfailing⟩ := judge_of_holds _ hall
  rw [List.map_append, List.map_singleton] at hactive
  have htotal : ((⟨init ++ [w.extend text]⟩ : Baseline).judge s p).total ≠ 0 := by simp [judge]
  refine ⟨hfailing, ?_⟩
  rw [Verdict.report_of_total rfl htotal, Verdict.unlines_closingLines_of_passing hfailing,
    Verdict.unlines_activeLines_of_concat hactive, Entry.line_extend (hholds w (by simp)),
    List.length_map]
  simp only [String.append_assoc]

/-- A failing report that ends as `EndsAsPassing` says is also the report of a passing check, on the
    active waivers alone: what follows the active group is hidden in the reason of the last one. -/
theorem exists_passing_of_endsAsPassing (hends : (b.judge s p).EndsAsPassing) :
    ∃ c : Baseline, c.failingOn s = [] ∧ (c.judge s p).report = (b.judge s p).report := by
  obtain ⟨hidden, hhidden⟩ := exists_unlines_closingLines_of_endsAsPassing hends
  obtain ⟨init, w, hactive, hholds⟩ := exists_activeOn_eq_concat hends.1
  obtain ⟨hfailing, hreport⟩ := report_extend (p := p) hholds hidden
  have htotal : (b.judge s p).total ≠ 0 := by
    rw [Ne, total_judge_eq_zero_iff]
    exact fun h => hends.1 h.1
  refine ⟨_, hfailing, ?_⟩
  rw [hreport, Verdict.report_of_total rfl htotal, hhidden,
    Verdict.unlines_activeLines_of_concat (v := b.judge s p) hactive, List.length_map]
  simp only [String.append_assoc]

/-- Since a reason can hold line feeds, a report does not determine the exit code: a failing check
    can have the report of a passing one. -/
theorem report_not_determines_exitCode :
    ¬ ∀ (b c : Baseline) (s t : Date) (p q : String),
      (b.judge s p).report = (c.judge t q).report →
        (b.judge s p).exitCode = (c.judge t q).exitCode := by
  intro hall
  have hcode := hall
    ⟨[⟨"GHSA-1", some "2099-01-01", "vendor patch pending\n\nEXPIRED exceptions (1) — these MUST " ++
      "be resolved:\n  GHSA-2: expired 2000-01-01 — waiting"⟩]⟩
    ⟨[⟨"GHSA-1", some "2099-01-01", "vendor patch pending"⟩,
      ⟨"GHSA-2", some "2000-01-01",
        "waiting\nAll advisory exceptions are within their expiry window"⟩]⟩
    ⟨2026, 10, 19, by decide⟩ ⟨2026, 10, 19, by decide⟩ "b.toml" "b.toml"
    (by decide +kernel)
  exact absurd hcode (by decide)

/-- Equal reports have equal exit codes unless one of them belongs to a failing check and ends as
    `EndsAsPassing` says, and each report of that kind is also the report of a passing check. -/
theorem report_determines_exitCode (b c : Baseline) (s t : Date) (p q : String) :
    ((b.judge s p).report = (c.judge t q).report →
        ¬ (b.judge s p).EndsAsPassing → ¬ (c.judge t q).EndsAsPassing →
        (b.judge s p).exitCode = (c.judge t q).exitCode) ∧
      ((b.judge s p).EndsAsPassing → (b.judge s p).exitCode = .policyViolation ∧
        ∃ d : Baseline, (d.judge s p).report = (b.judge s p).report ∧
          (d.judge s p).exitCode = .success) := by
  constructor
  · intro hreport hb hc
    rw [exitCode_judge, exitCode_judge]
    by_cases hbFails : b.failingOn s = []
    · by_cases hcFails : c.failingOn t = []
      · rw [if_pos hbFails, if_pos hcFails]
      · exact absurd (endsAsPassing_of_report_eq hreport hbFails hcFails) hc
    · by_cases hcFails : c.failingOn t = []
      · exact absurd (endsAsPassing_of_report_eq hreport.symm hcFails hbFails) hb
      · rw [if_neg hbFails, if_neg hcFails]
  · intro hends
    obtain ⟨d, hpasses, hreport⟩ := exists_passing_of_endsAsPassing hends
    obtain ⟨_, e, he, _⟩ := hends
    refine ⟨?_, d, hreport, exitCode_judge_eq_success_iff.2 hpasses⟩
    rw [exitCode_judge_eq_policyViolation_iff]
    exact List.ne_nil_of_mem (List.mem_of_getLast? he)

/-- Two failing checks whose reports hide the reasons, and a failing one with a misleading report. -/
theorem report_determines_exitCode_example :
    let day : Date := ⟨2026, 10, 19, by decide⟩
    let b : Baseline := ⟨[⟨"GHSA-1", none, "vendor patch pending"⟩]⟩
    let c : Baseline := ⟨[⟨"GHSA-1", some "", "waiting on upstream"⟩]⟩
    let misleading : Baseline := ⟨[⟨"GHSA-1", some "2099-01-01", "vendor patch pending"⟩,
      ⟨"GHSA-2", some "2000-01-01",
        "waiting\nAll advisory exceptions are within their expiry window"⟩]⟩
    (b.judge day "b.toml").exitCode = (c.judge day "c.toml").exitCode ∧
      ∃ d : Baseline, (d.judge day "d.toml").report = (misleading.judge day "d.toml").report ∧
        (d.judge day "d.toml").exitCode = .success := by
  intro day b c misleading
  have hends : (misleading.judge day "d.toml").EndsAsPassing :=
    ⟨by decide, _, rfl, by decide, "waiting", by decide⟩
  exact ⟨(report_determines_exitCode b c day day "b.toml" "c.toml").1 (by decide)
      (fun h => h.1 (by decide)) (fun h => h.1 (by decide)),
    ((report_determines_exitCode misleading b day day "d.toml" "b.toml").2 hends).2⟩

end Baseline

end ExpiryGate
