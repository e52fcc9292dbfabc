import ExpiryGate.Proofs.Calendar.Text
import ExpiryGate.Proofs.Json.Canonical
import ExpiryGate.Proofs.Text.Lines
import ExpiryGate.Run.Basic
import ExpiryGate.Verdict.Stored

namespace ExpiryGate

/-- A name of words with a capital each, as words with underscores between them. -/
def Text.snakeCase (name : String) : String :=
  String.ofList (name.toList.zipIdx.flatMap fun (c, index) =>
    if 0 < index ∧ c.isUpper then ['_', c.toLower] else [c.toLower])

/-- The label of a status is its name in lower case, with underscores between the words. -/
theorem Status.label_eq_snakeCase (s : Status) : s.label = Text.snakeCase s.logName := by
  cases s <;> decide

namespace Json

/-- The member of an object under a key. -/
def get? (value : Json) (key : String) : Option Json :=
  match value with
  | .object members => member? members key
  | _ => none

theorem readText_string (s : String) : readText (.string s) = .ok s :=
  rfl

theorem readBoolean_boolean (b : Bool) : readBoolean (.boolean b) = .ok b :=
  rfl

/-- A text that may be absent is read back, and absence too. -/
theorem readOptionalText_optional (o : Option String) :
    readOptionalText (optional .string o) = .ok o := by
  cases o <;> rfl

theorem readDate_toJson (d : Date) : readDate d.toJson = .ok d := by
  simp only [Date.toJson, readDate, Date.readLenient_text]

theorem readOptionalDate_optional (o : Option Date) :
    readOptionalDate (optional Date.toJson o) = .ok o := by
  cases o with
  | none => rfl
  | some d =>
    change (readDate d.toJson).map some = .ok (some d)
    rw [readDate_toJson]
    rfl

/-- A list is read if each of its items is. -/
theorem readList_map {α : Type} {read : Json → Read α} {write : α → Json} {xs : List α}
    (hitems : ∀ x ∈ xs, read (write x) = .ok x) :
    readList read (.array (xs.map write)) = .ok xs := by
  change readEach read (xs.map write) = .ok xs
  induction xs with
  | nil => rfl
  | cons x xs ih =>
    rw [List.map_cons, readEach, hitems x List.mem_cons_self,
      ih fun y hy => hitems y (List.mem_cons_of_mem _ hy)]
    rfl

theorem field?_of_member? {α : Type} {members : List (String × Json)} {name : String}
    {read : Json → Read α} {value : Json} {x : α} (hmember : member? members name = some value)
    (hread : read value = .ok x) : field? members name read = .ok (some x) := by
  rw [field?, hmember]
  simp only [hread]
  rfl

/-- What holds of null and of all that is written holds also where a value may be absent. -/
theorem optional_induction {α : Type} {P : Json → Prop} {write : α → Json} (hnull : P .null)
    (hwrite : ∀ x, P (write x)) (o : Option α) : P (optional write o) := by
  cases o with
  | none => exact hnull
  | some x => exact hwrite x

end Json

theorem Status.ofJson_toJson (s : Status) : ofJson s.toJson = .ok s := by
  simp only [toJson, ofJson, ofName, ofLabel?_label]

theorem Entry.ofJson_toJson (e : Entry) : ofJson e.toJson = .ok e := by
  change ofMembers _ = .ok e
  unfold ofMembers
  rw [Json.field?_of_member? rfl (Json.readOptionalText_optional e.expires),
    Json.field?_of_member? rfl (Json.readOptionalDate_optional e.expiresDate),
    Json.field?_of_member? rfl (Json.readText_string e.id),
    Json.field?_of_member? rfl (Json.readText_string e.message),
    Json.field?_of_member? rfl (Json.readText_string e.reason),
    Json.field?_of_member? rfl (Status.ofJson_toJson e.status)]
  rfl

/-- The value shows an entry under its field names: an absent expiry or date as null, and the
    status by its name in snake case. -/
structure Entry.IsShownAs (e : Entry) (value : Json) : Prop where
  id : value.get? "id" = some (.string e.id)
  expires_absent : e.expires = none → value.get? "expires" = some .null
  expires_present : ∀ text, e.expires = some text → value.get? "expires" = some (.string text)
  date_absent : e.expiresDate = none → value.get? "expires_date" = some .null
  date_present : ∀ d, e.expiresDate = some d → value.get? "expires_date" = some (.string d.text)
  reason : value.get? "reason" = some (.string e.reason)
  status : value.get? "status" = some (.string (Text.snakeCase e.status.logName))
  message : value.get? "message" = some (.string e.message)

/-- The value of an entry has each field under its name, and null where the field is absent. -/
theorem Entry.isShownAs_toJson (e : Entry) : e.IsShownAs e.toJson where
  id := rfl
  expires_absent h := congrArg (some ∘ Json.optional Json.string) h
  expires_present _ h := congrArg (some ∘ Json.optional Json.string) h
  date_absent h := congrArg (some ∘ Json.optional Date.toJson) h
  date_present _ h := congrArg (some ∘ Json.optional Date.toJson) h
  reason := rfl
  status := congrArg (some ∘ Json.string) e.status.label_eq_snakeCase
  message := rfl

/-- An entry holds no numbers. -/
theorem Entry.whole_toJson (e : Entry) : e.toJson.Whole := by
  refine .object ?_
  simp only [List.forall_mem_cons, List.not_mem_nil, false_implies, implies_true, and_true]
  exact ⟨Json.optional_induction .null .string _,
    Json.optional_induction .null (fun d => .string d.text) _, .string _, .string _, .string _,
    .string _⟩

/-- The members of an entry are written in the order of their names. -/
theorem Entry.isStandard_toJson (e : Entry) : e.toJson.IsStandard := by
  have hkeys : ["expires", "expires_date", "id", "message", "reason", "status"].Pairwise
      fun a b => a.toList < b.toList := by
    decide
  refine .object hkeys ?_
  simp only [List.forall_mem_cons, List.not_mem_nil, false_implies, implies_true, and_true]
  exact ⟨Json.optional_induction .null .string _,
    Json.optional_induction .null (fun d => .string d.text) _, .string _, .string _, .string _,
    .string _⟩

namespace Verdict

/-- A verdict is read back from its value, whatever its total is. -/
theorem ofJson_toJson (v : Verdict) : ofJson v.toJson = .ok v := by
  have hentries : ∀ es : List Entry,
      Json.readList Entry.ofJson (.array (es.map Entry.toJson)) = .ok es :=
    fun es => Json.readList_map fun e _ => e.ofJson_toJson
  have htotal : Json.readCount (.number (.integer v.total)) = .ok v.total := by
    simp [Json.readCount]
  change ofMembers _ = .ok v
  unfold ofMembers
  rw [Json.field?_of_member? rfl (hentries v.active),
    Json.field?_of_member? rfl (Json.readText_string v.baseline),
    Json.field?_of_member? rfl (Json.readBoolean_boolean v.baselineFound),
    Json.field?_of_member? rfl (hentries v.failing),
    Json.field?_of_member? rfl (Json.readBoolean_boolean v.passed),
    Json.field?_of_member? rfl (Json.readText_string v.schemaVersion),
    Json.field?_of_member? rfl (Json.readText_string v.summary),
    Json.field?_of_member? rfl (Json.readDate_toJson v.today),
    Json.field?_of_member? rfl htotal]
  rfl

/-- The total is the only number of a verdict, and up to the bound it is a double. -/
theorem whole_toJson {v : Verdict} (htotal : v.total ≤ Json.maxWhole) : v.toJson.Whole := by
  have hentries : ∀ es : List Entry, (Json.array (es.map Entry.toJson)).Whole := by
    intro es
    refine .array fun item hitem => ?_
    obtain ⟨e, _, rfl⟩ := List.mem_map.1 hitem
    exact e.whole_toJson
  refine .object ?_
  simp only [List.forall_mem_cons, List.not_mem_nil, false_implies, implies_true, and_true]
  exact ⟨hentries _, .string _, .boolean _, hentries _, .boolean _, .string _, .string _,
    .string _, .number htotal⟩

/-- The members of a verdict are written in the order of their names, at each level. -/
theorem isStandard_toJson (v : Verdict) : v.toJson.IsStandard := by
  have hkeys : ["active", "baseline", "baseline_found", "failing", "passed", "schema_version",
      "summary", "today", "total"].Pairwise fun a b => a.toList < b.toList := by
    decide
  have hentries : ∀ es : List Entry, (Json.array (es.map Entry.toJson)).IsStandard := by
    intro es
    refine .array fun item hitem => ?_
    obtain ⟨e, _, rfl⟩ := List.mem_map.1 hitem
    exact e.isStandard_toJson
  refine .object hkeys ?_
  simp only [List.forall_mem_cons, List.not_mem_nil, false_implies, implies_true, and_true]
  exact ⟨hentries _, .string _, .boolean _, hentries _, .boolean _, .string _, .string _,
    .string _, .number _⟩

/-- The report is made of visible characters. -/
theorem visible_of_mem_jsonReport {v : Verdict} (htotal : v.total ≤ Json.maxWhole) :
    ∀ c ∈ v.jsonReport.toList, 0x20 ≤ c.toNat :=
  Json.visible_of_mem_text (whole_toJson htotal) v.isStandard_toJson.nodup

/-- The output in JSON is a single line. -/
theorem lines?_output {v : Verdict} (htotal : v.total ≤ Json.maxWhole) :
    Text.lines? (v.output true) = some [v.jsonReport] := by
  have hline : Text.IsLine v.jsonReport := by
    intro hfeed
    exact absurd (visible_of_mem_jsonReport htotal _ hfeed) (by decide)
  rw [output, if_pos rfl, ← Text.unlines_singleton]
  exact Text.lines?_unlines (by simpa using hline)

/-- The text of the report is read back as the value of the verdict. -/
theorem read?_jsonReport {v : Verdict} (htotal : v.total ≤ Json.maxWhole) :
    Json.read? v.jsonReport = some v.toJson :=
  Json.read?_text_of_isStandard (whole_toJson htotal) v.isStandard_toJson

/-- The text of the report is read back as the verdict. -/
theorem ofJsonReport?_jsonReport {v : Verdict} (htotal : v.total ≤ Json.maxWhole) :
    ofJsonReport? v.jsonReport = some v := by
  rw [ofJsonReport?, read?_jsonReport htotal, Option.bind_some, ofJson_toJson]
  rfl

/-- The JSON report is one line and holds the whole verdict, whatever its texts and dates are: no
    character of it is a control character, and reading it gives the verdict. In the value that it
    holds an absent expiry is null, as is an absent date, and the status of each entry stands under
    its name in snake case. -/
theorem jsonReport_lossless (v : Verdict) (htotal : v.total ≤ twoPow 53) :
    (∀ c ∈ v.jsonReport.toList, 0x20 ≤ c.toNat) ∧
      Text.lines? (v.output true) = some [v.jsonReport] ∧
      ofJsonReport? v.jsonReport = some v ∧
      ∃ value, Json.read? v.jsonReport = some value ∧
        value.get? "active" = some (.array (v.active.map Entry.toJson)) ∧
        value.get? "failing" = some (.array (v.failing.map Entry.toJson)) ∧
        ∀ e ∈ v.active ++ v.failing, e.IsShownAs e.toJson :=
  ⟨visible_of_mem_jsonReport htotal, lines?_output htotal, ofJsonReport?_jsonReport htotal,
    v.toJson, read?_jsonReport htotal, rfl, rfl, fun e _ => e.isShownAs_toJson⟩

/-- A verdict with control characters and quotes in its texts, years outside of 0 to 9999 and the
    greatest total. -/
theorem jsonReport_lossless_example :
    let v : Verdict := {
      schemaVersion := "advisory-gate.v1"
      baseline := "dir/\x00\"b\\ase\x7f.toml"
      baselineFound := true
      today := ⟨-262143, 1, 1, by decide⟩
      passed := false
      summary := "1 of 2\n\t\r\x08\x0c\x1b"
      total := 9007199254740992
      active := [⟨"GHSA-1", some "", some ⟨262142, 12, 31, by decide⟩, "\u2028", .active, "😀"⟩]
      failing := [⟨"", none, none, "\x1f", .missingExpiry, "missing expiry date"⟩] }
    v.total ≤ twoPow 53 ∧ ofJsonReport? v.jsonReport = some v ∧
      Text.lines? (v.output true) = some [v.jsonReport] := by
  intro v
  have htotal : v.total ≤ twoPow 53 := by decide
  obtain ⟨_, hlines, hread, _⟩ := jsonReport_lossless v htotal
  exact ⟨htotal, hread, hlines⟩

end Verdict

end ExpiryGate
