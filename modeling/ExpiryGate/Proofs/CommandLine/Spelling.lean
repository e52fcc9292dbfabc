import ExpiryGate.CommandLine.Options
import ExpiryGate.Proofs.Folds
import Mathlib.Data.List.Perm.Basic

namespace ExpiryGate.Options

/-- One thing that options can ask for. -/
inductive Request where
  | value (setting : Setting) (text : String)
  | json
  | verbose
deriving DecidableEq

namespace Request

/-- The option by which something is asked for. -/
def option : Request → Setting ⊕ Flag
  | .value setting _ => .inl setting
  | .json => .inr .json
  | .verbose => .inr .verbose

/-- The ways to write a request. A value in an argument of its own cannot start with a dash. -/
inductive Spells : Request → List String → Prop
  | joined (setting : Setting) (text : String) :
      Spells (.value setting text) ["--" ++ setting.name ++ "=" ++ text]
  | apart (setting : Setting) {text : String} (hdash : text.toList.head? ≠ some '-') :
      Spells (.value setting text) ["--" ++ setting.name, text]
  | json : Spells .json ["--json"]
  | verbose : Spells .verbose ["--verbose"]
  | letter : Spells .verbose ["-v"]

end Request

/-- What the options ask for. -/
def requests (options : Options) : List Request :=
  (options.baseline.map (Request.value .baseline)).toList ++
    ((options.today.map (Request.value .today)).toList ++
      ((if options.json then [.json] else []) ++ if options.verbose then [.verbose] else []))

/-- The options with one more request. -/
def add (options : Options) : Request → Options
  | .value .baseline text => { options with baseline := some text }
  | .value .today text => { options with today := some text }
  | .json => { options with json := true }
  | .verbose => { options with verbose := true }

/-- The arguments make all the requests of the options, each of them once and in any order. -/
def IsWrittenAs (options : Options) (arguments : List String) : Prop :=
  ∃ order parts, order.Perm options.requests ∧ List.Forall₂ Request.Spells order parts ∧
    arguments = parts.flatten

variable {options other : Options} {setting : Setting} {text : String} {r : Request}

/-- A value is asked for iff it is the one that the options have for its setting. -/
theorem value_mem_requests_iff :
    Request.value setting text ∈ options.requests ↔ options.get setting = some text := by
  cases setting <;> simp [requests, get]

theorem json_mem_requests_iff : Request.json ∈ options.requests ↔ options.json = true := by
  simp [requests]

theorem verbose_mem_requests_iff : Request.verbose ∈ options.requests ↔ options.verbose = true := by
  simp [requests]

/-- Options are settled by what they ask for, in whatever order. -/
theorem eq_of_requests_perm (hperm : options.requests.Perm other.requests) : options = other := by
  have hget : ∀ setting, options.get setting = other.get setting := by
    intro setting
    apply Option.ext
    intro text
    rw [← value_mem_requests_iff, ← value_mem_requests_iff]
    exact hperm.mem_iff
  have hjson : options.json = other.json := by
    rw [Bool.eq_iff_iff, ← json_mem_requests_iff, ← json_mem_requests_iff]
    exact hperm.mem_iff
  have hverbose : options.verbose = other.verbose := by
    rw [Bool.eq_iff_iff, ← verbose_mem_requests_iff, ← verbose_mem_requests_iff]
    exact hperm.mem_iff
  obtain ⟨baseline, today, json, verbose⟩ := options
  obtain ⟨_, _, _, _⟩ := other
  have hbaseline := hget .baseline
  have htoday := hget .today
  dsimp only [get] at hbaseline htoday hjson hverbose
  rw [hbaseline, htoday, hjson, hverbose]

theorem not_mem_of_free (hfree : r.option ∉ options.requests.map Request.option) :
    r ∉ options.requests :=
  fun hmem => hfree (List.mem_map_of_mem hmem)

/-- Nothing is asked for by an option that no request uses. -/
theorem get_eq_none_of_free (hfree : .inl setting ∉ options.requests.map Request.option) :
    options.get setting = none := by
  rw [Option.eq_none_iff_forall_ne_some]
  intro text htext
  exact not_mem_of_free (r := .value setting text) hfree (value_mem_requests_iff.2 htext)

theorem json_eq_false_of_free (hfree : .inr .json ∉ options.requests.map Request.option) :
    options.json = false := by
  rw [← Bool.not_eq_true, ← json_mem_requests_iff]
  exact not_mem_of_free hfree

/-- As long as no request is for more lines the flag for them is off, in whichever spelling it might
    come. -/
theorem verbose_eq_false_of_free (hfree : .inr .verbose ∉ options.requests.map Request.option) :
    options.verbose = false := by
  rw [← Bool.not_eq_true, ← verbose_mem_requests_iff]
  exact not_mem_of_free hfree

/-- A request by an option that is free adds itself and nothing else. -/
theorem requests_add_perm (hfree : r.option ∉ options.requests.map Request.option) :
    (options.add r).requests.Perm (r :: options.requests) := by
  cases r with
  | value setting text =>
    have hnone := get_eq_none_of_free hfree
    cases setting with
    | baseline =>
      dsimp only [get] at hnone
      simp only [requests, add, hnone]
      exact .refl _
    | today =>
      dsimp only [get] at hnone
      simp only [requests, add, hnone]
      exact List.perm_middle
  | json =>
    simp only [requests, add, json_eq_false_of_free hfree]
    exact (List.perm_middle.append_left _).trans List.perm_middle
  | verbose =>
    simp only [requests, add, verbose_eq_false_of_free hfree]
    refine (List.Perm.append_left _ ?_).trans List.perm_middle
    refine (List.Perm.append_left _ ?_).trans List.perm_middle
    exact List.perm_middle

/-- Options never ask for the same thing twice. -/
theorem nodup_requests (options : Options) : (options.requests.map Request.option).Nodup := by
  obtain ⟨baseline, today, json, verbose⟩ := options
  cases baseline <;> cases today <;> cases json <;> cases verbose <;>
    simp [requests, Request.option]

/-- A value can be given to an option that has none, if it is not the empty path of a baseline. -/
theorem set_eq_add (hfree : options.get setting = none)
    (hproper : Request.value setting text ≠ .value .baseline "") :
    options.set setting text = .ok (options.add (.value setting text)) := by
  unfold Options.set
  rw [hfree, if_neg (by decide)]
  cases setting with
  | baseline =>
    have hne : text ≠ "" := by
      rintro rfl
      exact hproper rfl
    exact if_neg hne
  | today => rfl

/-- The options so far stand: they are what is reached at the end, even if the last value has not
    been looked at yet. -/
def Progress.Stands (p : Progress) (options : Options) : Prop :=
  p.settle = .ok ⟨options, none, false⟩

variable {p : Progress}

theorem Progress.Stands.ended (h : p.Stands options) : p.ended = false := by
  obtain ⟨earlier, pending, ended⟩ := p
  unfold Progress.Stands Progress.settle at h
  split at h
  · cases h
    rfl
  · cases h
  · obtain ⟨_, _, hsettled⟩ := exists_of_bind_eq_ok h
    cases hsettled
    rfl

theorem Progress.stands_self (options : Options) :
    Progress.Stands ⟨options, none, false⟩ options :=
  rfl

/-- A value that has been named but not looked at yet is taken up by the next argument or the end.
    -/
theorem Progress.stands_of_named (hset : options.set setting text = .ok other) :
    Progress.Stands ⟨options, some (setting, some text), false⟩ other := by
  rw [Progress.Stands, Progress.settle]
  dsimp only
  rw [hset]
  rfl

theorem named?_name (setting : Setting) : named? setting.name.toList = some (.inl setting) := by
  cases setting <;> decide

/-- A setting without an equals sign waits for the next argument. -/
theorem Progress.long_name (p : Progress) (setting : Setting) :
    p.long setting.name.toList = (do
      let p ← p.settle
      return { p with pending := some (setting, none) }) := by
  cases setting <;> rfl

/-- The first equals sign behind a setting ends its name, and all that follows is the value, further
    equals signs included. -/
theorem Progress.long_joined (p : Progress) (setting : Setting) (text : String) :
    p.long (setting.name.toList ++ '=' :: text.toList) = (do
      let p ← p.settle
      let options ← p.options.set setting text
      return { p with options := options }) := by
  have hequals : '=' ∉ setting.name.toList := by
    cases setting <;> simp [Setting.name]
  have hname : ∀ c ∈ setting.name.toList, decide (c ≠ '=') = true := by
    intro c hc
    rw [decide_eq_true_iff]
    rintro rfl
    exact hequals hc
  have htake : (setting.name.toList ++ '=' :: text.toList).takeWhile (· ≠ '=') =
      setting.name.toList := by
    rw [List.takeWhile_append_of_pos hname]
    simp
  have hdrop : (setting.name.toList ++ '=' :: text.toList).dropWhile (· ≠ '=') =
      '=' :: text.toList := by
    rw [List.dropWhile_append_of_pos hname]
    simp
  rw [Progress.long, htake, hdrop, named?_name]
  dsimp only
  rw [String.ofList_toList]

/-- With its value in the same argument an option is completed at once. -/
theorem Progress.Stands.next_joined (h : p.Stands options)
    (hset : options.set setting text = .ok other) :
    p.next ("--" ++ setting.name ++ "=" ++ text) = .ok ⟨other, none, false⟩ := by
  have hchars : ("--" ++ setting.name ++ "=" ++ text).toList =
      '-' :: '-' :: (setting.name.toList ++ '=' :: text.toList) := by simp
  have hlong : p.long (setting.name.toList ++ '=' :: text.toList) = .ok ⟨other, none, false⟩ := by
    rw [p.long_joined, show p.settle = _ from h]
    change (options.set setting text >>= _) = _
    rw [hset]
    rfl
  rw [Progress.next, h.ended, hchars]
  cases setting <;> exact hlong

theorem Progress.Stands.next_name (h : p.Stands options) (setting : Setting) :
    p.next ("--" ++ setting.name) = .ok ⟨options, some (setting, none), false⟩ := by
  have hchars : ("--" ++ setting.name).toList = '-' :: '-' :: setting.name.toList := by simp
  have hlong : p.long setting.name.toList = .ok ⟨options, some (setting, none), false⟩ := by
    rw [p.long_name, show p.settle = _ from h]
    rfl
  rw [Progress.next, h.ended, hchars]
  cases setting <;> exact hlong

/-- What does not start with a dash is taken for the value of the option before it. -/
theorem Progress.next_value (hdash : text.toList.head? ≠ some '-') :
    Progress.next ⟨options, some (setting, none), false⟩ text =
      .ok ⟨options, some (setting, some text), false⟩ := by
  rw [Progress.next, if_neg Bool.false_ne_true]
  split
  · rename_i hchars
    simp [hchars] at hdash
  · rename_i hchars
    simp [hchars] at hdash
  · rename_i hchars
    simp [hchars] at hdash
  · rfl

theorem Progress.Stands.raise_json (h : p.Stands options) (hjson : options.json = false) :
    p.raise .json true = .ok ⟨options.add .json, none, false⟩ := by
  rw [Progress.raise, show p.settle = _ from h]
  change (if options.json = true then _ else _) = _
  rw [hjson]
  rfl

/-- The flag for more lines can be raised where it is off, by its name as well as by its letter. -/
theorem Progress.Stands.raise_verbose (h : p.Stands options) (hverbose : options.verbose = false)
    (isLong : Bool) : p.raise .verbose isLong = .ok ⟨options.add .verbose, none, false⟩ := by
  rw [Progress.raise, show p.settle = _ from h]
  change (if options.verbose = true then _ else _) = _
  rw [hverbose]
  rfl

theorem Progress.Stands.next_flag (h : p.Stands options) (flag : Flag) :
    p.next ("--" ++ flag.name) = p.raise flag true := by
  rw [Progress.next, h.ended]
  cases flag <;> rfl

theorem Progress.Stands.next_letter (h : p.Stands options) :
    p.next "-v" = p.raise .verbose false := by
  rw [Progress.next, h.ended]
  change (p.raise .verbose false >>= fun p => p.short []) = _
  cases p.raise .verbose false <;> rfl

/-- The arguments of one request bring progress from the options that stand to those with it. -/
theorem Progress.Stands.request {part : List String} (h : p.Stands options)
    (hspells : r.Spells part) (hfree : r.option ∉ options.requests.map Request.option)
    (hproper : r ≠ .value .baseline "") :
    ∃ next, part.foldlM Progress.next p = .ok next ∧ next.Stands (options.add r) := by
  cases hspells with
  | joined setting text =>
    have hset := set_eq_add (get_eq_none_of_free hfree) hproper
    refine ⟨_, ?_, Progress.stands_self _⟩
    rw [List.foldlM_cons, h.next_joined hset]
    rfl
  | @apart setting text hdash =>
    have hset := set_eq_add (get_eq_none_of_free hfree) hproper
    refine ⟨_, ?_, Progress.stands_of_named hset⟩
    rw [List.foldlM_cons, h.next_name setting]
    change [text].foldlM Progress.next _ = _
    rw [List.foldlM_cons, Progress.next_value hdash]
    rfl
  | json =>
    have hnext : p.next "--json" = p.raise .json true := h.next_flag .json
    refine ⟨_, ?_, Progress.stands_self _⟩
    rw [List.foldlM_cons, hnext, h.raise_json (json_eq_false_of_free hfree)]
    rfl
  | verbose =>
    have hnext : p.next "--verbose" = p.raise .verbose true := h.next_flag .verbose
    refine ⟨_, ?_, Progress.stands_self _⟩
    rw [List.foldlM_cons, hnext, h.raise_verbose (verbose_eq_false_of_free hfree)]
    rfl
  | letter =>
    refine ⟨_, ?_, Progress.stands_self _⟩
    rw [List.foldlM_cons, h.next_letter, h.raise_verbose (verbose_eq_false_of_free hfree)]
    rfl

/-- The arguments of several requests, by induction on these. At each of them its option is still
    free, as no two requests use the same. -/
theorem Progress.Stands.requests {order : List Request} {parts : List (List String)}
    (h : p.Stands options) (hspells : List.Forall₂ Request.Spells order parts)
    (hfree : ((order ++ options.requests).map Request.option).Nodup)
    (hproper : .value .baseline "" ∉ order) :
    ∃ last all, parts.flatten.foldlM Progress.next p = .ok last ∧ last.Stands all ∧
      all.requests.Perm (order ++ options.requests) := by
  induction hspells generalizing p options with
  | nil => exact ⟨p, options, rfl, h, .refl _⟩
  | @cons r part order parts hr _ ih =>
    have hrfree : r.option ∉ options.requests.map Request.option := by
      rw [List.cons_append, List.map_cons, List.map_append, List.nodup_cons, List.mem_append,
        not_or] at hfree
      exact hfree.1.2
    obtain ⟨hrproper, hproper⟩ := List.ne_and_not_mem_of_not_mem_cons hproper
    obtain ⟨next, hnext, hstands⟩ := h.request hr hrfree hrproper.symm
    have hmoved : (order ++ (options.add r).requests).Perm (r :: order ++ options.requests) :=
      ((requests_add_perm hrfree).append_left order).trans List.perm_middle
    have hrest := (hmoved.map Request.option).nodup_iff.2 hfree
    obtain ⟨last, all, hlast, hall, hperm⟩ := ih hstands hrest hproper
    refine ⟨last, all, ?_, hall, hperm.trans hmoved⟩
    rw [List.flatten_cons, List.foldlM_append, hnext]
    exact hlast

/-- Once all arguments are read, the options that stand are the result. -/
theorem parse_of_stands {arguments : List String}
    (harguments : arguments.foldlM Progress.next .start = .ok p) (h : p.Stands options) :
    parse arguments = .ok options := by
  rw [parse, harguments]
  change (p.settle >>= _) = _
  rw [show p.settle = _ from h]
  rfl

/-- Every value has a spelling, with an equals sign, so requests can be written in any order. -/
theorem exists_spelling (order : List Request) :
    ∃ parts, List.Forall₂ Request.Spells order parts := by
  induction order with
  | nil => exact ⟨[], .nil⟩
  | cons r order ih =>
    have hpart : ∃ part, r.Spells part := by
      cases r with
      | value setting text => exact ⟨_, .joined setting text⟩
      | json => exact ⟨_, .json⟩
      | verbose => exact ⟨_, .verbose⟩
    obtain ⟨part, hpart⟩ := hpart
    obtain ⟨parts, hparts⟩ := ih
    exact ⟨part :: parts, .cons hpart hparts⟩

/-- However options are written as arguments, reading the arguments gives these options. A value
    may be any text behind an equals sign, and any text without a dash in front as an argument of
    its own; only the path of a baseline cannot be empty. They can be written in every order of what
    they ask for. -/
theorem parse_written (hbaseline : options.baseline ≠ some "") :
    (∀ arguments, options.IsWrittenAs arguments → parse arguments = .ok options) ∧
      ∀ order : List Request, order.Perm options.requests →
        ∃ parts, List.Forall₂ Request.Spells order parts ∧ parse parts.flatten = .ok options := by
  have hparse : ∀ arguments, options.IsWrittenAs arguments → parse arguments = .ok options := by
    rintro arguments ⟨order, parts, horder, hspells, rfl⟩
    have hnothing : Progress.start.Stands .empty := Progress.stands_self .empty
    have hempty : empty.requests = [] := rfl
    have hfree : ((order ++ empty.requests).map Request.option).Nodup := by
      rw [hempty, List.append_nil]
      exact (horder.map Request.option).nodup_iff.2 options.nodup_requests
    have hproper : Request.value .baseline "" ∉ order := by
      rw [horder.mem_iff, value_mem_requests_iff]
      exact hbaseline
    obtain ⟨last, all, hlast, hall, hperm⟩ := hnothing.requests hspells hfree hproper
    rw [hempty, List.append_nil] at hperm
    rw [parse_of_stands hlast hall, eq_of_requests_perm (hperm.trans horder)]
  refine ⟨hparse, fun order horder => ?_⟩
  obtain ⟨parts, hspells⟩ := exists_spelling order
  exact ⟨parts, hspells, hparse _ ⟨order, parts, horder, hspells, rfl⟩⟩

/-- All four options, with a path that looks like a flag with a value, and the letter in front. -/
theorem parse_written_example :
    let options : Options := ⟨some "--json=-v", some "2026-01-31", true, true⟩
    let arguments := ["-v", "--today", "2026-01-31", "--json", "--baseline=--json=-v"]
    options.baseline ≠ some "" ∧ options.IsWrittenAs arguments ∧ parse arguments = .ok options := by
  intro options arguments
  have hbaseline : options.baseline ≠ some "" := by decide
  have hwritten : options.IsWrittenAs arguments := by
    refine ⟨[.verbose, .value .today "2026-01-31", .json, .value .baseline "--json=-v"],
      [["-v"], ["--today", "2026-01-31"], ["--json"], ["--baseline=--json=-v"]], by decide, ?_, rfl⟩
    exact .cons .letter (.cons (.apart .today (by decide)) (.cons .json
      (.cons (.joined .baseline "--json=-v") .nil)))
  obtain ⟨hparse, _⟩ := parse_written hbaseline
  exact ⟨hbaseline, hwritten, hparse arguments hwritten⟩

end ExpiryGate.Options
