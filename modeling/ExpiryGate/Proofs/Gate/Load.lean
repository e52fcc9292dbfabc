import ExpiryGate.Gate
import ExpiryGate.Proofs.Verdict.Partition

namespace ExpiryGate

namespace Files

/-- The file at a path can be read and its text is the document of the baseline `b`. -/
def Holds (files : Files) (path : String) (b : Baseline) : Prop :=
  files.present path = true ∧
    ∃ text, files.readText path = .ok text ∧ Baseline.ofToml text = .ok b

/-- Something is at a path, but it cannot be read as text, or its text is not the document of a
    baseline. The fault says which. -/
inductive Refuses (files : Files) (path : String) : Fault → Prop
  | unread {error : SystemError} (hpresent : files.present path = true)
      (hread : files.readText path = .error error) : Refuses files path (.readFailed path error)
  | unparsed {text : String} {cause : Toml.Fault} (hpresent : files.present path = true)
      (hread : files.readText path = .ok text) (hparse : Baseline.ofToml text = .error cause) :
      Refuses files path (.parseFailed path cause)

variable {files : Files} {path : String}

theorem Holds.present {b : Baseline} (hholds : files.Holds path b) : files.present path = true :=
  hholds.1

/-- A path holds one baseline only, since its text determines it. -/
theorem Holds.unique {b c : Baseline} (hb : files.Holds path b) (hc : files.Holds path c) :
    b = c := by
  obtain ⟨_, text, hread, hparse⟩ := hb
  obtain ⟨_, other, hother, hparseOther⟩ := hc
  rw [hread] at hother
  cases hother
  rw [hparse] at hparseOther
  cases hparseOther
  rfl

/-- Nothing is at a path, or what is there is refused, or it holds a baseline. -/
theorem absent_or_refuses_or_holds (files : Files) (path : String) :
    files.present path = false ∨ (∃ fault, files.Refuses path fault) ∨
      ∃ b, files.Holds path b := by
  cases hpresent : files.present path with
  | false => exact .inl rfl
  | true =>
    right
    cases hread : files.readText path with
    | error error => exact .inl ⟨_, .unread hpresent hread⟩
    | ok text =>
      cases hparse : Baseline.ofToml text with
      | error cause => exact .inl ⟨_, .unparsed hpresent hread hparse⟩
      | ok b => exact .inr ⟨b, hpresent, text, hread, hparse⟩

end Files

namespace Gate

variable {files : Files} {path : String}

theorem check_of_absent (today : Date) (habsent : files.present path = false) :
    check files path today = .ok (.absent path today) := by
  simp [check, load, habsent]

theorem check_of_refuses {fault : Fault} (today : Date) (hrefuses : files.Refuses path fault) :
    check files path today = .error fault := by
  cases hrefuses with
  | unread hpresent hread => simp [check, load, hpresent, hread]
  | unparsed hpresent hread hparse => simp [check, load, parse, hpresent, hread, hparse, Except.map]

theorem check_of_holds {b : Baseline} (today : Date) (hholds : files.Holds path b) :
    check files path today = .ok (b.judge today path) := by
  obtain ⟨hpresent, text, hread, hparse⟩ := hholds
  simp [check, load, parse, hpresent, hread, hparse, Except.map]

/-- All that a check can come to, with what it finds at the path. -/
theorem check_cases (files : Files) (path : String) (today : Date) :
    files.present path = false ∧ check files path today = .ok (.absent path today) ∨
      (∃ fault, files.Refuses path fault ∧ check files path today = .error fault) ∨
      ∃ b, files.Holds path b ∧ check files path today = .ok (b.judge today path) := by
  rcases files.absent_or_refuses_or_holds path with habsent | ⟨fault, hrefuses⟩ | ⟨b, hholds⟩
  · exact .inl ⟨habsent, check_of_absent today habsent⟩
  · exact .inr (.inl ⟨fault, hrefuses, check_of_refuses today hrefuses⟩)
  · exact .inr (.inr ⟨b, hholds, check_of_holds today hholds⟩)

end Gate

end ExpiryGate
