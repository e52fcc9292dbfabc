import ExpiryGate.Fault
import ExpiryGate.Files.Path

namespace ExpiryGate

/-- Who decided on the place of the baseline. -/
inductive Source where
  | explicit
  | environment
  | default
deriving DecidableEq, Repr

/-- The name of a source in messages. -/
def Source.name : Source → String
  | .explicit => "cli"
  | .environment => "env"
  | .default => "default"

/-- The path of the baseline. -/
structure Location where
  path : String
  source : Source
deriving DecidableEq, Repr

namespace Location

/-- The environment variable that can hold the path of the baseline. -/
def variableName : String := "ADVISORY_BASELINE"

/-- The path of the baseline below the root of the repository. -/
def defaultPath : String := "security/advisory-baseline.toml"

/-- What marks the root of a repository, be it a file or a directory. -/
def rootMark : String := ".git"

/-- The number of directories in which a root mark is looked for, the first one included. -/
def searchDepth : Nat := 10

/-- The nearest directory with a root mark among `depth` directories from `directory` upwards. -/
def searchRoot (files : Files) : Nat → String → Option String
  | 0, _ => none
  | depth + 1, directory =>
    if files.present (Path.join directory rootMark) then some directory
    else
      match Path.parent? directory with
      | some parent => searchRoot files depth parent
      | none => none

/-- The root of the repository around a directory; the directory itself if no root is found. -/
def repositoryRoot (files : Files) (start : String) : String :=
  (searchRoot files searchDepth start).getD start

/-- The default path of the baseline, seen from a directory. -/
def defaultFrom (files : Files) (start : String) : String :=
  Path.join (repositoryRoot files start) defaultPath

/-- The place of the baseline: the path given on the command line, which has to exist, else the one
    given by the environment, else a fixed path below the root of the repository. An empty value of
    the environment variable counts as one that is not set. -/
def resolve (files : Files) (start : String) (explicit environment : Option String) :
    Except Fault Location :=
  match explicit with
  | some path =>
    if files.present path then .ok ⟨path, .explicit⟩ else .error (.notFound path)
  | none =>
    match environment.filter (· ≠ "") with
    | some path => .ok ⟨path, .environment⟩
    | none => .ok ⟨defaultFrom files start, .default⟩

/-- What is said when there is no current directory. -/
def noDirectory (error : SystemError) : Fault :=
  .discoveryFailed ("failed to get current directory: " ++ error.text)

/-- The place of the baseline, seen from the current directory, if there is one. -/
def resolveHere (files : Files) (directory : Except SystemError String)
    (explicit environment : Option String) : Except Fault Location :=
  match directory with
  | .error e => .error (noDirectory e)
  | .ok start => resolve files start explicit environment

end Location

end ExpiryGate
