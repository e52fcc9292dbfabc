namespace ExpiryGate

/-- What the command line asks for. -/
structure Options where
  baseline : Option String
  today : Option String
  json : Bool
  verbose : Bool
deriving DecidableEq, Repr

namespace Options

/-- Nothing asked for. -/
def empty : Options := ⟨none, none, false, false⟩

/-- Options that take a value. -/
inductive Setting where
  | baseline
  | today
deriving DecidableEq, Repr

/-- Options that stand alone. -/
inductive Flag where
  | json
  | verbose
  | help
  | version
deriving DecidableEq, Repr

/-- The name behind the dashes. -/
def Setting.name : Setting → String
  | .baseline => "baseline"
  | .today => "today"

/-- The name of a flag, which stands behind two dashes. -/
def Flag.name : Flag → String
  | .json => "json"
  | .verbose => "verbose"
  | .help => "help"
  | .version => "version"

/-- An option that takes a value, as usage messages show it. -/
def Setting.usage : Setting → String
  | .baseline => "--baseline <PATH>"
  | .today => "--today <DATE>"

/-- A flag as it is typed. -/
def Flag.usage (flag : Flag) : String :=
  "--" ++ flag.name

/-- Why the arguments do not give options. -/
inductive Stop where
  | unknownArgument (argument : String)
  | valueMissing (setting : Setting)
  | repeatedSetting (setting : Setting)
  | repeatedFlag (flag : Flag)
  | unexpectedValue (value : String) (flag : Flag)
  /-- Help was asked for, in its short or its long form. -/
  | help (isLong : Bool)
  | version
deriving DecidableEq, Repr

/-- The options so far. -/
structure Progress where
  options : Options
  /-- The last argument named this option; its value, if it is there already, has not been looked
      at yet. -/
  pending : Option (Setting × Option String)
  /-- A double dash has ended the options. -/
  ended : Bool

/-- Nothing has been read yet. -/
def Progress.start : Progress := ⟨.empty, none, false⟩

/-- The value of an option that takes one. -/
def get (options : Options) : Setting → Option String
  | .baseline => options.baseline
  | .today => options.today

/-- Gives an option its value. It can have one only, and the path of a baseline cannot be empty. -/
def set (options : Options) (setting : Setting) (value : String) : Except Stop Options :=
  if (options.get setting).isSome then .error (.repeatedSetting setting)
  else
    match setting with
    | .baseline =>
      if value = "" then .error (.valueMissing .baseline)
      else .ok { options with baseline := some value }
    | .today => .ok { options with today := some value }

/-- Completes the option that was named last. -/
def Progress.settle (p : Progress) : Except Stop Progress :=
  match p.pending with
  | none => .ok p
  | some (setting, none) => .error (.valueMissing setting)
  | some (setting, some value) => do
    let options ← p.options.set setting value
    return { p with options := options, pending := none }

/-- Turns a flag on. `isLong` tells whether it was given by its long name. -/
def Progress.raise (p : Progress) (flag : Flag) (isLong : Bool) : Except Stop Progress := do
  let p ← p.settle
  match flag with
  | .json =>
    if p.options.json then .error (.repeatedFlag .json)
    else return { p with options := { p.options with json := true } }
  | .verbose =>
    if p.options.verbose then .error (.repeatedFlag .verbose)
    else return { p with options := { p.options with verbose := true } }
  | .help => .error (.help isLong)
  | .version => .error .version

/-- The option with this name. -/
def named? (name : List Char) : Option (Setting ⊕ Flag) :=
  if name = "baseline".toList then some (.inl .baseline)
  else if name = "today".toList then some (.inl .today)
  else if name = "json".toList then some (.inr .json)
  else if name = "verbose".toList then some (.inr .verbose)
  else if name = "help".toList then some (.inr .help)
  else if name = "version".toList then some (.inr .version)
  else none

/-- The flag with this letter. -/
def lettered? (c : Char) : Option Flag :=
  if c = 'v' then some .verbose
  else if c = 'h' then some .help
  else if c = 'V' then some .version
  else none

/-- An argument behind two dashes: a name, and a value behind an equals sign. -/
def Progress.long (p : Progress) (body : List Char) : Except Stop Progress :=
  let name := body.takeWhile (· ≠ '=')
  let value := match body.dropWhile (· ≠ '=') with
    | [] => none
    | _ :: value => some (String.ofList value)
  match named? name, value with
  | some (.inl setting), some value => do
    let p ← p.settle
    let options ← p.options.set setting value
    return { p with options := options }
  | some (.inl setting), none => do
    let p ← p.settle
    return { p with pending := some (setting, none) }
  | some (.inr flag), some value => .error (.unexpectedValue value flag)
  | some (.inr flag), none => p.raise flag true
  | none, _ => .error (.unknownArgument ("--" ++ String.ofList name))

/-- An argument behind one dash: one flag per letter. -/
def Progress.short (p : Progress) : List Char → Except Stop Progress
  | [] => .ok p
  | c :: rest =>
    match lettered? c with
    | some flag => do
      let p ← p.raise flag false
      p.short rest
    | none => .error (.unknownArgument ("-" ++ String.ofList [c]))

/-- An argument without dashes, which can only be a value. -/
def Progress.word (p : Progress) (argument : String) : Except Stop Progress :=
  match p.pending with
  | some (setting, none) => .ok { p with pending := some (setting, some argument) }
  | _ => .error (.unknownArgument argument)

/-- The next argument. A lone dash is a word. -/
def Progress.next (p : Progress) (argument : String) : Except Stop Progress :=
  if p.ended then .error (.unknownArgument argument)
  else
    match argument.toList with
    | ['-', '-'] => .ok { p with ended := true }
    | '-' :: '-' :: body => p.long body
    | '-' :: c :: rest => p.short (c :: rest)
    | _ => p.word argument

/-- The options that the arguments give. They can come in any order and are read from left to right
    up to the first one that cannot be accepted; a value follows its option as the next argument or
    behind an equals sign. -/
def parse (arguments : List String) : Except Stop Options := do
  let p ← arguments.foldlM Progress.next .start
  let p ← p.settle
  return p.options

end Options

end ExpiryGate
