namespace ExpiryGate

/-- What the operating system says when it cannot do something. -/
inductive SystemError where
  | notFound
  | isDirectory
  | noSpace
  | notUtf8
  | other (text : String)
deriving DecidableEq, Repr

/-- The words of the operating system for an error. -/
def SystemError.text : SystemError → String
  | .notFound => "No such file or directory (os error 2)"
  | .isDirectory => "Is a directory (os error 21)"
  | .noSpace => "No space left on device (os error 28)"
  | .notUtf8 => "stream did not contain valid UTF-8"
  | .other text => text

/-- A file system that does not change while it is looked at. -/
structure Files where
  /-- There is a file or directory at the path. -/
  present : String → Bool
  /-- What reading the path as a file gives. -/
  contents : String → Except SystemError ByteArray

/-- The text in a file, which has to be UTF-8. -/
def Files.readText (files : Files) (path : String) : Except SystemError String :=
  match files.contents path with
  | .error e => .error e
  | .ok bytes =>
    match String.fromUTF8? bytes with
    | some text => .ok text
    | none => .error .notUtf8

end ExpiryGate
