import ExpiryGate.Text.Blank

namespace ExpiryGate.Log.Pattern

/-- The flags that decide on what can be written. -/
structure Flags where
  /-- Letters match in either case. -/
  ignoresCase : Bool
  /-- Patterns are about characters, and not about bytes. -/
  isUnicode : Bool
  /-- Blanks and comments stand for nothing. -/
  ignoresBlanks : Bool
deriving DecidableEq, Repr

namespace Flags

/-- The flags at the start of a pattern. -/
def standard : Flags := ⟨false, true, false⟩

/-- The letters of flags are all known and none is repeated. One dash may stand before a letter,
    and turns off the flags behind it. -/
def areLetters (letters : List Char) : Bool :=
  letters.all ("imsUuRx-".toList.contains ·) && letters.eraseDups = letters &&
    letters.getLast? ≠ some '-'

/-- The flags after a change. -/
def change (flags : Flags) (letters : List Char) : Flags :=
  let on := letters.takeWhile (· ≠ '-')
  let off := letters.dropWhile (· ≠ '-')
  let value := fun letter old => (old || on.contains letter) && !off.contains letter
  { ignoresCase := value 'i' flags.ignoresCase
    isUnicode := value 'u' flags.isUnicode
    ignoresBlanks := value 'x' flags.ignoresBlanks }

/-- What follows blanks and comments. A comment goes from a hash to the end of its line; the `Bool`
    tells whether one has been started. -/
def skipComments : Bool → List Char → List Char
  | _, [] => []
  | true, c :: rest => skipComments (c ≠ '\n') rest
  | false, c :: rest =>
    if Text.isBlank c then skipComments false rest
    else if c = '#' then skipComments true rest
    else c :: rest

/-- What follows all that stands for nothing under these flags. -/
def skip (flags : Flags) (cs : List Char) : List Char :=
  if flags.ignoresBlanks then skipComments false cs else cs

/-- The character behind a dash that tells whether the dash makes a range. Behind a hash it is
    looked for in the comment. -/
def peek? (flags : Flags) (cs : List Char) : Option Char :=
  if flags.ignoresBlanks then
    match Text.skipBlank cs with
    | '#' :: rest => (Text.skipBlank rest).head?
    | rest => rest.head?
  else cs.head?

end Flags

end ExpiryGate.Log.Pattern
