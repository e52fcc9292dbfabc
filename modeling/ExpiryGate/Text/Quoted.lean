import ExpiryGate.Text.Hex
import ExpiryGate.Text.Hidden

namespace ExpiryGate.Text

/-- A character within quotes. Characters that do not show are given by their code points. -/
def quoteChar (c : Char) : List Char :=
  if c = '\x00' then ['\\', '0']
  else if c = '\t' then ['\\', 't']
  else if c = '\n' then ['\\', 'n']
  else if c = '\r' then ['\\', 'r']
  else if c = '"' then ['\\', '"']
  else if c = '\\' then ['\\', '\\']
  else if isHidden c then '\\' :: 'u' :: '\x7b' :: (Nat.toDigits 16 c.toNat ++ ['\x7d'])
  else [c]

/-- A text as it is quoted in a message: between double quotes, with escapes for quotes, backslashes
    and characters that would not show. -/
def quoted (s : String) : String :=
  String.ofList ('"' :: (s.toList.flatMap quoteChar ++ ['"']))

end ExpiryGate.Text
