import Intake.Text.Invisible

/-!
# Quoted text

How diagnostics show a text inside double quotes: quotes, backslashes and the usual control
characters by a backslash and a letter, an invisible character by its code point in hexadecimal
between braces, everything else as it is.
-/

namespace Intake.Text

/-- Hexadecimal digits of a number in lower case, none of them superfluous. -/
def hexDigits (n : Nat) : List Char := Nat.toDigits 16 n

def quoteChar (c : Char) : List Char :=
  if c == '"' then ['\\', '"']
  else if c == '\\' then ['\\', '\\']
  else if c == '\n' then ['\\', 'n']
  else if c == '\r' then ['\\', 'r']
  else if c == '\t' then ['\\', 't']
  else if c.toNat == 0 then ['\\', '0']
  else if isInvisible c then ['\\', 'u', '\x7b'] ++ hexDigits c.toNat ++ ['\x7d']
  else [c]

def quote (s : String) : String := String.ofList ('"' :: s.toList.flatMap quoteChar ++ ['"'])

end Intake.Text
