import ProfilingOperator.Text.Shown

/-!
# Quoted text

A message that names a text the user wrote shows it between double quotes, with every scalar that would
not be seen as itself written by its escape or its number.
-/

namespace ProfilingOperator.Text

/-- The hexadecimal digits of a number, in lower case. -/
def hexDigits (n : Nat) : List Char :=
  Nat.toDigits 16 n

/-- A scalar as quoted text writes it: an escape for quotes, backslashes and the common controls, the scalar
itself when it is shown, and its number otherwise. -/
def quoteChar (c : Char) : List Char :=
  if c = '"' then ['\\', '"']
  else if c = '\\' then ['\\', '\\']
  else if c = '\n' then ['\\', 'n']
  else if c = '\r' then ['\\', 'r']
  else if c = '\t' then ['\\', 't']
  else if c.toNat = 0 then ['\\', '0']
  else if isShown c then [c]
  else ['\\', 'u', Char.ofNat 123] ++ hexDigits c.toNat ++ [Char.ofNat 125]

def quote (s : String) : String :=
  String.ofList ('"' :: s.toList.flatMap quoteChar ++ ['"'])

end ProfilingOperator.Text
