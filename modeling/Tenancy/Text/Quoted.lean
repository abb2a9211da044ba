import Tenancy.Text.Visible

/-!
# Texts in quotes

A text as it is quoted in a report: between double quotes, with a backslash before a quote and a
backslash, with short forms for the usual controls, and with the code point in braces for whatever
cannot be shown by itself.
-/

namespace Tenancy.Text

def quoteChar (c : Char) : List Char :=
  if c = '\x00' then ['\\', '0']
  else if c = '\t' then ['\\', 't']
  else if c = '\r' then ['\\', 'r']
  else if c = '\n' then ['\\', 'n']
  else if c = '\\' then ['\\', '\\']
  else if c = '"' then ['\\', '"']
  else if isVisible c then [c]
  else '\\' :: 'u' :: '\x7b' :: Nat.toDigits 16 c.toNat ++ ['\x7d']

def quote (s : String) : String :=
  String.ofList ('"' :: s.toList.flatMap quoteChar ++ ['"'])

end Tenancy.Text
