import WebhookGuard.Text.Printable

/-
  Quoted text, as it appears in descriptions of options and stores. A text stands between double
  quotes; the quote itself, the backslash and the line controls are written with a backslash,
  and what a reader could not see is written by its code point.
-/
namespace WebhookGuard.Text

/-- The digits of a number in small hexadecimal, without leading zeros. -/
def hexNumeral (n : Nat) : List Char :=
  Nat.toDigits 16 n

/-- One character inside quotes. -/
def quoteChar (c : Char) : List Char :=
  if c = '\x00' then ['\\', '0']
  else if c = '\t' then ['\\', 't']
  else if c = '\r' then ['\\', 'r']
  else if c = '\n' then ['\\', 'n']
  else if c = '\\' then ['\\', '\\']
  else if c = '"' then ['\\', '"']
  else if isPrintable c then [c]
  else ['\\', 'u', '\x7b'] ++ hexNumeral c.toNat ++ ['\x7d']

/-- A text between double quotes, with what cannot stand there escaped. -/
def quoted (s : String) : String :=
  String.ofList ('"' :: s.toList.flatMap quoteChar ++ ['"'])

end WebhookGuard.Text
