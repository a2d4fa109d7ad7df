/-
  JSON, as far as answers need it: texts and objects, without blanks. Inside a text the quote, the
  backslash and the control characters are escaped and all else stands for itself.
-/
namespace WebhookGuard.Text.Json

/-- A number in four hexadecimal digits. -/
def fourDigits (n : Nat) : List Char :=
  let digits := Nat.toDigits 16 n
  List.replicate (4 - digits.length) '0' ++ digits

/-- One character inside a text. -/
def escape (c : Char) : List Char :=
  if c = '"' then ['\\', '"']
  else if c = '\\' then ['\\', '\\']
  else if c = '\x08' then ['\\', 'b']
  else if c = '\t' then ['\\', 't']
  else if c = '\n' then ['\\', 'n']
  else if c = '\x0c' then ['\\', 'f']
  else if c = '\r' then ['\\', 'r']
  else if c.toNat < 0x20 then ['\\', 'u'] ++ fourDigits c.toNat
  else [c]

/-- A text between double quotes. -/
def text (s : String) : String :=
  String.ofList ('"' :: s.toList.flatMap escape ++ ['"'])

/-- An object; the values of its members are written already. -/
def object (members : List (String × String)) : String :=
  let written := members.map fun member => text member.1 ++ ":" ++ member.2
  "\x7b" ++ ",".intercalate written ++ "\x7d"

example : object [("a\n", text "\x01\""), ("b", "true")] =
    "\x7b\"a\\n\":\"\\u0001\\\"\",\"b\":true\x7d" := by decide +kernel

end WebhookGuard.Text.Json
