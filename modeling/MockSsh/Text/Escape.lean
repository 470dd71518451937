import MockSsh.Text.Blank

/-!
Text made safe to show on one line: tab, line breaks, quotes and the backslash get a backslash,
the other printable ASCII characters stand for themselves, and everything else is written as its
code point in hexadecimal. No control character is left.
-/
namespace MockSsh.Text

/-- Whether `c` is one of the 65 control characters. -/
def isControl (c : Char) : Bool :=
  c.toNat < 0x20 || (0x7F ≤ c.toNat && c.toNat < 0xA0)

/-- The code point of `c` in lower-case hexadecimal, between braces. -/
def codePoint (c : Char) : List Char :=
  ['\\', 'u', '\x7b'] ++ Nat.toDigits 16 c.toNat ++ ['\x7d']

/-- One character of the one-line form. -/
def escapeChar (c : Char) : List Char :=
  if c = '\t' then ['\\', 't']
  else if c = '\r' then ['\\', 'r']
  else if c = '\n' then ['\\', 'n']
  else if c = '\'' ∨ c = '"' ∨ c = '\\' then ['\\', c]
  else if 0x20 ≤ c.toNat ∧ c.toNat < 0x7F then [c]
  else codePoint c

/-- The one-line form of a text, in printable ASCII only. -/
def escape (text : String) : String :=
  String.ofList (text.toList.flatMap escapeChar)

end MockSsh.Text
