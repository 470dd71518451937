import MockSsh.Text.Escape
import MockSsh.Text.Extending
import MockSsh.Text.Unprintable

/-!
Text between double quotes, for diagnostics. The quote and the backslash get a backslash, as do tab,
line breaks and the zero character; a character without a picture of its own, or one that would
join the character before it, is written as its code point; every other character stands for itself.
-/
namespace MockSsh.Text

/-- One character between the quotes. -/
def quoteChar (c : Char) : List Char :=
  if c = '\x00' then ['\\', '0']
  else if c = '\t' then ['\\', 't']
  else if c = '\r' then ['\\', 'r']
  else if c = '\n' then ['\\', 'n']
  else if c = '"' ∨ c = '\\' then ['\\', c]
  else if isExtending c ∨ isUnprintable c then codePoint c
  else [c]

/-- The text in quotes. -/
def quoted (text : String) : String :=
  String.ofList ('"' :: text.toList.flatMap quoteChar ++ ['"'])

end MockSsh.Text
