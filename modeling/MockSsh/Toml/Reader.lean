import MockSsh.Text.Digits

/-!
Readers for the smallest parts of a TOML document: blanks, comments, line ends, strings and keys. A
reader takes the characters that are left and gives what it found with the characters after it, or
nothing where the document is not well formed. Loops whose steps take more than one character carry
a bound; a bound of the number of characters left is always enough.
-/
namespace MockSsh.Toml

open Text (hexValue?)

/-- Reads something from the front of the characters that are left. -/
abbrev Reader (α : Type) := List Char → Option (α × List Char)

/-- A space or a tab. -/
def isSpace (c : Char) : Bool :=
  c == ' ' || c == '\t'

/-- Any character but the controls; a tab is admitted. -/
def isPlain (c : Char) : Bool :=
  c == '\t' || (0x20 ≤ c.toNat && c.toNat != 0x7F)

/-- What is left after spaces and tabs. -/
def skipSpaces (cs : List Char) : List Char :=
  cs.dropWhile isSpace

/-- What is left after a comment, if there is one. -/
def skipComment : List Char → List Char
  | '#' :: rest => rest.dropWhile isPlain
  | cs => cs

/-- What is left after a line feed, alone or after a carriage return. -/
def newline? : List Char → Option (List Char)
  | '\n' :: rest => some rest
  | '\r' :: '\n' :: rest => some rest
  | _ => none

/-- What is left after the end of a line, where nothing but a comment may stand before it. -/
def endLine? (cs : List Char) : Option (List Char) :=
  match skipComment (skipSpaces cs) with
  | [] => some []
  | rest => newline? rest

/-- What is left after spaces, line ends and comments. -/
def skipLinesFrom (inComment : Bool) : List Char → List Char
  | [] => []
  | c :: rest =>
    if inComment && isPlain c then skipLinesFrom true rest
    else if isSpace c || c == '\n' then skipLinesFrom false rest
    else if c == '#' then skipLinesFrom true rest
    else if c == '\r' then
      match rest with
      | '\n' :: rest => skipLinesFrom false rest
      | _ => c :: rest
    else c :: rest

/-- What is left after spaces, line ends and comments. -/
def skipLines (cs : List Char) : List Char :=
  skipLinesFrom false cs

/-- The number that exactly `count` hexadecimal digits spell. -/
def hexNumber (count : Nat) : Reader Nat := fun cs => do
  let digits ← (cs.take count).mapM hexValue?
  if digits.length = count then
    some (digits.foldl (fun value digit => value * 16 + digit) 0, cs.drop count)
  else
    none

/-- The character of a code point; a surrogate has none. -/
def scalar? (codePoint : Nat) : Option Char :=
  if codePoint < 0xD800 ∨ (0xDFFF < codePoint ∧ codePoint < 0x110000) then
    some (Char.ofNat codePoint)
  else
    none

/-- A character given by its code point. -/
def codePoint (count : Nat) : Reader Char := fun cs => do
  let (value, rest) ← hexNumber count cs
  let c ← scalar? value
  return (c, rest)

/-- What follows a backslash in a string. -/
def escaped : Reader Char
  | 'b' :: rest => some ('\x08', rest)
  | 't' :: rest => some ('\t', rest)
  | 'n' :: rest => some ('\n', rest)
  | 'f' :: rest => some ('\x0c', rest)
  | 'r' :: rest => some ('\r', rest)
  | '"' :: rest => some ('"', rest)
  | '\\' :: rest => some ('\\', rest)
  | 'u' :: rest => codePoint 4 rest
  | 'U' :: rest => codePoint 8 rest
  | _ => none

/-- Puts a character in front of what was read. -/
def prepend (c : Char) (read : Option (List Char × List Char)) : Option (List Char × List Char) :=
  read.map fun (cs, rest) => (c :: cs, rest)

/-- The rest of a one-line string with escapes, after its opening quote. -/
def basicLine : Nat → Reader (List Char)
  | 0, _ => none
  | bound + 1, cs =>
    match cs with
    | '"' :: rest => some ([], rest)
    | '\\' :: rest => do
      let (c, rest) ← escaped rest
      prepend c (basicLine bound rest)
    | c :: rest => if isPlain c then prepend c (basicLine bound rest) else none
    | [] => none

/-- The rest of a one-line string without escapes, after its opening quote. -/
def literalLine : Reader (List Char)
  | '\'' :: rest => some ([], rest)
  | c :: rest => if isPlain c then prepend c (literalLine rest) else none
  | [] => none

/-- The end of a string over several lines, if the characters start with it. Of five quotes the
first two still belong to the string, of four the first. -/
def closing? (quote : Char) (cs : List Char) : Option (List Char × List Char) :=
  let quotes := (cs.takeWhile (· == quote)).length
  if quotes < 3 then none
  else
    let kept := min (quotes - 3) 2
    some (List.replicate kept quote, cs.drop (kept + 3))

/-- What is left after a backslash that ends a line: the line end and all blanks and line ends after
it. -/
def skipContinuation? (cs : List Char) : Option (List Char) := do
  let rest ← newline? (skipSpaces cs)
  return go rest
where
  go : List Char → List Char
    | '\r' :: '\n' :: rest => go rest
    | c :: rest => if isSpace c || c == '\n' then go rest else c :: rest
    | [] => []

/-- The rest of a string over several lines with escapes. A line end counts as a line feed. -/
def basicLines : Nat → Reader (List Char)
  | 0, _ => none
  | bound + 1, cs =>
    match closing? '"' cs with
    | some found => some found
    | none =>
      match cs with
      | '\\' :: rest =>
        match skipContinuation? rest with
        | some rest => basicLines bound rest
        | none => do
          let (c, rest) ← escaped rest
          prepend c (basicLines bound rest)
      | c :: rest =>
        match newline? cs with
        | some rest => prepend '\n' (basicLines bound rest)
        | none => if isPlain c then prepend c (basicLines bound rest) else none
      | [] => none

/-- The rest of a string over several lines without escapes. -/
def literalLines : Nat → Reader (List Char)
  | 0, _ => none
  | bound + 1, cs =>
    match closing? '\'' cs with
    | some found => some found
    | none =>
      match cs with
      | c :: rest =>
        match newline? cs with
        | some rest => prepend '\n' (literalLines bound rest)
        | none => if isPlain c then prepend c (literalLines bound rest) else none
      | [] => none

/-- A line end right after the opening of a string over several lines does not count. -/
def skipFirstNewline (cs : List Char) : List Char :=
  (newline? cs).getD cs

/-- A string of one line. -/
def lineString : Reader String
  | '"' :: rest => do
    let (cs, rest) ← basicLine rest.length rest
    return (String.ofList cs, rest)
  | '\'' :: rest => do
    let (cs, rest) ← literalLine rest
    return (String.ofList cs, rest)
  | _ => none

/-- A string of any of the four forms. -/
def string : Reader String
  | '"' :: '"' :: '"' :: rest => do
    let rest := skipFirstNewline rest
    let (cs, rest) ← basicLines rest.length rest
    return (String.ofList cs, rest)
  | '\'' :: '\'' :: '\'' :: rest => do
    let rest := skipFirstNewline rest
    let (cs, rest) ← literalLines rest.length rest
    return (String.ofList cs, rest)
  | cs => lineString cs

/-- A character of a key without quotes. -/
def isBare (c : Char) : Bool :=
  c.isAlphanum || c == '_' || c == '-'

/-- One part of a key. -/
def keyPart (cs : List Char) : Option (String × List Char) :=
  match cs with
  | '"' :: _ => lineString cs
  | '\'' :: _ => lineString cs
  | _ =>
    let bare := cs.takeWhile isBare
    if bare.isEmpty then none else some (String.ofList bare, cs.dropWhile isBare)

/-- The parts of a key, between dots, with the spaces around them. -/
def keyParts : Nat → Reader (List String)
  | 0, _ => none
  | bound + 1, cs => do
    let (part, rest) ← keyPart (skipSpaces cs)
    match skipSpaces rest with
    | '.' :: rest =>
      let (parts, rest) ← keyParts bound rest
      return (part :: parts, rest)
    | rest => return ([part], rest)

/-- How deep values may be nested, and how many parts a key may have. -/
def depthLimit : Nat := 79

/-- A key as the path before its last part, and that part. -/
def key : Reader (List String × String) := fun cs => do
  let (parts, rest) ← keyParts (cs.length + 1) cs
  let last ← parts.getLast?
  if parts.length ≤ depthLimit then
    return ((parts.dropLast, last), rest)
  else
    none

end MockSsh.Toml
