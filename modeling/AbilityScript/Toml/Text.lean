import AbilityScript.Text.Ascii
import AbilityScript.Toml.Parser

/-!
The four kinds of TOML strings, and keys. Basic strings know escapes and literal ones do not; those
in three quotes may run over several lines, lose a line end right after the opening, and may hold
one or two of their quotes in a row, also right before the closing.
-/
namespace AbilityScript.Toml

open Text

def scalar? (n : Nat) : Option Char :=
  if h : n.isValidChar then some (Char.ofNatAux n h) else none

def escape : Parser Char
  | 'b' :: rest => some ('\x08', rest)
  | 't' :: rest => some ('\t', rest)
  | 'n' :: rest => some ('\n', rest)
  | 'f' :: rest => some ('\x0c', rest)
  | 'r' :: rest => some ('\r', rest)
  | '"' :: rest => some ('"', rest)
  | '\\' :: rest => some ('\\', rest)
  | 'u' :: rest => coded 4 rest
  | 'U' :: rest => coded 8 rest
  | _ => none
where
  coded (n : Nat) : Parser Char := fun cs => do
    let (digits, rest) ← Parser.exactly isHexDigit n cs
    let c ← scalar? (digits.foldl (fun n c => 16 * n + hexDigitValue c) 0)
    some (c, rest)

def basicPiece : Parser Char
  | '\\' :: rest => escape rest
  | c :: rest => if isLineChar c && c != '"' then some (c, rest) else none
  | [] => none

def basic : Parser String
  | '"' :: cs =>
    match Parser.many basicPiece cs with
    | (body, '"' :: rest) => some (String.ofList body, rest)
    | _ => none
  | _ => none

def literal : Parser String
  | '\x27' :: cs =>
    let inside := fun c => isLineChar c && c != '\x27'
    match cs.dropWhile inside with
    | '\x27' :: rest => some (String.ofList (cs.takeWhile inside), rest)
    | _ => none
  | _ => none

def skipBlankLines (cs : List Char) : List Char :=
  (Parser.many (Parser.orElse space newline) cs).2

def innerQuote (quote : Char) : Parser (List Char) := fun cs =>
  match Parser.exactly (· == quote) 3 cs with
  | some _ => none
  | none => (Parser.char quote cs).map fun r => ([quote], r.2)

def innerNewline : Parser (List Char) := fun cs =>
  (newline cs).map fun r => (['\n'], r.2)

/-- A piece of a basic string over several lines. A backslash at the end of a line takes away the
line end and all blanks and line ends after it. -/
def longBasicPiece : Parser (List Char)
  | '\\' :: rest =>
    match newline (skipSpaces rest) with
    | some (_, rest) => some ([], skipBlankLines rest)
    | none => (escape rest).map fun r => ([r.1], r.2)
  | '"' :: rest => innerQuote '"' ('"' :: rest)
  | c :: rest => if isLineChar c then some ([c], rest) else innerNewline (c :: rest)
  | [] => none

def longLiteralPiece : Parser (List Char)
  | '\x27' :: rest => innerQuote '\x27' ('\x27' :: rest)
  | c :: rest => if isLineChar c then some ([c], rest) else innerNewline (c :: rest)
  | [] => none

/-- Three quotes that close a string, with up to two before them that belong to it. -/
def closing (quote : Char) : Parser (List Char) := fun cs =>
  let run := (cs.take 5).takeWhile (· == quote)
  if run.length < 3 then none else some (run.drop 3, cs.drop run.length)

def long (quote : Char) (piece : Parser (List Char)) : Parser String := fun cs => do
  let (_, cs) ← Parser.word [quote, quote, quote] cs
  let cs := ((newline cs).map Prod.snd).getD cs
  let (body, cs) := Parser.many piece cs
  let (last, rest) ← closing quote cs
  some (String.ofList (body.flatten ++ last), rest)

def string : Parser String :=
  Parser.orElse (long '"' longBasicPiece)
    (Parser.orElse basic (Parser.orElse (long '\x27' longLiteralPiece) literal))

def isBareChar (c : Char) : Bool :=
  c.isAlphanum || c == '-' || c == '_'

def bareKey : Parser String := fun cs =>
  match cs.takeWhile isBareChar with
  | [] => none
  | name => some (String.ofList name, cs.dropWhile isBareChar)

def keyPart : Parser String := fun cs => do
  let (name, rest) ← Parser.orElse basic (Parser.orElse literal bareKey) (skipSpaces cs)
  some (name, skipSpaces rest)

/-- The greatest number of parts in a key, and of arrays and tables inside one another. -/
def maxDepth : Nat := 79

def key : Parser (List String) := fun cs => do
  let (first, cs) ← keyPart cs
  let (others, rest) := Parser.many (fun cs => do
    let (_, cs) ← Parser.char '.' cs
    keyPart cs) cs
  if others.length < maxDepth then some (first :: others, rest) else none

end AbilityScript.Toml
