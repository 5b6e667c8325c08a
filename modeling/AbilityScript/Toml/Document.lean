import AbilityScript.Toml.Scalar
import AbilityScript.Toml.Tree

namespace AbilityScript.Toml

def array (item : Parser Datum) : Parser Datum := fun cs => do
  let (_, cs) ← Parser.char '[' cs
  let spaced : Parser Datum := fun cs =>
    (item (skipLayout cs)).map fun r => (r.1, skipLayout r.2)
  match spaced cs with
  | none =>
    let (_, rest) ← Parser.char ']' (skipLayout cs)
    some (.list [], rest)
  | some (first, cs) =>
    let (others, cs) := Parser.many (fun cs => do
      let (_, cs) ← Parser.char ',' cs
      spaced cs) cs
    let cs := ((Parser.char ',' cs).map Prod.snd).getD cs
    let (_, rest) ← Parser.char ']' (skipLayout cs)
    some (.list (first :: others), rest)

def assignment (item : Parser Datum) : Parser (List String × Datum) := fun cs => do
  let (path, cs) ← key cs
  let (_, cs) ← Parser.char '=' cs
  let (d, rest) ← item (skipSpaces cs)
  some ((path, d), skipSpaces rest)

def inlineTable (item : Parser Datum) : Parser Datum := fun cs => do
  let (_, cs) ← Parser.char '\x7b' cs
  let (pairs, cs) :=
    match assignment item cs with
    | none => ([], cs)
    | some (first, cs) =>
      let (others, cs) := Parser.many (fun cs => do
        let (_, cs) ← Parser.char ',' cs
        assignment item cs) cs
      (first :: others, cs)
  let (_, rest) ← Parser.char '\x7d' (skipSpaces cs)
  let es ← pairs.foldlM (fun es pair => Entries.assign pair.1 pair.2 .header es) []
  some (.table (entriesToData es), rest)

def value : Nat → Parser Datum
  | 0 => scalar
  | depth + 1 =>
    Parser.orElse scalar (Parser.orElse (array (value depth)) (inlineTable (value depth)))

inductive Statement where
  | blank
  | table (path : List String)
  | item (path : List String)
  | assign (path : List String) (d : Datum)

def header : Parser Statement
  | '[' :: '[' :: cs => do
    let (path, cs) ← key cs
    let (_, rest) ← Parser.word [']', ']'] cs
    some (.item path, rest)
  | '[' :: cs => do
    let (path, cs) ← key cs
    let (_, rest) ← Parser.char ']' cs
    some (.table path, rest)
  | _ => none

def statement : Parser Statement := fun cs =>
  let cs := skipSpaces cs
  match cs with
  | [] => none
  | '#' :: _ => (lineEnd cs).map fun r => (.blank, r.2)
  | '\n' :: _ | '\r' :: _ => (newline cs).map fun r => (.blank, r.2)
  | _ => do
    let (s, cs) ←
      Parser.orElse header
        (fun cs => (assignment (value maxDepth) cs).map fun r => (.assign r.1.1 r.1.2, r.2)) cs
    let (_, rest) ← lineEnd cs
    some (s, rest)

structure Draft where
  entries : Entries
  header : List String

namespace Draft

def add (d : Draft) : Statement → Option Draft
  | .blank => some d
  | .table path => (d.entries.openTable path).map fun es => ⟨es, path⟩
  | .item path => (d.entries.openItem path).map fun es => ⟨es, path⟩
  | .assign path datum =>
    (Entries.descend .implied (Entries.assign path datum) d.header .header d.entries).map fun es =>
      { d with entries := es }

end Draft

def statements? (text : List Char) : Option (List Statement) :=
  let cs := ((Parser.char '\uFEFF' text).map Prod.snd).getD text
  let (found, rest) := Parser.many statement cs
  if (skipSpaces rest).isEmpty then some found else none

def parse? (text : String) : Option Datum := do
  let found ← statements? text.toList
  let draft ← found.foldlM Draft.add ⟨[], []⟩
  some (.table (entriesToData draft.entries))

end AbilityScript.Toml
