namespace AbilityScript.Toml

abbrev Parser (α : Type) := List Char → Option (α × List Char)

namespace Parser

variable {α : Type}

def upTo (p : Parser α) : Nat → List Char → List α × List Char
  | 0, cs => ([], cs)
  | fuel + 1, cs =>
    match p cs with
    | none => ([], cs)
    | some (a, rest) =>
      let (as, after) := upTo p fuel rest
      (a :: as, after)

/-- As often as it succeeds. Where each success takes a character at least, the length of the text
bounds their number. -/
def many (p : Parser α) (cs : List Char) : List α × List Char :=
  p.upTo cs.length cs

def char (c : Char) : Parser Char
  | d :: rest => if c = d then some (c, rest) else none
  | [] => none

def word : List Char → Parser Unit
  | [], cs => some ((), cs)
  | _ :: _, [] => none
  | c :: w, d :: rest => if c = d then word w rest else none

def satisfy (p : Char → Bool) : Parser Char
  | c :: rest => if p c then some (c, rest) else none
  | [] => none

def exactly (p : Char → Bool) : Nat → Parser (List Char)
  | 0, cs => some ([], cs)
  | _ + 1, [] => none
  | n + 1, c :: cs => if p c then (exactly p n cs).map fun r => (c :: r.1, r.2) else none

def orElse (p q : Parser α) : Parser α :=
  fun cs => (p cs).or (q cs)

end Parser

def isSpace (c : Char) : Bool :=
  c == ' ' || c == '\t'

def skipSpaces (cs : List Char) : List Char :=
  cs.dropWhile isSpace

def newline : Parser Unit
  | '\n' :: rest => some ((), rest)
  | '\r' :: '\n' :: rest => some ((), rest)
  | _ => none

def isLineChar (c : Char) : Bool :=
  c == '\t' || (' ' ≤ c && c != '\x7f')

def comment : Parser Unit
  | '#' :: rest => some ((), rest.dropWhile isLineChar)
  | _ => none

def lineEnd : Parser Unit := fun cs =>
  let cs := skipSpaces cs
  let cs := ((comment cs).map Prod.snd).getD cs
  match cs with
  | [] => some ((), [])
  | cs => newline cs

def space : Parser Unit :=
  fun cs => (Parser.satisfy isSpace cs).map fun r => ((), r.2)

def layoutPiece : Parser Unit :=
  Parser.orElse space (Parser.orElse newline comment)

def skipLayout (cs : List Char) : List Char :=
  (Parser.many layoutPiece cs).2

end AbilityScript.Toml
