import AbilityScript.Text.Blank
import AbilityScript.Text.Word

namespace AbilityScript

open Text

structure Call where
  name : String
  tokens : List String
  deriving DecidableEq, Repr

namespace Call

def pieces (separator : Char) : List Char → List (List Char)
  | [] => [[]]
  | c :: cs =>
    if c = separator then [] :: pieces separator cs
    else
      match pieces separator cs with
      | [] => [[c]]
      | first :: others => (c :: first) :: others

/-- The tokens between the parentheses: none if there is nothing but blanks, otherwise the trimmed
pieces between the commas, empty ones too. -/
def tokensOf (body : List Char) : List String :=
  match trimChars body with
  | [] => []
  | inner => (pieces ',' inner).map fun piece => String.ofList (trimChars piece)

def isBodyChar (c : Char) : Bool :=
  c != '(' && c != ')'

def split? (line : List Char) : Option (List Char × List Char) :=
  let afterBlanks := line.dropWhile isBlank
  let name := afterBlanks.takeWhile isWordChar
  match name, (afterBlanks.dropWhile isWordChar).dropWhile isBlank with
  | [], _ => none
  | name, '(' :: rest =>
    match rest.dropWhile isBodyChar with
    | ')' :: after =>
      if after.all isBlank then some (name, rest.takeWhile isBodyChar) else none
    | _ => none
  | _, _ => none

def parse? (line : String) : Option Call :=
  (split? line.toList).map fun parts => ⟨String.ofList parts.1, tokensOf parts.2⟩

end Call

end AbilityScript
