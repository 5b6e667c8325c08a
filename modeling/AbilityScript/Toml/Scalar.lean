import AbilityScript.Datum
import AbilityScript.Number.Decimal
import AbilityScript.Toml.Text

namespace AbilityScript.Toml

open Number Text

def digitRun (isDigit : Char → Bool) : Parser (List Char) := fun cs => do
  let (first, cs) ← Parser.satisfy isDigit cs
  let (others, rest) := Parser.many (Parser.orElse (Parser.satisfy isDigit) fun cs => do
    let (_, cs) ← Parser.char '_' cs
    Parser.satisfy isDigit cs) cs
  some (first :: others, rest)

def decimalWhole : Parser (Bool × List Char) := fun cs => do
  let (negative, cs) := Numeral.sign cs
  match cs with
  | '0' :: rest => some ((negative, ['0']), rest)
  | cs => (digitRun Char.isDigit cs).map fun r => ((negative, r.1), r.2)

def valueOf (base : Nat) (digits : List Char) : Nat :=
  digits.foldl (fun n c => base * n + hexDigitValue c) 0

def whole64? (n : Int) : Option Datum :=
  if Width.Holds .long n then some (.whole n) else none

def based (base : Nat) (isDigit : Char → Bool) : Parser Datum := fun cs => do
  let (digits, rest) ← digitRun isDigit cs
  let d ← whole64? (valueOf base digits)
  some (d, rest)

def isOctalDigit (c : Char) : Bool :=
  '0' ≤ c && c ≤ '7'

def isBinaryDigit (c : Char) : Bool :=
  c == '0' || c == '1'

def wholeNumber : Parser Datum
  | '0' :: 'x' :: rest => based 16 isHexDigit rest
  | '0' :: 'o' :: rest => based 8 isOctalDigit rest
  | '0' :: 'b' :: rest => based 2 isBinaryDigit rest
  | cs => do
    let ((negative, digits), rest) ← decimalWhole cs
    let n : Int := valueOf 10 digits
    let d ← whole64? (if negative then -n else n)
    some (d, rest)

def fraction : Parser (List Char) := fun cs => do
  let (_, cs) ← Parser.char '.' cs
  digitRun Char.isDigit cs

def exponent : Parser Int := fun cs => do
  let (_, cs) ← Parser.satisfy (fun c => c == 'e' || c == 'E') cs
  let (negative, cs) := Numeral.sign cs
  let (digits, rest) ← digitRun Char.isDigit cs
  let n : Int := valueOf 10 digits
  some (if negative then -n else n, rest)

/-- A number with a fraction or an exponent. One too great for double precision is refused, unless
it is negative. -/
def decimalReal : Parser Datum := fun cs => do
  let ((negative, digits), cs) ← decimalWhole cs
  let after := fraction cs
  let (places, cs') := after.getD ([], cs)
  let power := exponent cs'
  let (e, rest) := power.getD (0, cs')
  if after.isNone && power.isNone then none
  else
    let d : Decimal := ⟨negative, valueOf 10 (digits ++ places), e - places.length⟩
    let x := d.toBinary double
    if x = .infinite false then none else some (.real x, rest)

def specialReal : Parser Datum := fun cs =>
  let (negative, cs) := Numeral.sign cs
  match Parser.word "inf".toList cs with
  | some (_, rest) => some (.real (.infinite negative), rest)
  | none => (Parser.word "nan".toList cs).map fun r => (.real .nan, r.2)

def bounded (digits low high : Nat) : Parser Nat := fun cs => do
  let (text, rest) ← Parser.exactly Char.isDigit digits cs
  let n := valueOf 10 text
  if low ≤ n ∧ n ≤ high then some (n, rest) else none

def isLeapYear (year : Nat) : Bool :=
  year % 4 == 0 && (year % 100 != 0 || year % 400 == 0)

def daysInMonth (year month : Nat) : Nat :=
  if month == 2 then (if isLeapYear year then 29 else 28)
  else if [4, 6, 9, 11].contains month then 30
  else 31

def date : Parser Unit := fun cs => do
  let (year, cs) ← bounded 4 0 9999 cs
  let (_, cs) ← Parser.char '-' cs
  let (month, cs) ← bounded 2 1 12 cs
  let (_, cs) ← Parser.char '-' cs
  let (_, rest) ← bounded 2 1 (daysInMonth year month) cs
  some ((), rest)

/-- A time of day; a minute may have a leap second, and a second may have a fraction. -/
def clockTime : Parser Unit := fun cs => do
  let (_, cs) ← bounded 2 0 23 cs
  let (_, cs) ← Parser.char ':' cs
  let (_, cs) ← bounded 2 0 59 cs
  let (_, cs) ← Parser.char ':' cs
  let (_, cs) ← bounded 2 0 60 cs
  match cs with
  | '.' :: c :: rest => if c.isDigit then some ((), rest.dropWhile Char.isDigit) else some ((), cs)
  | _ => some ((), cs)

def offset : Parser Unit := fun cs => do
  let (mark, cs) ← Parser.satisfy (fun c => ['Z', 'z', '+', '-'].contains c) cs
  if mark == 'Z' || mark == 'z' then some ((), cs)
  else
    let (_, cs) ← bounded 2 0 23 cs
    let (_, cs) ← Parser.char ':' cs
    let (_, rest) ← bounded 2 0 59 cs
    some ((), rest)

def timeAfterDate : Parser Unit := fun cs => do
  let (_, cs) ← Parser.satisfy (fun c => ['T', 't', ' '].contains c) cs
  let (_, cs) ← clockTime cs
  some ((), ((offset cs).map Prod.snd).getD cs)

def dateTime : Parser Datum := fun cs => do
  let rest ←
    match date cs with
    | some (_, rest) => some (((timeAfterDate rest).map Prod.snd).getD rest)
    | none => (clockTime cs).map Prod.snd
  some (.time (String.ofList (cs.take (cs.length - rest.length))), rest)

def truth : Parser Datum := fun cs =>
  match Parser.word "true".toList cs with
  | some (_, rest) => some (.boolean true, rest)
  | none => (Parser.word "false".toList cs).map fun r => (.boolean false, r.2)

def scalar : Parser Datum :=
  Parser.orElse (fun cs => (string cs).map fun r => (.text r.1, r.2))
    (Parser.orElse truth
      (Parser.orElse dateTime (Parser.orElse decimalReal (Parser.orElse specialReal wholeNumber))))

end AbilityScript.Toml
