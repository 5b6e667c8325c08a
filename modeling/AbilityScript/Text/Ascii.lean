namespace AbilityScript.Text

def lower (s : String) : String :=
  String.ofList (s.toList.map Char.toLower)

def sameLetters (a b : String) : Bool :=
  lower a == lower b

def isHexDigit (c : Char) : Bool :=
  c.isDigit || ('a' ≤ c && c ≤ 'f') || ('A' ≤ c && c ≤ 'F')

def hexDigitValue (c : Char) : Nat :=
  if c.isDigit then c.toNat - '0'.toNat
  else if 'a' ≤ c && c ≤ 'f' then c.toNat - 'a'.toNat + 10
  else if 'A' ≤ c && c ≤ 'F' then c.toNat - 'A'.toNat + 10
  else 0

@[simp] theorem toList_lower (s : String) : (lower s).toList = s.toList.map Char.toLower := by
  simp [lower]

theorem sameLetters_iff (a b : String) : sameLetters a b = true ↔ lower a = lower b := by
  simp [sameLetters]

theorem sameLetters_refl (a : String) : sameLetters a a = true := by
  simp [sameLetters]

end AbilityScript.Text
