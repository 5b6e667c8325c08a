namespace AbilityScript.Text

/-- The characters with the property `White_Space`. -/
def isBlank (c : Char) : Bool :=
  let n := c.toNat
  (0x9 ≤ n && n ≤ 0xD) || n == 0x20 || n == 0x85 || n == 0xA0 || n == 0x1680 ||
    (0x2000 ≤ n && n ≤ 0x200A) || n == 0x2028 || n == 0x2029 || n == 0x202F || n == 0x205F ||
    n == 0x3000

def trimChars (cs : List Char) : List Char :=
  ((cs.dropWhile isBlank).reverse.dropWhile isBlank).reverse

def trim (s : String) : String :=
  String.ofList (trimChars s.toList)

@[simp] theorem toList_trim (s : String) : (trim s).toList = trimChars s.toList := by
  simp [trim]

@[simp] theorem trimChars_nil : trimChars [] = [] := rfl

/-- Where the first blanks end, there is no blank. -/
theorem isBlank_head?_dropWhile {cs : List Char} {c : Char}
    (h : (cs.dropWhile isBlank).head? = some c) : isBlank c = false := by
  have hstop := List.head?_dropWhile_not isBlank cs
  rw [h] at hstop
  exact hstop

/-- The trimmed text is a beginning of the text without its first blanks. -/
theorem trimChars_prefix (cs : List Char) : trimChars cs <+: cs.dropWhile isBlank := by
  have h : (cs.dropWhile isBlank).reverse.dropWhile isBlank <:+ (cs.dropWhile isBlank).reverse :=
    List.dropWhile_suffix isBlank
  exact List.reverse_suffix.1 (by simpa [trimChars] using h)

theorem isBlank_head?_trimChars {cs : List Char} {c : Char}
    (h : (trimChars cs).head? = some c) : isBlank c = false := by
  obtain ⟨after, hafter⟩ := trimChars_prefix cs
  refine @isBlank_head?_dropWhile cs c ?_
  rw [← hafter, List.head?_append, h]
  rfl

theorem isBlank_getLast?_trimChars {cs : List Char} {c : Char}
    (h : (trimChars cs).getLast? = some c) : isBlank c = false := by
  rw [trimChars, List.getLast?_reverse] at h
  exact isBlank_head?_dropWhile h

theorem dropWhile_eq_self {cs : List Char} (h : ∀ c, cs.head? = some c → isBlank c = false) :
    cs.dropWhile isBlank = cs := by
  cases cs with
  | nil => rfl
  | cons c rest => simp [h c rfl]

/-- A text that neither starts nor ends with a blank is as it is when trimmed. -/
theorem trimChars_eq_self {cs : List Char} (hfirst : ∀ c, cs.head? = some c → isBlank c = false)
    (hlast : ∀ c, cs.getLast? = some c → isBlank c = false) : trimChars cs = cs := by
  have hback : cs.reverse.dropWhile isBlank = cs.reverse :=
    dropWhile_eq_self fun c hc => hlast c (by rwa [List.head?_reverse] at hc)
  rw [trimChars, dropWhile_eq_self hfirst, hback, List.reverse_reverse]

end AbilityScript.Text
