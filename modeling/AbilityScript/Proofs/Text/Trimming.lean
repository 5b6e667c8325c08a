import AbilityScript.Text.Blank
import AbilityScript.Text.Word
import Mathlib.Data.List.TakeWhile

namespace AbilityScript.Text

def Blanks (cs : List Char) : Prop :=
  ∀ c ∈ cs, isBlank c = true

theorem Blanks.reverse {cs : List Char} (h : Blanks cs) : Blanks cs.reverse :=
  fun c hc => h c (List.mem_reverse.1 hc)

theorem blanks_takeWhile (cs : List Char) : Blanks (cs.takeWhile isBlank) :=
  fun _ hc => List.mem_takeWhile_imp hc

theorem trimChars_blanks_append {blanks : List Char} (h : Blanks blanks) (cs : List Char) :
    trimChars (blanks ++ cs) = trimChars cs := by
  rw [trimChars, List.dropWhile_append_of_pos h, trimChars]

theorem trimChars_append_blanks {blanks : List Char} (h : Blanks blanks) (cs : List Char) :
    trimChars (cs ++ blanks) = trimChars cs := by
  by_cases hcs : cs.dropWhile isBlank = []
  · have hblanks : blanks.dropWhile isBlank = [] := List.dropWhile_eq_nil_iff.2 h
    have hall : ∀ c ∈ cs, isBlank c = true := List.dropWhile_eq_nil_iff.1 hcs
    rw [trimChars, List.dropWhile_append_of_pos hall, hblanks, trimChars, hcs]
  · rw [trimChars, List.dropWhile_append, if_neg (by simpa using hcs), List.reverse_append,
      List.dropWhile_append_of_pos h.reverse, trimChars]

/-- Trimming takes blanks away at both ends, and nothing else. -/
theorem exists_blanks_trimChars (cs : List Char) :
    ∃ before after, Blanks before ∧ Blanks after ∧ cs = before ++ trimChars cs ++ after := by
  let rest := cs.dropWhile isBlank
  have hback : rest = trimChars cs ++ (rest.reverse.takeWhile isBlank).reverse := by
    rw [trimChars, ← List.reverse_append, List.takeWhile_append_dropWhile, List.reverse_reverse]
  refine ⟨cs.takeWhile isBlank, (rest.reverse.takeWhile isBlank).reverse, blanks_takeWhile cs,
    (blanks_takeWhile _).reverse, ?_⟩
  rw [List.append_assoc, ← hback, List.takeWhile_append_dropWhile]

theorem trimChars_eq_nil_iff (cs : List Char) : trimChars cs = [] ↔ Blanks cs := by
  constructor
  · intro h c hc
    obtain ⟨before, after, hbefore, hafter, hcs⟩ := exists_blanks_trimChars cs
    rw [h, List.append_nil] at hcs
    rw [hcs] at hc
    exact (List.mem_append.1 hc).elim (hbefore c) (hafter c)
  · intro h
    simpa using trimChars_append_blanks h []

def blankPoints : List Nat :=
  [0x9, 0xA, 0xB, 0xC, 0xD, 0x20, 0x85, 0xA0, 0x1680, 0x2000, 0x2001, 0x2002, 0x2003, 0x2004,
    0x2005, 0x2006, 0x2007, 0x2008, 0x2009, 0x200A, 0x2028, 0x2029, 0x202F, 0x205F, 0x3000]

theorem mem_blankPoints {c : Char} (h : isBlank c = true) : c.toNat ∈ blankPoints := by
  simp only [isBlank, Bool.or_eq_true, Bool.and_eq_true, decide_eq_true_eq, beq_iff_eq] at h
  simp only [blankPoints, List.mem_cons, List.not_mem_nil, or_false]
  omega

/-- No blank is a character of a word. -/
theorem isWordChar_of_isBlank {c : Char} (h : isBlank c = true) : isWordChar c = false := by
  -- The blanks are few, so the tables of word characters are searched for each.
  have htable : ∀ n ∈ blankPoints, isWordChar (Char.ofNat n) = false := by decide +kernel
  have hc := htable c.toNat (mem_blankPoints h)
  rwa [Char.ofNat_toNat] at hc

/-- A text falls into a beginning all of whose characters have a property and a rest that does not
go on with such a character, and the two are what is taken and what is dropped. -/
theorem takeWhile_dropWhile_iff (p : Char → Bool) (cs first rest : List Char) :
    cs.takeWhile p = first ∧ cs.dropWhile p = rest ↔
      cs = first ++ rest ∧ (∀ c ∈ first, p c = true) ∧ ∀ c, rest.head? = some c → p c = false := by
  constructor
  · rintro ⟨rfl, rfl⟩
    refine ⟨List.takeWhile_append_dropWhile.symm, fun c hc => List.mem_takeWhile_imp hc, ?_⟩
    intro c hc
    have hstop := List.head?_dropWhile_not p cs
    rw [hc] at hstop
    exact hstop
  · rintro ⟨rfl, hfirst, hrest⟩
    have hnone : rest.takeWhile p = [] ∧ rest.dropWhile p = rest := by
      cases rest with
      | nil => exact ⟨rfl, rfl⟩
      | cons c rest => simp [hrest c rfl]
    rw [List.takeWhile_append_of_pos hfirst, List.dropWhile_append_of_pos hfirst, hnone.1, hnone.2,
      List.append_nil]
    exact ⟨rfl, rfl⟩

theorem exists_takeWhile_dropWhile (p : Char → Bool) (cs : List Char) :
    ∃ first rest, (cs.takeWhile p = first ∧ cs.dropWhile p = rest) ∧ cs = first ++ rest ∧
      (∀ c ∈ first, p c = true) ∧ ∀ c, rest.head? = some c → p c = false :=
  ⟨_, _, ⟨rfl, rfl⟩, (takeWhile_dropWhile_iff p cs _ _).1 ⟨rfl, rfl⟩⟩

end AbilityScript.Text
