import AbilityScript.Value
import Mathlib.Tactic.ByContra

namespace AbilityScript

open Text

def formatCodes : List Char :=
  "0123456789abcdefABCDEFklmnorKLMNOR".toList

/-- At this place of the text there is an ampersand, and then a code character. -/
def MarksCode (cs : List Char) (i : Nat) : Prop :=
  cs[i]? = some '&' ∧ ∃ code ∈ formatCodes, cs[i + 1]? = some code

instance (cs : List Char) (i : Nat) : Decidable (MarksCode cs i) :=
  have : Decidable (∃ code ∈ formatCodes, cs[i + 1]? = some code) := List.decidableBEx _ _
  inferInstanceAs (Decidable (_ ∧ _))

theorem toNat_lt_of_isFormatCode {c : Char} (h : isFormatCode c = true) : c.toNat < 128 := by
  by_contra hc
  have hnocapital : ¬ (c.val ≥ 'A'.val ∧ c.val ≤ 'Z'.val) := by
    rintro ⟨-, hle⟩
    have hsmall : c.toNat ≤ 90 := UInt32.le_iff_toNat_le.1 hle
    omega
  have hlower : c.toLower = c := dif_neg hnocapital
  simp only [isFormatCode, isHexDigit, hlower, Bool.or_eq_true, Bool.and_eq_true,
    decide_eq_true_eq, Char.isDigit_iff_toNat] at h
  rcases h with ((⟨-, hdigit⟩ | ⟨-, hsmall⟩) | ⟨-, hcapital⟩) | hletter
  · have hle : c.toNat ≤ 57 := hdigit
    omega
  · have hle : c.toNat ≤ 102 := UInt32.le_iff_toNat_le.1 hsmall
    omega
  · have hle : c.toNat ≤ 70 := UInt32.le_iff_toNat_le.1 hcapital
    omega
  · have hletters : ∀ letter ∈ ['k', 'l', 'm', 'n', 'o', 'r'], letter.toNat < 128 := by simp
    exact hc (hletters c (List.contains_iff_mem.1 hletter))

theorem isFormatCode_iff (c : Char) : isFormatCode c = true ↔ c ∈ formatCodes := by
  have hascii : ∀ n < 128, isFormatCode (Char.ofNat n) = true ↔ Char.ofNat n ∈ formatCodes := by
    decide +kernel
  have hcodes : formatCodes.all (fun code => code.toNat < 128) = true := by decide
  by_cases hc : c.toNat < 128
  · simpa only [Char.ofNat_toNat] using hascii c.toNat hc
  · refine iff_of_false (mt toNat_lt_of_isFormatCode hc) fun hcode => hc ?_
    simpa only [decide_eq_true_eq] using List.all_eq_true.1 hcodes c hcode

theorem length_translateFormatCodes (cs : List Char) :
    (translateFormatCodes cs).length = cs.length := by
  induction cs using translateFormatCodes.induct with
  | case1 => rfl
  | case2 c => rfl
  | case3 c next rest ih => rw [translateFormatCodes, List.length_cons, ih, ← List.length_cons]

/-- Each character depends on its own place of the text and the next. -/
theorem getElem?_translateFormatCodes (cs : List Char) (i : Nat) :
    (translateFormatCodes cs)[i]? = if MarksCode cs i then some '§' else cs[i]? := by
  induction cs using translateFormatCodes.induct generalizing i with
  | case1 => simp [translateFormatCodes, MarksCode]
  | case2 c => simp [translateFormatCodes, MarksCode]
  | case3 c next rest ih =>
    cases i with
    | zero =>
      have hmarks : MarksCode (c :: next :: rest) 0 ↔ c = '&' ∧ isFormatCode next = true := by
        simp [MarksCode, isFormatCode_iff]
      simp only [translateFormatCodes, List.getElem?_cons_zero, hmarks, Bool.and_eq_true,
        beq_iff_eq]
      split <;> rfl
    | succ i =>
      have hmarks : MarksCode (c :: next :: rest) (i + 1) ↔ MarksCode (next :: rest) i := Iff.rfl
      simp only [translateFormatCodes, List.getElem?_cons_succ, ih, hmarks]

/-- An ampersand that is left has no code after it, for the next character was none before, and has
become no code if it has changed. -/
theorem not_marksCode_translateFormatCodes (cs : List Char) (i : Nat) :
    ¬ MarksCode (translateFormatCodes cs) i := by
  rintro ⟨hmark, code, hcode, hnext⟩
  rw [getElem?_translateFormatCodes] at hmark hnext
  have hsection : '§' ∉ formatCodes := by decide
  split at hmark
  case isTrue => cases hmark
  case isFalse hplain =>
    split at hnext
    case isTrue =>
      obtain rfl : '§' = code := Option.some.inj hnext
      exact hsection hcode
    case isFalse => exact hplain ⟨hmark, code, hcode, hnext⟩

theorem translateFormatCodes_eq_self {cs : List Char} (h : ∀ i, ¬ MarksCode cs i) :
    translateFormatCodes cs = cs := by
  refine List.ext_getElem? fun i => ?_
  rw [getElem?_translateFormatCodes, if_neg (h i)]

/-- Any text is read as a string of as many characters. There is a section sign where the text has
one or has an ampersand before a code, and the character of the text elsewhere; no ampersand before
a code is left, and the string is read as itself. -/
theorem strings_translate_format_codes (text : String) :
    ∃ string, PrimitiveKind.string.parse? text = some (.string string) ∧
      string.toList.length = text.toList.length ∧
      (∀ i : Nat, string.toList[i]? = some '§' ↔
        MarksCode text.toList i ∨ text.toList[i]? = some '§') ∧
      (∀ i : Nat, string.toList[i]? ≠ some '§' → string.toList[i]? = text.toList[i]?) ∧
      (∀ i, ¬ MarksCode string.toList i) ∧
      PrimitiveKind.string.parse? string = some (.string string) := by
  let string := String.ofList (translateFormatCodes text.toList)
  have hstring : string.toList = translateFormatCodes text.toList := String.toList_ofList
  have hplain : ∀ i, ¬ MarksCode string.toList i := by
    rw [hstring]
    exact not_marksCode_translateFormatCodes text.toList
  refine ⟨string, rfl, ?_, fun i => ?_, fun i hother => ?_, hplain, ?_⟩
  · rw [hstring, length_translateFormatCodes]
  · rw [hstring, getElem?_translateFormatCodes]
    by_cases hmarks : MarksCode text.toList i <;> simp [hmarks]
  · rw [hstring, getElem?_translateFormatCodes] at hother ⊢
    split at hother
    case isTrue => exact absurd rfl hother
    case isFalse hunmarked => rw [if_neg hunmarked]
  · rw [PrimitiveKind.parse?, translateFormatCodes_eq_self hplain, String.ofList_toList]

-- Of a run of ampersands the last marks the code, and the one at the end of the text marks none.
example : PrimitiveKind.string.parse? "&&Kx &" = some (.string "&§Kx &") := by decide +kernel

end AbilityScript
