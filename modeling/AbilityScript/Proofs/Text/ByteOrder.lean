import Mathlib.Data.List.Basic
import Mathlib.Order.Basic

/-!
The order of texts, which compares their characters, is the order of their bytes in UTF-8: of two
characters the smaller has the smaller encoding, and neither encoding begins with the other.
-/
namespace AbilityScript.Text

def bytes (s : String) : List UInt8 :=
  s.toUTF8.data.toList

theorem bytes_eq (s : String) : bytes s = s.toList.flatMap String.utf8EncodeChar := by
  have hencode : s.toByteArray = s.toList.utf8Encode := by
    rw [← String.toByteArray_ofList, String.ofList_toList]
  rw [bytes, String.toUTF8, hencode, List.utf8Encode, List.data_toByteArray]

/-- Lists of bytes compare as the numbers that the bytes are made of, as long as these fit. -/
theorem ofNat_cons_lt_iff {m n : Nat} (hm : m < 256) (hn : n < 256) (xs ys : List UInt8) :
    UInt8.ofNat m :: xs < UInt8.ofNat n :: ys ↔ m < n ∨ m = n ∧ xs < ys := by
  rw [List.cons_lt_cons_iff, UInt8.lt_iff_toNat_lt, ← UInt8.toNat_inj, UInt8.toNat_ofNat',
    UInt8.toNat_ofNat', Nat.mod_eq_of_lt hm, Nat.mod_eq_of_lt hn]

/-- The encoding of a smaller character is smaller, whatever follows either. -/
theorem encode_lt {c d : Char} (h : c < d) (xs ys : List UInt8) :
    String.utf8EncodeChar c ++ xs < String.utf8EncodeChar d ++ ys := by
  have hval : c.val.toNat < d.val.toNat := UInt32.lt_iff_toNat_lt.1 h
  have hbound : d.val.toNat < 1114112 := by
    rcases d.valid with hd | hd <;> omega
  unfold String.utf8EncodeChar
  dsimp only
  generalize c.val.toNat = v at hval
  generalize d.val.toNat = w at hval hbound
  have hlast : v / 64 < w / 64 ∨ v / 64 = w / 64 ∧ v % 64 < w % 64 := by omega
  have hthird : v / 64 < w / 64 →
      v / 4096 < w / 4096 ∨ v / 4096 = w / 4096 ∧ v / 64 % 64 < w / 64 % 64 := by omega
  have hsecond : v / 4096 < w / 4096 →
      v / 262144 < w / 262144 ∨ v / 262144 = w / 262144 ∧ v / 4096 % 64 < w / 4096 % 64 := by omega
  have hfirst : v / 262144 % 8 = v / 262144 := by omega
  have hfirst' : w / 262144 % 8 = w / 262144 := by omega
  -- The lengths differ in the first byte already; of one length, the digits to base 64 decide.
  split_ifs <;> simp (disch := omega) only [List.cons_append, List.nil_append, ofNat_cons_lt_iff,
    hfirst, hfirst'] <;> omega

theorem encodeAll_lt {cs ds : List Char} (h : cs < ds) :
    cs.flatMap String.utf8EncodeChar < ds.flatMap String.utf8EncodeChar := by
  induction cs generalizing ds with
  | nil =>
    cases ds with
    | nil => cases h
    | cons d ds =>
      have hsome : String.utf8EncodeChar d ≠ [] := String.utf8EncodeChar_ne_nil
      obtain ⟨first, rest, hencode⟩ := List.exists_cons_of_ne_nil hsome
      rw [List.flatMap_cons, hencode]
      exact List.nil_lt_cons _ _
  | cons c cs ih =>
    cases ds with
    | nil => cases h
    | cons d ds =>
      rw [List.flatMap_cons, List.flatMap_cons]
      rcases List.cons_lt_cons_iff.1 h with hlt | ⟨rfl, hrest⟩
      · exact encode_lt hlt _ _
      · exact List.append_left_lt (ih hrest)

/-- Texts are in order just when their bytes are. -/
theorem lt_iff_bytes (a b : String) : a < b ↔ bytes a < bytes b := by
  have hmono {s t : String} (h : s < t) : bytes s < bytes t := by
    rw [bytes_eq, bytes_eq]
    exact encodeAll_lt h
  constructor
  · exact hmono
  · intro h
    rcases Std.lt_trichotomy a b with hlt | heq | hgt
    · exact hlt
    · exact absurd (heq ▸ h) (List.lt_irrefl _)
    · exact absurd h (List.lt_asymm (hmono hgt))

end AbilityScript.Text
