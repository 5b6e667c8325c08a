import AbilityScript.Value
import Mathlib.Data.Nat.Digits.Defs

namespace AbilityScript

namespace Number

inductive WritesNat : List Char → Nat → Prop
  | digits {digits : List Nat} (nonempty : digits ≠ []) (small : ∀ d ∈ digits, d < 10) :
      WritesNat (digits.map Nat.digitChar) (Nat.ofDigits 10 digits.reverse)

inductive Denotes : List Char → Int → Prop
  | plain {cs : List Char} {n : Nat} (written : WritesNat cs n) : Denotes cs n
  | plus {cs : List Char} {n : Nat} (written : WritesNat cs n) : Denotes ('+' :: cs) n
  | minus {cs : List Char} {n : Nat} (written : WritesNat cs n) : Denotes ('-' :: cs) (-n)

theorem digitChar_sub_of_isDigit {c : Char} (h : c.isDigit = true) :
    c.toNat - '0'.toNat < 10 ∧ Nat.digitChar (c.toNat - '0'.toNat) = c := by
  have hrange : 48 ≤ c.toNat ∧ c.toNat ≤ 57 := Char.isDigit_iff_toNat.1 h
  have hsmall : c.toNat - '0'.toNat < 10 := by
    show c.toNat - 48 < 10
    omega
  refine ⟨hsmall, Char.toNat_inj.1 ?_⟩
  rw [Nat.toNat_digitChar_of_lt_ten hsmall]
  show 48 + (c.toNat - 48) = c.toNat
  omega

/-- Taking up digits one by one, each time ten times what there was, comes to what they write. -/
theorem digitsValue_map_digitChar {digits : List Nat} (small : ∀ d ∈ digits, d < 10) :
    digitsValue (digits.map Nat.digitChar) = Nat.ofDigits 10 digits.reverse := by
  have hfold : ∀ acc,
      (digits.map Nat.digitChar).foldl (fun n c => 10 * n + (c.toNat - '0'.toNat)) acc =
        digits.foldl (fun n d => d + 10 * n) acc := by
    induction digits with
    | nil =>
      intro acc
      rfl
    | cons d digits ih =>
      intro acc
      obtain ⟨hd, hlater⟩ := List.forall_mem_cons.1 small
      have hdigit : d.digitChar.toNat - '0'.toNat = d := Nat.toNat_digitChar_sub_48_of_lt_ten hd
      rw [List.map_cons, List.foldl_cons, List.foldl_cons, hdigit, Nat.add_comm, ih hlater]
  rw [digitsValue, hfold, Nat.ofDigits_eq_foldr, List.foldr_reverse]
  rfl

theorem digits?_eq_some_iff (cs : List Char) (n : Nat) :
    digits? cs = some n ↔ ∃ digits : List Nat, (∀ d ∈ digits, d < 10) ∧
      cs = digits.map Nat.digitChar ∧ n = Nat.ofDigits 10 digits.reverse := by
  constructor
  · intro h
    rw [digits?, Option.ite_none_right_eq_some, List.all_eq_true] at h
    obtain ⟨hdigits, hn⟩ := h
    have hback : cs = (cs.map fun c => c.toNat - '0'.toNat).map Nat.digitChar := by
      rw [List.map_map]
      refine (List.map_id cs).symm.trans (List.map_congr_left fun c hc => ?_)
      exact (digitChar_sub_of_isDigit (hdigits c hc)).2.symm
    have hsmall : ∀ d ∈ cs.map fun c => c.toNat - '0'.toNat, d < 10 := by
      intro d hd
      obtain ⟨c, hc, rfl⟩ := List.mem_map.1 hd
      exact (digitChar_sub_of_isDigit (hdigits c hc)).1
    refine ⟨_, hsmall, hback, ?_⟩
    rw [← digitsValue_map_digitChar hsmall, ← hback]
    exact (Option.some.inj hn).symm
  · rintro ⟨digits, hsmall, rfl, rfl⟩
    have hall : (digits.map Nat.digitChar).all Char.isDigit = true := by
      rw [List.all_map, List.all_eq_true]
      intro d hd
      simp [hsmall d hd]
    rw [digits?, if_pos hall, digitsValue_map_digitChar hsmall]

theorem natural?_eq_some_iff (cs : List Char) (n : Nat) :
    natural? cs = some n ↔ WritesNat cs n := by
  cases cs with
  | nil =>
    refine ⟨fun h => ?_, fun h => ?_⟩
    · cases h
    · generalize hcs : ([] : List Char) = cs at h
      obtain ⟨nonempty, -⟩ := h
      exact absurd (List.map_eq_nil_iff.1 hcs.symm) nonempty
  | cons c cs =>
    rw [natural?, digits?_eq_some_iff]
    constructor
    · rintro ⟨digits, hsmall, hcs, rfl⟩
      rw [hcs]
      refine .digits ?_ hsmall
      rintro rfl
      cases hcs
    · generalize c :: cs = text
      rintro ⟨nonempty, small⟩
      exact ⟨_, small, rfl, rfl⟩

/-- No sign is a digit. -/
theorem WritesNat.isDigit_of_mem {cs : List Char} {n : Nat} (h : WritesNat cs n) :
    ∀ c ∈ cs, c.isDigit = true := by
  obtain ⟨nonempty, small⟩ := h
  intro c hc
  obtain ⟨d, hd, rfl⟩ := List.mem_map.1 hc
  simp [small d hd]

/-- The reader takes a text for the number that it denotes, and for none if there is none. -/
theorem whole?_eq_some_iff (cs : List Char) (n : Int) : whole? cs = some n ↔ Denotes cs n := by
  constructor
  · intro h
    unfold whole? at h
    split at h
    case h_1 rest =>
      obtain ⟨m, hm, rfl⟩ := Option.map_eq_some_iff.1 h
      exact .plus ((natural?_eq_some_iff rest m).1 hm)
    case h_2 rest =>
      obtain ⟨k, hk, rfl⟩ := Option.map_eq_some_iff.1 h
      obtain ⟨m, hm, hmk⟩ := Option.bind_eq_some_iff.1 hk
      obtain rfl : (m : Int) = k := Option.some.inj hmk
      exact .minus ((natural?_eq_some_iff rest m).1 hm)
    case h_3 =>
      obtain ⟨m, hm, rfl⟩ := Option.map_eq_some_iff.1 h
      exact .plain ((natural?_eq_some_iff cs m).1 hm)
  · intro h
    cases h with
    | plain written =>
      have hread := (natural?_eq_some_iff _ _).2 written
      unfold whole?
      -- A sign is no digit, so the text is read from its first character on.
      split
      · exact absurd (written.isDigit_of_mem '+' List.mem_cons_self) (by decide)
      · exact absurd (written.isDigit_of_mem '-' List.mem_cons_self) (by decide)
      · rw [hread]
        rfl
    | plus written =>
      rw [whole?, (natural?_eq_some_iff _ _).2 written]
      rfl
    | minus written =>
      rw [whole?, (natural?_eq_some_iff _ _).2 written]
      rfl

/-- A text denotes one number at most. -/
theorem Denotes.unique {cs : List Char} {m n : Int} (hm : Denotes cs m) (hn : Denotes cs n) :
    m = n :=
  Option.some.inj (((whole?_eq_some_iff cs m).2 hm).symm.trans ((whole?_eq_some_iff cs n).2 hn))

/-- The numbers of a width, told by the least and the greatest of them. -/
theorem Width.holds_iff (w : Width) (n : Int) :
    w.Holds n ↔ -(2 ^ (w.bits - 1)) ≤ n ∧ n ≤ 2 ^ (w.bits - 1) - 1 := by
  cases w <;> simp only [Holds, bits] <;> omega

theorem Width.parse?_eq_some_iff {w : Width} (text : String) (n : Whole w) :
    w.parse? text = some n ↔ Denotes text.toList n.val := by
  rw [← whole?_eq_some_iff]
  refine ⟨Width.whole?_of_parse?, fun h => ?_⟩
  rw [Width.parse?, h, Option.bind_some, dif_pos n.property]

theorem Width.parse?_eq_none_iff (w : Width) (text : String) :
    w.parse? text = none ↔ ∀ n, Denotes text.toList n → ¬ w.Holds n := by
  rw [Option.eq_none_iff_forall_ne_some]
  constructor
  · intro h n hdenotes hholds
    exact h ⟨n, hholds⟩ ((w.parse?_eq_some_iff text ⟨n, hholds⟩).2 hdenotes)
  · intro h n hparse
    exact h n.val ((w.parse?_eq_some_iff text n).1 hparse) n.property

end Number

namespace PrimitiveKind

open Number

/-- A text is a whole number of a width just if it denotes one from the least to the greatest that
the width has. -/
theorem isSome_parse?_whole_iff (w : Width) (text : String) :
    ((whole w).parse? text).isSome ↔
      ∃ n, Denotes text.toList n ∧ -(2 ^ (w.bits - 1)) ≤ n ∧ n ≤ 2 ^ (w.bits - 1) - 1 := by
  have hread : ((whole w).parse? text).isSome ↔ ∃ n, w.parse? text = some n := by
    rw [← Option.isSome_iff_exists]
    exact Bool.eq_iff_iff.1 Option.isSome_map
  rw [hread]
  simp only [Width.parse?_eq_some_iff, ← Width.holds_iff]
  exact ⟨fun ⟨n, hn⟩ => ⟨n.val, hn, n.property⟩, fun ⟨n, hn, hholds⟩ => ⟨⟨n, hholds⟩, hn⟩⟩

/-- The value that is read is the number that the text denotes. -/
theorem asWhole?_eq_some_iff {w : Width} {text : String} {v : Value}
    (h : (whole w).parse? text = some v) (n : Int) :
    v.asWhole? = some n ↔ Denotes text.toList n := by
  obtain ⟨m, hparse, rfl⟩ := Option.map_eq_some_iff.1 h
  have hdenotes := (Width.parse?_eq_some_iff text m).1 hparse
  constructor
  · intro hn
    obtain rfl : m.val = n := Option.some.inj hn
    exact hdenotes
  · intro hn
    exact congrArg some (hdenotes.unique hn)

/-- What a width reads, every wider one reads as the same number. -/
theorem parse?_whole_of_bits_le {w wider : Width} (hwider : w.bits ≤ wider.bits) {text : String}
    {v : Value} (h : (whole w).parse? text = some v) :
    ∃ v', (whole wider).parse? text = some v' ∧ v'.asWhole? = v.asWhole? := by
  obtain ⟨n, hparse, rfl⟩ := Option.map_eq_some_iff.1 h
  have hdenotes := (Width.parse?_eq_some_iff text n).1 hparse
  have hwide := (Width.parse?_eq_some_iff text ⟨n.val, n.property.of_bits_le hwider⟩).2 hdenotes
  exact ⟨_, congrArg (Option.map (Value.whole wider)) hwide, rfl⟩

end PrimitiveKind

end AbilityScript
