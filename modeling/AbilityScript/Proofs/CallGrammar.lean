import AbilityScript.Call
import AbilityScript.Proofs.Text.Trimming

/-!
The grammar of calls, said without reading a line from left to right: a line is a call when it can
be laid out as a name and a text in parentheses, with blanks around them. The reader finds the
layout whenever there is one, and its tokens are the trimmed pieces between the commas.
-/
namespace AbilityScript.Call

open Text

structure Layout where
  before : List Char
  name : List Char
  between : List Char
  body : List Char
  after : List Char

namespace Layout

def line (l : Layout) : List Char :=
  l.before ++ (l.name ++ (l.between ++ '(' :: (l.body ++ ')' :: l.after)))

structure Valid (l : Layout) : Prop where
  before : Blanks l.before
  named : l.name ≠ []
  word : ∀ c ∈ l.name, isWordChar c = true
  between : Blanks l.between
  body : ∀ c ∈ l.body, isBodyChar c = true
  after : Blanks l.after

end Layout

/-- The tokens of a text between parentheses: none if it is blank, otherwise the trimmed pieces
that the commas divide it into, empty ones too. -/
inductive Tokens (body : List Char) : List String → Prop
  | none (blank : Blanks body) : Tokens body []
  | some (full : ¬ Blanks body) (pieces : List (List Char)) (nonempty : pieces ≠ [])
      (divided : [','].intercalate pieces = body) (whole : ∀ piece ∈ pieces, ',' ∉ piece) :
      Tokens body (pieces.map fun piece => String.ofList (trimChars piece))

def Reads (line : String) (call : Call) : Prop :=
  ∃ l : Layout, l.Valid ∧ l.line = line.toList ∧ l.name = call.name.toList ∧
    Tokens l.body call.tokens

theorem pieces_eq_splitOn (separator : Char) (cs : List Char) :
    pieces separator cs = cs.splitOn separator := by
  induction cs with
  | nil => rfl
  | cons c cs ih =>
    rw [pieces, ih, List.splitOn_cons_eq_if_modifyHead]
    by_cases hc : c = separator
    · simp [hc]
    · obtain ⟨first, others, hsplit⟩ :=
        List.exists_cons_of_ne_nil (List.splitOn_ne_nil separator cs)
      simp [hc, hsplit]

theorem notMem_of_mem_splitOn {separator : Char} {cs piece : List Char}
    (h : piece ∈ cs.splitOn separator) : separator ∉ piece := by
  induction cs generalizing piece with
  | nil =>
    obtain rfl : piece = [] := by simpa using h
    exact List.not_mem_nil
  | cons c cs ih =>
    obtain ⟨first, others, hsplit⟩ :=
      List.exists_cons_of_ne_nil (List.splitOn_ne_nil separator cs)
    rw [hsplit] at ih
    rw [List.splitOn_cons_eq_if_modifyHead, hsplit] at h
    by_cases hc : c = separator
    · rw [if_pos (by simpa using hc)] at h
      rcases List.mem_cons.1 h with rfl | hpiece
      · exact List.not_mem_nil
      · exact ih hpiece
    · rw [if_neg (by simpa using hc), List.modifyHead_cons] at h
      rcases List.mem_cons.1 h with rfl | hpiece
      · intro hmem
        rcases List.mem_cons.1 hmem with rfl | hfirst
        · exact hc rfl
        · exact ih List.mem_cons_self hfirst
      · exact ih (List.mem_cons_of_mem _ hpiece)

/-- A text without separators before another becomes part of its first piece. -/
theorem splitOn_append_left {separator : Char} {cs : List Char} (h : separator ∉ cs)
    (later : List Char) : ∃ first others, later.splitOn separator = first :: others ∧
      (cs ++ later).splitOn separator = (cs ++ first) :: others := by
  induction cs with
  | nil =>
    obtain ⟨first, others, hsplit⟩ :=
      List.exists_cons_of_ne_nil (List.splitOn_ne_nil separator later)
    exact ⟨first, others, hsplit, hsplit⟩
  | cons c cs ih =>
    obtain ⟨first, others, hlater, hsplit⟩ := ih fun hmem => h (List.mem_cons_of_mem _ hmem)
    have hc : c ≠ separator := fun heq => h (heq ▸ List.mem_cons_self)
    refine ⟨first, others, hlater, ?_⟩
    simp [List.splitOn_cons_eq_if_modifyHead, hc, hsplit]

/-- A text without separators after another becomes part of its last piece. -/
theorem splitOn_append_right {separator : Char} {cs : List Char} (h : separator ∉ cs)
    (earlier : List Char) : ∃ others last, earlier.splitOn separator = others ++ [last] ∧
      (earlier ++ cs).splitOn separator = others ++ [last ++ cs] := by
  induction earlier with
  | nil => exact ⟨[], [], rfl, List.splitOn_eq_singleton h⟩
  | cons c earlier ih =>
    obtain ⟨others, last, hearlier, hsplit⟩ := ih
    rw [List.cons_append, List.splitOn_cons_eq_if_modifyHead, List.splitOn_cons_eq_if_modifyHead,
      hearlier, hsplit]
    by_cases hc : c = separator
    · exact ⟨[] :: others, last, by simp [hc], by simp [hc]⟩
    · cases others with
      | nil => exact ⟨[], c :: last, by simp [hc], by simp [hc]⟩
      | cons first others => exact ⟨(c :: first) :: others, last, by simp [hc], by simp [hc]⟩

theorem comma_notMem_of_blanks {cs : List Char} (h : Blanks cs) : ',' ∉ cs :=
  fun hmem => absurd (h ',' hmem) (by decide)

/-- Blanks at the ends of a body do not show in its trimmed pieces. -/
theorem map_trimChars_splitOn_trimChars (body : List Char) :
    ((trimChars body).splitOn ',').map trimChars = (body.splitOn ',').map trimChars := by
  obtain ⟨before, after, hbefore, hafter, hbody⟩ := exists_blanks_trimChars body
  obtain ⟨others, last, hinner, hright⟩ :=
    splitOn_append_right (comma_notMem_of_blanks hafter) (trimChars body)
  obtain ⟨first, rest, hright', hleft⟩ :=
    splitOn_append_left (comma_notMem_of_blanks hbefore) (trimChars body ++ after)
  have hmid : ((trimChars body ++ after).splitOn ',').map trimChars =
      ((trimChars body).splitOn ',').map trimChars := by
    rw [hinner, hright, List.map_append, List.map_append, List.map_singleton, List.map_singleton,
      trimChars_append_blanks hafter]
  calc ((trimChars body).splitOn ',').map trimChars
      = ((trimChars body ++ after).splitOn ',').map trimChars := hmid.symm
    _ = ((before ++ (trimChars body ++ after)).splitOn ',').map trimChars := by
        rw [hright', hleft, List.map_cons, List.map_cons, trimChars_blanks_append hbefore]
    _ = (body.splitOn ',').map trimChars := by rw [← List.append_assoc, ← hbody]

theorem tokensOf_of_blanks {body : List Char} (h : Blanks body) : tokensOf body = [] := by
  rw [tokensOf, (trimChars_eq_nil_iff body).2 h]

theorem tokensOf_of_not_blanks {body : List Char} (h : ¬ Blanks body) :
    tokensOf body = (body.splitOn ',').map fun piece => String.ofList (trimChars piece) := by
  have hne : trimChars body ≠ [] := fun hnil => h ((trimChars_eq_nil_iff body).1 hnil)
  have hpieces := congrArg (List.map String.ofList) (map_trimChars_splitOn_trimChars body)
  rw [List.map_map, List.map_map] at hpieces
  -- The reader trims the body before it divides it, which the trimmed pieces do not show.
  unfold tokensOf
  split
  case h_1 hnil => exact absurd hnil hne
  case h_2 => rw [pieces_eq_splitOn]; exact hpieces

/-- The tokens that are read are the only ones that a body has. -/
theorem tokens_iff (body : List Char) (tokens : List String) :
    Tokens body tokens ↔ tokensOf body = tokens := by
  constructor
  · rintro (blank | ⟨full, pieces, nonempty, divided, whole⟩)
    · exact tokensOf_of_blanks blank
    · rw [tokensOf_of_not_blanks full, ← divided, List.splitOn_intercalate ',' whole nonempty]
  · rintro rfl
    by_cases hblank : Blanks body
    · rw [tokensOf_of_blanks hblank]
      exact .none hblank
    · rw [tokensOf_of_not_blanks hblank]
      exact .some hblank _ (List.splitOn_ne_nil ',' body) (List.intercalate_splitOn ',')
        fun piece hpiece => notMem_of_mem_splitOn hpiece

theorem isBlank_of_isWordChar {c : Char} (h : isWordChar c = true) : isBlank c = false := by
  by_contra hblank
  rw [isWordChar_of_isBlank (by simpa using hblank)] at h
  cases h

/-- No part of a line runs on into the next: what comes after the first blanks is none, and what
comes after the name is no character of a word. -/
theorem Layout.Valid.boundaries {l : Layout} (h : l.Valid) :
    (∀ c, (l.name ++ (l.between ++ '(' :: (l.body ++ ')' :: l.after))).head? = some c →
      isBlank c = false) ∧
    ∀ c, (l.between ++ '(' :: (l.body ++ ')' :: l.after)).head? = some c →
      isWordChar c = false := by
  obtain ⟨first, letters, hname⟩ := List.exists_cons_of_ne_nil h.named
  constructor
  · intro c hc
    rw [hname] at hc
    obtain rfl : first = c := by simpa using hc
    exact isBlank_of_isWordChar (h.word first (hname ▸ List.mem_cons_self))
  · intro c hc
    cases hbetween : l.between with
    | nil =>
      obtain rfl : '(' = c := by simpa [hbetween] using hc
      decide
    | cons blank blanks =>
      obtain rfl : blank = c := by simpa [hbetween] using hc
      exact isWordChar_of_isBlank (h.between blank (hbetween ▸ List.mem_cons_self))

/-- The reader takes a line apart just as it is laid out. -/
theorem split?_line {l : Layout} (h : l.Valid) : split? l.line = some (l.name, l.body) := by
  have hblanks := (takeWhile_dropWhile_iff isBlank _ l.before _).2
    ⟨rfl, h.before, h.boundaries.1⟩
  have hname := (takeWhile_dropWhile_iff isWordChar _ l.name _).2
    ⟨rfl, h.word, h.boundaries.2⟩
  have hopen := (takeWhile_dropWhile_iff isBlank _ l.between
    ('(' :: (l.body ++ ')' :: l.after))).2 ⟨rfl, h.between, by rintro d ⟨⟩; decide⟩
  have hclose := (takeWhile_dropWhile_iff isBodyChar _ l.body (')' :: l.after)).2
    ⟨rfl, h.body, by rintro d ⟨⟩; decide⟩
  have hend : l.after.all isBlank = true := List.all_eq_true.2 h.after
  obtain ⟨first, letters, hnamed⟩ := List.exists_cons_of_ne_nil h.named
  rw [hnamed] at hblanks hname ⊢
  simp only [split?, Layout.line, hnamed, hblanks.2, hname.1, hname.2, hopen.2, hclose.1, hclose.2,
    hend, if_true]

/-- What the reader takes from a line is a layout of it. -/
theorem exists_layout_of_split? {line name body : List Char}
    (h : split? line = some (name, body)) :
    ∃ l : Layout, l.Valid ∧ l.line = line ∧ l.name = name ∧ l.body = body := by
  obtain ⟨before, rest, ⟨-, hrest⟩, rfl, hbefore, -⟩ := exists_takeWhile_dropWhile isBlank line
  obtain ⟨word, gap, ⟨hword, hgap⟩, rfl, hchars, -⟩ := exists_takeWhile_dropWhile isWordChar rest
  obtain ⟨between, opening, ⟨-, hopening⟩, rfl, hbetween, -⟩ :=
    exists_takeWhile_dropWhile isBlank gap
  simp only [split?, hrest, hword, hgap, hopening] at h
  -- Without a name, or without a parenthesis after it, nothing is read.
  split at h
  case h_1 | h_3 => cases h
  case h_2 inner hnamed =>
    obtain ⟨text, closing, ⟨htext, hclosing⟩, rfl, hplain, -⟩ :=
      exists_takeWhile_dropWhile isBodyChar inner
    rw [htext, hclosing] at h
    split at h
    case h_2 => cases h
    case h_1 after =>
      split at h
      case isFalse => cases h
      case isTrue hafter =>
        obtain ⟨rfl, rfl⟩ := Prod.mk.inj (Option.some.inj h)
        exact ⟨⟨before, word, between, text, after⟩, ⟨hbefore, fun hnil => hnamed hnil, hchars,
          hbetween, hplain, List.all_eq_true.1 hafter⟩, rfl, rfl, rfl⟩

/-- A line is read as a call just when it is one. -/
theorem parse?_eq_some_iff (line : String) (call : Call) :
    parse? line = some call ↔ Reads line call := by
  obtain ⟨name, tokens⟩ := call
  constructor
  · intro h
    obtain ⟨⟨chars, body⟩, hsplit, hcall⟩ := Option.map_eq_some_iff.1 h
    obtain ⟨l, hvalid, hline, rfl, rfl⟩ := exists_layout_of_split? hsplit
    obtain ⟨rfl, rfl⟩ := Call.mk.inj hcall
    exact ⟨l, hvalid, hline, String.toList_ofList.symm, (tokens_iff _ _).2 rfl⟩
  · rintro ⟨l, hvalid, hline, hname, htokens⟩
    have hsplit := split?_line hvalid
    rw [hline] at hsplit
    rw [parse?, hsplit, Option.map_some, (tokens_iff _ _).1 htokens, hname, String.ofList_toList]

/-- A line is not read as a call just when there is no call that it is. -/
theorem parse?_eq_none_iff (line : String) :
    parse? line = none ↔ ¬ ∃ call, Reads line call := by
  rw [Option.eq_none_iff_forall_ne_some, not_exists]
  exact forall_congr' fun call => not_congr (parse?_eq_some_iff line call)

end AbilityScript.Call
