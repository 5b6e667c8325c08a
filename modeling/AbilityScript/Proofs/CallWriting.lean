import AbilityScript.Proofs.CallGrammar
import Mathlib.Data.List.Forall2

namespace AbilityScript.Call

open Text

/-- Two ways to divide a text are one if the first part of each has a property throughout and the
second does not go on with it. -/
theorem append_unique {p : Char → Bool} {first first' rest rest' : List Char}
    (h : first ++ rest = first' ++ rest') (hfirst : ∀ c ∈ first, p c = true)
    (hfirst' : ∀ c ∈ first', p c = true) (hrest : ∀ c, rest.head? = some c → p c = false)
    (hrest' : ∀ c, rest'.head? = some c → p c = false) : first = first' ∧ rest = rest' := by
  have hcut := (takeWhile_dropWhile_iff p (first ++ rest) first rest).2 ⟨rfl, hfirst, hrest⟩
  have hcut' := (takeWhile_dropWhile_iff p (first ++ rest) first' rest').2 ⟨h, hfirst', hrest'⟩
  exact ⟨hcut.1.symm.trans hcut'.1, hcut.2.symm.trans hcut'.2⟩

/-- There is one layout of a line at most. -/
theorem Layout.Valid.eq_of_line_eq {l l' : Layout} (h : l.Valid) (h' : l'.Valid)
    (hline : l.line = l'.line) : l = l' := by
  -- The parts are told apart from left to right.
  obtain ⟨hbefore, hline⟩ := append_unique hline h.before h'.before h.boundaries.1 h'.boundaries.1
  obtain ⟨hname, hline⟩ := append_unique hline h.word h'.word h.boundaries.2 h'.boundaries.2
  obtain ⟨hbetween, hline⟩ := append_unique hline h.between h'.between
    (by rintro c ⟨⟩; decide) (by rintro c ⟨⟩; decide)
  obtain ⟨hbody, hline⟩ := append_unique (List.tail_eq_of_cons_eq hline) h.body h'.body
    (by rintro c ⟨⟩; decide) (by rintro c ⟨⟩; decide)
  have hafter : l.after = l'.after := List.tail_eq_of_cons_eq hline
  obtain ⟨before, name, between, body, after⟩ := l
  obtain ⟨before', name', between', body', after'⟩ := l'
  simp only at hbefore hname hbetween hbody hafter
  rw [hbefore, hname, hbetween, hbody, hafter]

def Padded (text : List Char) (token : String) : Prop :=
  ∃ before after, Blanks before ∧ Blanks after ∧ text = before ++ token.toList ++ after

inductive WritesTokens : List String → List Char → Prop
  | none {body : List Char} (blank : Blanks body) : WritesTokens [] body
  | some {tokens : List String} {texts : List (List Char)} (nonempty : tokens ≠ [])
      (padded : List.Forall₂ Padded texts tokens) : WritesTokens tokens ([','].intercalate texts)

/-- The line writes the call: its name, and its tokens in parentheses, with any blanks around the
name, the parentheses and the tokens. -/
def Writes (call : Call) (line : String) : Prop :=
  ∃ before between body after, Blanks before ∧ Blanks between ∧ WritesTokens call.tokens body ∧
    Blanks after ∧
    line.toList = before ++ (call.name.toList ++ (between ++ '(' :: (body ++ ')' :: after)))

/-- A text that may stand as a token: without commas or parentheses, and with no blank at either
end. -/
structure IsToken (token : String) : Prop where
  plain : ∀ c ∈ token.toList, c ≠ ',' ∧ isBodyChar c = true
  first : ∀ c, token.toList.head? = some c → isBlank c = false
  last : ∀ c, token.toList.getLast? = some c → isBlank c = false

instance (token : String) : Decidable (IsToken token) :=
  decidable_of_iff
    ((token.toList.all fun c => c != ',' && isBodyChar c) = true ∧
      (token.toList.head?.all fun c => !isBlank c) = true ∧
      (token.toList.getLast?.all fun c => !isBlank c) = true)
    (by
      simp only [List.all_eq_true, Option.all_eq_true, Bool.and_eq_true, bne_iff_ne,
        Bool.not_eq_true']
      exact ⟨fun ⟨plain, first, last⟩ => ⟨plain, first, last⟩,
        fun h => ⟨h.plain, h.first, h.last⟩⟩)

/-- A call that can be written: its name is a word, and its tokens are more than one empty text,
which would not show. -/
structure Writable (call : Call) : Prop where
  named : call.name ≠ ""
  word : ∀ c ∈ call.name.toList, isWordChar c = true
  tokens : ∀ token ∈ call.tokens, IsToken token
  notLoneEmpty : call.tokens ≠ [""]

def write (call : Call) : String :=
  String.ofList (call.name.toList ++
    '(' :: ([','].intercalate (call.tokens.map String.toList) ++ [')']))

theorem mem_intercalate_iff {separator c : Char} {texts : List (List Char)} :
    c ∈ [separator].intercalate texts ↔
      c = separator ∧ 2 ≤ texts.length ∨ ∃ text ∈ texts, c ∈ text := by
  induction texts with
  | nil => simp [List.intercalate]
  | cons text texts ih =>
    cases texts with
    | nil => simp
    | cons next texts =>
      rw [List.intercalate_cons_cons, List.mem_append, List.mem_append, ih, List.mem_singleton]
      have htwo : 2 ≤ (text :: next :: texts).length := by simp
      constructor
      · rintro ((htext | rfl) | ⟨rfl, -⟩ | ⟨other, hother, hc⟩)
        · exact .inr ⟨text, List.mem_cons_self, htext⟩
        · exact .inl ⟨rfl, htwo⟩
        · exact .inl ⟨rfl, htwo⟩
        · exact .inr ⟨other, List.mem_cons_of_mem _ hother, hc⟩
      · rintro (⟨rfl, -⟩ | ⟨other, hother, hc⟩)
        · exact .inl (.inr rfl)
        · rcases List.mem_cons.1 hother with rfl | hlater
          · exact .inl (.inl hc)
          · exact .inr (.inr ⟨other, hlater, hc⟩)

theorem isBodyChar_of_isBlank {c : Char} (h : isBlank c = true) : isBodyChar c = true := by
  have hopen : c ≠ '(' := by
    rintro rfl
    cases h
  have hclose : c ≠ ')' := by
    rintro rfl
    cases h
  simp [isBodyChar, hopen, hclose]

namespace Padded

variable {text : List Char} {token : String}

theorem trimChars_eq (h : Padded text token) (htoken : IsToken token) :
    String.ofList (trimChars text) = token := by
  obtain ⟨before, after, hbefore, hafter, rfl⟩ := h
  rw [List.append_assoc, trimChars_blanks_append hbefore, trimChars_append_blanks hafter,
    trimChars_eq_self htoken.first htoken.last, String.ofList_toList]

/-- Padding adds neither commas nor parentheses. -/
theorem plain (h : Padded text token) (htoken : IsToken token) :
    ∀ c ∈ text, c ≠ ',' ∧ isBodyChar c = true := by
  obtain ⟨before, after, hbefore, hafter, rfl⟩ := h
  have hblank {c : Char} (hc : isBlank c = true) : c ≠ ',' ∧ isBodyChar c = true := by
    refine ⟨?_, isBodyChar_of_isBlank hc⟩
    rintro rfl
    cases hc
  intro c hc
  rcases List.mem_append.1 hc with hfront | hend
  · rcases List.mem_append.1 hfront with hb | ht
    · exact hblank (hbefore c hb)
    · exact htoken.plain c ht
  · exact hblank (hafter c hend)

/-- A text between commas is its trimmed form with blanks around it. -/
theorem of_trimChars (text : List Char) : Padded text (String.ofList (trimChars text)) := by
  obtain ⟨before, after, hbefore, hafter, htext⟩ := exists_blanks_trimChars text
  exact ⟨before, after, hbefore, hafter, by rw [String.toList_ofList]; exact htext⟩

end Padded

/-- A trimmed piece of a text without commas and parentheses may stand as a token. -/
theorem isToken_trimChars {text : List Char}
    (h : ∀ c ∈ text, c ≠ ',' ∧ isBodyChar c = true) :
    IsToken (String.ofList (trimChars text)) := by
  obtain ⟨before, after, -, -, htext⟩ := exists_blanks_trimChars text
  refine ⟨?_, ?_, ?_⟩
  · intro c hc
    rw [String.toList_ofList] at hc
    refine h c ?_
    rw [htext]
    exact List.mem_append_left _ (List.mem_append_right _ hc)
  · intro c hc
    rw [String.toList_ofList] at hc
    exact isBlank_head?_trimChars hc
  · intro c hc
    rw [String.toList_ofList] at hc
    exact isBlank_getLast?_trimChars hc

section Tokens

variable {tokens : List String} {body : List Char}

/-- A body that writes tokens has no parentheses in it. -/
theorem WritesTokens.isBodyChar (h : WritesTokens tokens body)
    (htokens : ∀ token ∈ tokens, IsToken token) : ∀ c ∈ body, isBodyChar c = true := by
  cases h with
  | none blank => exact fun c hc => isBodyChar_of_isBlank (blank c hc)
  | @some _ texts nonempty padded =>
    intro c hc
    rcases mem_intercalate_iff.1 hc with ⟨rfl, -⟩ | ⟨text, htext, hctext⟩
    · decide
    · obtain ⟨i, hi, rfl⟩ := List.getElem_of_mem htext
      have hi' : i < tokens.length := padded.length_eq ▸ hi
      exact ((padded.get hi hi').plain (htokens _ (List.getElem_mem hi')) c hctext).2

/-- The tokens that a body writes are its tokens, but for one empty text. -/
theorem WritesTokens.reads (h : WritesTokens tokens body)
    (htokens : ∀ token ∈ tokens, IsToken token) (hlone : tokens ≠ [""]) : Tokens body tokens := by
  cases h with
  | none blank => exact .none blank
  | @some _ texts nonempty padded =>
    have htrimmed : texts.map (fun text => String.ofList (trimChars text)) = tokens := by
      clear hlone nonempty
      induction padded with
      | nil => rfl
      | cons hfirst _ ih =>
        obtain ⟨htoken, hlater⟩ := List.forall_mem_cons.1 htokens
        rw [List.map_cons, hfirst.trimChars_eq htoken, ih hlater]
    have htexts : texts ≠ [] := by
      rintro rfl
      exact nonempty htrimmed.symm
    have hwhole : ∀ text ∈ texts, ',' ∉ text := by
      intro text htext hcomma
      obtain ⟨i, hi, rfl⟩ := List.getElem_of_mem htext
      have hi' : i < tokens.length := padded.length_eq ▸ hi
      exact ((padded.get hi hi').plain (htokens _ (List.getElem_mem hi')) ',' hcomma).1 rfl
    -- A blank body has no comma, so it would be the one text of an empty token.
    have hfull : ¬ Blanks ([','].intercalate texts) := by
      intro hblank
      have hcomma := comma_notMem_of_blanks hblank
      rw [mem_intercalate_iff, not_or] at hcomma
      obtain ⟨text, rest, rfl⟩ := List.exists_cons_of_ne_nil htexts
      cases rest with
      | cons next rest => exact hcomma.1 ⟨rfl, by simp⟩
      | nil =>
        rw [List.intercalate_singleton] at hblank
        have hempty : trimChars text = [] := (trimChars_eq_nil_iff text).2 hblank
        refine hlone ?_
        rw [← htrimmed, List.map_singleton, hempty]
    have htokens' := Tokens.some hfull texts htexts rfl hwhole
    rwa [htrimmed] at htokens'

/-- The tokens of a body without parentheses may stand as tokens, are not one empty text, and are
what the body writes. -/
theorem Tokens.writes (h : Tokens body tokens) (hbody : ∀ c ∈ body, isBodyChar c = true) :
    WritesTokens tokens body ∧ (∀ token ∈ tokens, IsToken token) ∧ tokens ≠ [""] := by
  cases h with
  | none blank => exact ⟨.none blank, by simp, by simp⟩
  | some full pieces nonempty divided whole =>
    refine ⟨?_, ?_, ?_⟩
    · rw [← divided]
      refine .some (by simpa using nonempty) ?_
      exact List.forall₂_map_right_iff.2 (List.forall₂_same.2 fun piece _ =>
        Padded.of_trimChars piece)
    · intro token htoken
      obtain ⟨piece, hpiece, rfl⟩ := List.mem_map.1 htoken
      refine isToken_trimChars fun c hc => ⟨?_, ?_⟩
      · rintro rfl
        exact whole piece hpiece hc
      · exact hbody c (divided ▸ mem_intercalate_iff.2 (.inr ⟨piece, hpiece, hc⟩))
    · intro hlone
      obtain ⟨piece, rfl, hempty⟩ := List.map_eq_singleton_iff.1 hlone
      -- The one piece is the whole body, which is not blank.
      refine full ?_
      rw [← divided, List.intercalate_singleton, ← trimChars_eq_nil_iff]
      have hchars := congrArg String.toList hempty
      rwa [String.toList_ofList] at hchars

end Tokens

/-- The lines that are read as a call are just those that write it, for a call that can be written;
any other call is read from no line. -/
theorem parse?_eq_some_iff_writes (line : String) (call : Call) :
    parse? line = some call ↔ call.Writable ∧ call.Writes line := by
  rw [parse?_eq_some_iff]
  constructor
  · rintro ⟨l, hvalid, hline, hname, htokens⟩
    obtain ⟨hwrites, hplain, hlone⟩ := htokens.writes hvalid.body
    refine ⟨⟨?_, hname ▸ hvalid.word, hplain, hlone⟩, l.before, l.between, l.body, l.after,
      hvalid.before, hvalid.between, hwrites, hvalid.after, ?_⟩
    · intro hempty
      refine hvalid.named ?_
      rw [hname, hempty, String.toList_empty]
    · rw [← hline, ← hname]
      rfl
  · rintro ⟨hwritable, before, between, body, after, hbefore, hbetween, hwrites, hafter, hline⟩
    refine ⟨⟨before, call.name.toList, between, body, after⟩, ⟨hbefore, ?_, hwritable.word,
      hbetween, hwrites.isBodyChar hwritable.tokens, hafter⟩, hline.symm, rfl,
      hwrites.reads hwritable.tokens hwritable.notLoneEmpty⟩
    intro hnil
    exact hwritable.named (String.toList_eq_nil_iff.1 hnil)

/-- Without blanks a call is written as well. -/
theorem writes_write (call : Call) : call.Writes call.write := by
  have hnone : Blanks [] := fun c hc => absurd hc List.not_mem_nil
  refine ⟨[], [], [','].intercalate (call.tokens.map String.toList), [], hnone, hnone, ?_, hnone,
    String.toList_ofList⟩
  by_cases htokens : call.tokens = []
  · rw [htokens]
    exact .none hnone
  · refine .some htokens (List.forall₂_map_left_iff.2 (List.forall₂_same.2 fun token _ => ?_))
    exact ⟨[], [], hnone, hnone, by simp⟩

/-- A blank after each comma might as well stand before the text that follows. -/
theorem intercalate_comma_blank (first : List Char) (rest : List (List Char)) :
    [',', ' '].intercalate (first :: rest) =
      [','].intercalate (first :: rest.map fun text => ' ' :: text) := by
  induction rest generalizing first with
  | nil => rfl
  | cons text rest ih =>
    have hspace : [',', ' '].intercalate ((' ' :: text) :: rest) =
        ' ' :: [',', ' '].intercalate (text :: rest) := by
      cases rest <;> simp [List.intercalate_cons_cons]
    rw [List.map_cons, List.intercalate_cons_cons, List.intercalate_cons_cons, ← ih, hspace]
    simp

/-- A call that is written with one blank after each comma is read back. -/
theorem parse?_spaced {name : String} {tokens : List String} (h : Writable ⟨name, tokens⟩) :
    parse? (name ++ "(" ++ ", ".intercalate tokens ++ ")") = some ⟨name, tokens⟩ := by
  have hnone : Blanks [] := fun c hc => absurd hc List.not_mem_nil
  have hblank : Blanks [' '] := by
    intro c hc
    obtain rfl := List.mem_singleton.1 hc
    decide
  have hbody : WritesTokens tokens (", ".intercalate tokens).toList := by
    rw [String.toList_intercalate]
    cases tokens with
    | nil => exact .none hnone
    | cons token rest =>
      have hpadded : Padded token.toList token := ⟨[], [], hnone, hnone, by simp⟩
      have hrest : List.Forall₂ Padded (rest.map fun token => ' ' :: token.toList) rest :=
        List.forall₂_map_left_iff.2 (List.forall₂_same.2 fun token _ =>
          ⟨[' '], [], hblank, hnone, by simp⟩)
      have hline := intercalate_comma_blank token.toList (rest.map String.toList)
      rw [List.map_map, ← List.map_cons] at hline
      exact hline ▸ .some (List.cons_ne_nil token rest) (.cons hpadded hrest)
  refine (parse?_eq_some_iff_writes _ _).2 ⟨h, [], [], _, [], hnone, hnone, hbody, hnone, ?_⟩
  simp

/-- Of a text without commas in parentheses the one token is its trimmed form, if there is more to it
than blanks. -/
theorem parse?_lone {name text : String} (named : name ≠ "")
    (word : ∀ c ∈ name.toList, isWordChar c = true)
    (plain : ∀ c ∈ text.toList, c ≠ ',' ∧ isBodyChar c = true) :
    parse? (name ++ "(" ++ text ++ ")") =
      some ⟨name, if trim text = "" then [] else [trim text]⟩ := by
  have hnone : Blanks [] := fun c hc => absurd hc List.not_mem_nil
  have hline : (name ++ "(" ++ text ++ ")").toList =
      [] ++ (name.toList ++ ([] ++ '(' :: (text.toList ++ ')' :: []))) := by simp
  refine (parse?_eq_some_iff_writes _ _).2 ⟨⟨named, word, ?_, ?_⟩,
    [], [], text.toList, [], hnone, hnone, ?_, hnone, hline⟩
  · intro token htoken
    split at htoken
    · cases htoken
    · obtain rfl := List.mem_singleton.1 htoken
      exact isToken_trimChars plain
  · split
    · simp
    case isFalse hfull => simpa using hfull
  · split
    case isTrue hblank =>
      refine .none ((trimChars_eq_nil_iff _).1 ?_)
      rw [← toList_trim, hblank, String.toList_empty]
    case isFalse =>
      have hpadded : List.Forall₂ Padded [text.toList] [trim text] :=
        .cons (Padded.of_trimChars text.toList) .nil
      have hbody := WritesTokens.some (List.cons_ne_nil _ _) hpadded
      rwa [List.intercalate_singleton] at hbody

/-- A line is read just when it can be laid out as a name and a text in parentheses, which it can be
in one way at most, and what is read is that name with the trimmed pieces of that text. A call that
can be written is read back from every line that writes it; whatever is read from a line can be
written, is written by that line, and is read again when it is written anew. -/
theorem parse?_reads_grammar :
    (∀ line : String, (parse? line).isSome ↔ ∃ l : Layout, l.Valid ∧ l.line = line.toList) ∧
    (∀ l l' : Layout, l.Valid → l'.Valid → l.line = l'.line → l = l') ∧
    (∀ (line : String) (call : Call) (l : Layout), l.Valid → l.line = line.toList →
      (parse? line = some call ↔ call.name.toList = l.name ∧ Tokens l.body call.tokens)) ∧
    (∀ (call : Call) (line : String), call.Writable → call.Writes line →
      parse? line = some call) ∧
    ∀ (line : String) (call : Call), parse? line = some call →
      call.Writable ∧ call.Writes line ∧ parse? call.write = some call := by
  have hlaid {line : String} {l : Layout} (hvalid : l.Valid) (hline : l.line = line.toList)
      (call : Call) :
      parse? line = some call ↔ call.name.toList = l.name ∧ Tokens l.body call.tokens := by
    rw [parse?_eq_some_iff]
    constructor
    · rintro ⟨l', hvalid', hline', hname, htokens⟩
      obtain rfl := hvalid'.eq_of_line_eq hvalid (hline'.trans hline.symm)
      exact ⟨hname.symm, htokens⟩
    · rintro ⟨hname, htokens⟩
      exact ⟨l, hvalid, hline, hname.symm, htokens⟩
  refine ⟨fun line => ?_, fun l l' h h' hline => h.eq_of_line_eq h' hline,
    fun line call l hvalid hline => hlaid hvalid hline call,
    fun call line hwritable hwrites =>
      (parse?_eq_some_iff_writes line call).2 ⟨hwritable, hwrites⟩, ?_⟩
  · rw [Option.isSome_iff_exists]
    constructor
    · rintro ⟨call, hread⟩
      obtain ⟨l, hvalid, hline, -⟩ := (parse?_eq_some_iff line call).1 hread
      exact ⟨l, hvalid, hline⟩
    · rintro ⟨l, hvalid, hline⟩
      exact ⟨⟨String.ofList l.name, tokensOf l.body⟩,
        (hlaid hvalid hline _).2 ⟨String.toList_ofList, (tokens_iff _ _).2 rfl⟩⟩
  · intro line call hread
    obtain ⟨hwritable, hwrites⟩ := (parse?_eq_some_iff_writes line call).1 hread
    exact ⟨hwritable, hwrites,
      (parse?_eq_some_iff_writes _ call).2 ⟨hwritable, writes_write call⟩⟩

/-- A call with an empty token, written with blanks of several kinds, is read back. -/
theorem parse?_reads_grammar_effect :
    Writable ⟨"effect", ["", "&aHi there"]⟩ ∧
      Writes ⟨"effect", ["", "&aHi there"]⟩ " effect\t( ,\n&aHi there ) " ∧
      parse? " effect\t( ,\n&aHi there ) " = some ⟨"effect", ["", "&aHi there"]⟩ := by
  have hblanks {cs : List Char} (h : cs.all isBlank = true) : Blanks cs := List.all_eq_true.1 h
  have htokens : ∀ token ∈ ["", "&aHi there"], IsToken token := by
    have hempty : IsToken "" := ⟨nofun, nofun, nofun⟩
    have hgreeting : IsToken "&aHi there" := by
      refine ⟨?_, by rintro c ⟨⟩; rfl, by rintro c ⟨⟩; rfl⟩
      have hplain : "&aHi there".toList.all (fun c => c != ',' && isBodyChar c) = true := rfl
      simpa using hplain
    exact List.forall_mem_cons.2 ⟨hempty, List.forall_mem_singleton.2 hgreeting⟩
  have hwritable : Writable ⟨"effect", ["", "&aHi there"]⟩ :=
    ⟨by decide, List.all_eq_true.1 rfl, htokens, by decide⟩
  have hpadded : List.Forall₂ Padded [[' '], "\n&aHi there ".toList] ["", "&aHi there"] :=
    .cons ⟨[' '], [], hblanks rfl, hblanks rfl, rfl⟩
      (.cons ⟨['\n'], [' '], hblanks rfl, hblanks rfl, rfl⟩ .nil)
  have hbody : WritesTokens ["", "&aHi there"] " ,\n&aHi there ".toList :=
    .some (by decide) hpadded
  have hwrites : Writes ⟨"effect", ["", "&aHi there"]⟩ " effect\t( ,\n&aHi there ) " :=
    ⟨[' '], ['\t'], _, [' '], hblanks rfl, hblanks rfl, hbody, hblanks rfl, rfl⟩
  exact ⟨hwritable, hwrites, parse?_reads_grammar.2.2.2.1 _ _ hwritable hwrites⟩

end AbilityScript.Call
