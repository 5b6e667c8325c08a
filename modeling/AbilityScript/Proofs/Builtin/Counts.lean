import AbilityScript.Proofs.Builtin.CompiledCalls
import AbilityScript.Proofs.CallWriting
import AbilityScript.Proofs.Enrolment
import AbilityScript.Proofs.LineOutcome
import AbilityScript.Proofs.Number.WholeText

namespace AbilityScript

open Number

namespace Builtin

/-- The token denotes the count: a whole number from zero to the greatest of the integer width. -/
def Counts (token : String) (n : Nat) : Prop :=
  Denotes token.toList n ∧ (n : Int) ≤ 2 ^ 31 - 1

/-- What is wrong with a token that denotes no count: a number of the integer width below zero is
rejected, and what is no number of that width is invalid. -/
def Miscounts (token : String) : ArgumentFault → Prop
  | .rejected => ∃ n, Denotes token.toList n ∧ -(2 ^ 31) ≤ n ∧ n ≤ -1
  | .invalid => ∀ n, Denotes token.toList n → ¬ (-(2 ^ 31) ≤ n ∧ n ≤ 2 ^ 31 - 1)

theorem Counts.unique {token : String} {m n : Nat} (hm : Counts token m) (hn : Counts token n) :
    m = n :=
  Int.ofNat_inj.1 (hm.1.unique hn.1)

theorem holds_integer_iff (n : Int) : Width.integer.Holds n ↔ -(2 ^ 31) ≤ n ∧ n ≤ 2 ^ 31 - 1 :=
  Width.integer.holds_iff n

/-- A count is a number of the integer width. -/
theorem Counts.exists_whole {token : String} {n : Nat} (h : Counts token n) :
    ∃ m : Whole .integer, 0 ≤ m.val ∧ Counts token m.val.toNat := by
  have hholds : Width.integer.Holds n := (holds_integer_iff n).2 ⟨by omega, h.2⟩
  exact ⟨⟨n, hholds⟩, Int.natCast_nonneg n, h⟩

section Token

variable (token label : String)

/-- Of the numbers of the integer width, those below zero are refused. -/
theorem refuses_count_iff (n : Whole .integer) :
    (nonNegative (.whole .integer) label).refuses (.whole .integer n) = true ↔ n.val < 0 := by
  have hzero := Binary.zero_le_ofInt_iff (f := double) n.val
  rw [← isNonNegative_whole] at hzero
  simp only [nonNegative, Schema.refuses, Bool.not_eq_true', ← Bool.not_eq_true, hzero]
  omega

/-- A token is read as a count just if it denotes one, and then as that count. -/
theorem read_count_eq_ok_iff (v : Value) :
    (nonNegative (.whole .integer) label).read token = .ok v ↔
      ∃ n : Whole .integer, 0 ≤ n.val ∧ Counts token n.val.toNat ∧ v = .whole .integer n := by
  rw [Schema.read_eq_ok_iff]
  constructor
  · rintro ⟨hconvert, hrefuses⟩
    obtain ⟨n, hparse, rfl⟩ := Option.map_eq_some_iff.1 hconvert
    have hpositive : 0 ≤ n.val := by
      by_contra hneg
      rw [(refuses_count_iff label n).2 (by omega)] at hrefuses
      cases hrefuses
    refine ⟨n, hpositive, ?_, rfl⟩
    rw [Counts, Int.toNat_of_nonneg hpositive]
    exact ⟨(Width.parse?_eq_some_iff token n).1 hparse,
      ((holds_integer_iff n.val).1 n.property).2⟩
  · rintro ⟨n, hpositive, ⟨hdenotes, -⟩, rfl⟩
    rw [Int.toNat_of_nonneg hpositive] at hdenotes
    have hparse := (Width.parse?_eq_some_iff token n).2 hdenotes
    have hrefuses := mt (refuses_count_iff label n).1 (by omega)
    exact ⟨congrArg (Option.map (Value.whole .integer)) hparse, by simpa using hrefuses⟩

/-- It is refused just if it does not denote one. -/
theorem read_count_eq_error_iff (fault : ArgumentFault) :
    (nonNegative (.whole .integer) label).read token = .error fault ↔ Miscounts token fault := by
  cases fault with
  | rejected =>
    rw [Schema.read_eq_rejected_iff]
    constructor
    · rintro ⟨v, hconvert, hrefuses⟩
      obtain ⟨n, hparse, rfl⟩ := Option.map_eq_some_iff.1 hconvert
      have hneg := (refuses_count_iff label n).1 hrefuses
      exact ⟨n.val, (Width.parse?_eq_some_iff token n).1 hparse,
        ((holds_integer_iff n.val).1 n.property).1, by omega⟩
    · rintro ⟨n, hdenotes, hlow, hneg⟩
      have hholds : Width.integer.Holds n := (holds_integer_iff n).2 ⟨hlow, by omega⟩
      have hparse := (Width.parse?_eq_some_iff token ⟨n, hholds⟩).2 hdenotes
      have hbelow : n < 0 := by omega
      exact ⟨_, congrArg (Option.map (Value.whole .integer)) hparse,
        (refuses_count_iff label ⟨n, hholds⟩).2 hbelow⟩
  | invalid =>
    have hconvert : (nonNegative (.whole .integer) label).convert? token = none ↔
        Width.integer.parse? token = none := Option.map_eq_none_iff
    rw [Schema.read_eq_invalid_iff, hconvert, Width.parse?_eq_none_iff]
    simp only [holds_integer_iff, Miscounts]

end Token

section Calls

/-- Wherever the call runs, the player has just so many ticks of fire after it, and all else is as it
was before. -/
def Kindles (call : KeywordCall Ability) (n : Nat) : Prop :=
  ∀ thread context (s : Simulation),
    let s' := s.runKeyword thread call context
    (s'.scene.entity context.player).fireTicks.toNat = n ∧
      ∃ ticks, s' = { s.record (.ran (call.run thread context)) with
        scene := s.scene.modifyEntity context.player fun e => { e with fireTicks := ticks } }

/-- Wherever the call runs, the player has one effect of the kind after it, of just that length and
level, and all else is as it was before. -/
def Affects (call : KeywordCall Ability) (kind : PotionKind) (m n : Nat) : Prop :=
  ∀ thread context (s : Simulation),
    let s' := s.runKeyword thread call context
    ∃ given : PotionEffect,
      given.kind = kind ∧ given.duration.toNat = m ∧ given.amplifier.toNat = n ∧
      (s'.scene.entity context.player).effects.filter (fun old => old.kind == kind) = [given] ∧
      s' = { s.record (.ran (call.run thread context)) with
        scene := s.scene.modifyEntity context.player fun e =>
          { e with effects := e.effects.filter (fun old => old.kind != kind) ++ [given] } }

theorem kindles_of_count {n : Whole .integer} (h : 0 ≤ n.val) :
    Kindles ⟨kindle, ⟨[.targeter .player, .whole .integer n]⟩⟩ n.val.toNat := by
  intro thread context s s'
  have hplayer : context.entity? .player = some context.player := rfl
  obtain ⟨ticks, hticks, hrun⟩ := runKeyword_kindle thread s hplayer h
  have hfire : (s'.scene.entity context.player).fireTicks = ticks := by
    simp only [s', hrun, Scene.entity_modifyEntity, if_true, Entity.setFireTicks]
  refine ⟨?_, ticks, hrun⟩
  rw [hfire]
  omega

/-- No effect that an entity had of the kind is left beside the one that it is given. -/
theorem filter_kind_addEffect (given : PotionEffect) (e : Entity) :
    (e.addEffect given).effects.filter (fun old => old.kind == given.kind) = [given] := by
  have hothers : (e.effects.filter fun old => old.kind != given.kind).filter
      (fun old => old.kind == given.kind) = [] := by
    simp [List.filter_filter]
  rw [Entity.addEffect, List.filter_append, hothers]
  simp

theorem affects_of_counts {m n : Whole .integer} (hm : 0 ≤ m.val) (hn : 0 ≤ n.val)
    (kind : PotionKind) :
    Affects ⟨effect, ⟨[.targeter .player, .member (PotionKind.enumeration.value kind),
      .whole .integer m, .whole .integer n]⟩⟩ kind m.val.toNat n.val.toNat := by
  intro thread context s s'
  have hplayer : context.entity? .player = some context.player := rfl
  obtain ⟨duration, amplifier, hduration, hamplifier, hrun⟩ :=
    runKeyword_effect thread s kind hplayer hm hn
  have hgiven : (s'.scene.entity context.player).effects.filter (fun old => old.kind == kind) =
      [⟨kind, duration, amplifier⟩] := by
    simp only [s', hrun, Scene.entity_modifyEntity, if_true]
    exact filter_kind_addEffect ⟨kind, duration, amplifier⟩ _
  have hm' : duration.toNat = m.val.toNat := by omega
  have hn' : amplifier.toNat = n.val.toNat := by omega
  exact ⟨⟨kind, duration, amplifier⟩, rfl, hm', hn', hgiven, hrun⟩

end Calls

section Lines

theorem read_player : livingTarget.read "player" = .ok (.targeter .player) := rfl

theorem read_kind (kind : PotionKind) :
    (Schema.choice PotionKind.enumeration.spellings (some "potion effect type")).read kind.name =
      .ok (.member (PotionKind.enumeration.value kind)) := by
  cases kind <;> rfl

/-- A count is accepted just if it is one. -/
theorem accepts_count_iff (token label : String) :
    (nonNegative (.whole .integer) label).Accepts token ↔ ∃ n, Counts token n := by
  rw [Schema.accepts_iff]
  constructor
  · rintro ⟨v, hread⟩
    obtain ⟨n, -, hcounts, -⟩ := (read_count_eq_ok_iff token label v).1 hread
    exact ⟨_, hcounts⟩
  · rintro ⟨n, hcounts⟩
    obtain ⟨m, hzero, hcounts'⟩ := hcounts.exists_whole
    exact ⟨_, (read_count_eq_ok_iff token label _).2 ⟨m, hzero, hcounts', rfl⟩⟩

/-- The tokens of a call that sets on fire resolve just if the second is a count. -/
theorem resolve_kindle (token : String) :
    (∀ a, Arguments.resolve kindle.schema ["player", token] = .ok a ↔
      ∃ n : Whole .integer, 0 ≤ n.val ∧ Counts token n.val.toNat ∧
        a = ⟨[.targeter .player, .whole .integer n]⟩) ∧
    ∀ e, Arguments.resolve kindle.schema ["player", token] = .error e ↔
      ∃ fault, Miscounts token fault ∧ e = ⟨fault, 1, token, "duration"⟩ := by
  have hschema : kindle.schema = [livingTarget, nonNegative (.whole .integer) "duration"] := rfl
  have hexpected (label : String) : (nonNegative (.whole .integer) label).expected = label := rfl
  have hplayer : livingTarget.Accepts "player" := (Schema.accepts_iff _ _).2 ⟨_, read_player⟩
  refine ⟨fun a => ?_, fun e => ?_⟩
  · rw [Arguments.resolve_eq_ok_iff_values, hschema]
    simp only [Arguments.resolveFrom_cons_eq_ok_iff, read_count_eq_ok_iff, read_player,
      Arguments.resolveFrom_nil]
    constructor
    · rintro ⟨_, _, ⟨⟩, ⟨_, _, ⟨n, hzero, hcounts, rfl⟩, ⟨⟩, rfl⟩, hvalues⟩
      exact ⟨n, hzero, hcounts, congrArg Arguments.mk hvalues⟩
    · rintro ⟨n, hzero, hcounts, rfl⟩
      exact ⟨_, _, rfl, ⟨_, _, ⟨n, hzero, hcounts, rfl⟩, rfl, rfl⟩, rfl⟩
  · rw [Arguments.resolve_eq_error_iff_from, hschema]
    simp only [Arguments.resolveFrom_cons_eq_error_iff, read_count_eq_error_iff, read_player,
      hplayer, hexpected, Arguments.resolveFrom_nil, reduceCtorEq, false_and, exists_false,
      false_or, and_false, or_false, true_and, Nat.zero_add]

/-- The tokens of a call that gives an effect resolve just if the last two are counts; of two that
are not, the first is reported. -/
theorem resolve_effect (kind : PotionKind) (d l : String) :
    (∀ a, Arguments.resolve effect.schema ["player", kind.name, d, l] = .ok a ↔
      ∃ m n : Whole .integer, 0 ≤ m.val ∧ Counts d m.val.toNat ∧ 0 ≤ n.val ∧
        Counts l n.val.toNat ∧
        a = ⟨[.targeter .player, .member (PotionKind.enumeration.value kind), .whole .integer m,
          .whole .integer n]⟩) ∧
    ∀ e, Arguments.resolve effect.schema ["player", kind.name, d, l] = .error e ↔
      (∃ fault, Miscounts d fault ∧ e = ⟨fault, 2, d, "duration"⟩) ∨
        (∃ m, Counts d m) ∧ ∃ fault, Miscounts l fault ∧ e = ⟨fault, 3, l, "level"⟩ := by
  have hschema : effect.schema = [livingTarget,
      .choice PotionKind.enumeration.spellings (some "potion effect type"),
      nonNegative (.whole .integer) "duration", nonNegative (.whole .integer) "level"] := rfl
  have hexpected (label : String) : (nonNegative (.whole .integer) label).expected = label := rfl
  have hplayer : livingTarget.Accepts "player" := (Schema.accepts_iff _ _).2 ⟨_, read_player⟩
  have hkind := (Schema.accepts_iff _ _).2 ⟨_, read_kind kind⟩
  refine ⟨fun a => ?_, fun e => ?_⟩
  · rw [Arguments.resolve_eq_ok_iff_values, hschema]
    simp only [Arguments.resolveFrom_cons_eq_ok_iff, read_count_eq_ok_iff, read_player, read_kind,
      Arguments.resolveFrom_nil]
    constructor
    · rintro ⟨_, _, ⟨⟩, ⟨_, _, ⟨⟩, ⟨_, _, ⟨m, hm, hd, rfl⟩, ⟨_, _, ⟨n, hn, hl, rfl⟩, ⟨⟩, rfl⟩, rfl⟩,
        rfl⟩, hvalues⟩
      exact ⟨m, n, hm, hd, hn, hl, congrArg Arguments.mk hvalues⟩
    · rintro ⟨m, n, hm, hd, hn, hl, rfl⟩
      exact ⟨_, _, rfl, ⟨_, _, rfl, ⟨_, _, ⟨m, hm, hd, rfl⟩, ⟨_, _, ⟨n, hn, hl, rfl⟩, rfl, rfl⟩,
        rfl⟩, rfl⟩, rfl⟩
  · rw [Arguments.resolve_eq_error_iff_from, hschema]
    simp only [Arguments.resolveFrom_cons_eq_error_iff, read_count_eq_error_iff, read_player,
      read_kind, hplayer, hkind, accepts_count_iff, hexpected, Arguments.resolveFrom_nil,
      reduceCtorEq, false_and, exists_false, false_or, and_false, or_false, true_and, Nat.zero_add]

theorem parse?_kindle {token : String} (h : Call.IsToken token) :
    Call.parse? ("kindle(player, " ++ token ++ ")") = some ⟨"kindle", ["player", token]⟩ := by
  have hplayer : Call.IsToken "player" := by decide
  have hword : ∀ c ∈ "kindle".toList, Text.isWordChar c = true := List.all_eq_true.1 rfl
  have hwritable : Call.Writable ⟨"kindle", ["player", token]⟩ :=
    ⟨by simp, hword, by simp [hplayer, h], by simp⟩
  have hline : "kindle" ++ "(" ++ ", ".intercalate ["player", token] ++ ")" =
      "kindle(player, " ++ token ++ ")" := by
    apply String.toList_inj.1
    simp
  rw [← hline]
  exact Call.parse?_spaced hwritable

theorem parse?_effect (kind : PotionKind) {d l : String} (hd : Call.IsToken d)
    (hl : Call.IsToken l) :
    Call.parse? ("effect(player, " ++ kind.name ++ ", " ++ d ++ ", " ++ l ++ ")") =
      some ⟨"effect", ["player", kind.name, d, l]⟩ := by
  have hplayer : Call.IsToken "player" := by decide
  have hkind : Call.IsToken kind.name := by cases kind <;> decide
  have hword : ∀ c ∈ "effect".toList, Text.isWordChar c = true := List.all_eq_true.1 rfl
  have hwritable : Call.Writable ⟨"effect", ["player", kind.name, d, l]⟩ :=
    ⟨by simp, hword, by simp [hplayer, hkind, hd, hl], by simp⟩
  have hline : "effect" ++ "(" ++ ", ".intercalate ["player", kind.name, d, l] ++ ")" =
      "effect(player, " ++ kind.name ++ ", " ++ d ++ ", " ++ l ++ ")" := by
    apply String.toList_inj.1
    simp
  rw [← hline]
  exact Call.parse?_spaced hwritable

variable {r : Registry}

/-- A line that sets the player on fire compiles just if it gives a count, and it then does so for
just that many ticks. -/
theorem kindle_line (hfind : r.keyword? "kindle" = some kindle) {token : String}
    (h : Call.IsToken token) :
    (∀ call, Compile.keywordLine r ("kindle(player, " ++ token ++ ")") = .ok call ↔
      ∃ n : Whole .integer, 0 ≤ n.val ∧ Counts token n.val.toNat ∧
        call = ⟨kindle, ⟨[.targeter .player, .whole .integer n]⟩⟩) ∧
    ∀ e, Compile.keywordLine r ("kindle(player, " ++ token ++ ")") = .error e ↔
      ∃ fault, Miscounts token fault ∧
        e = .invalidArgument "kindle" ⟨fault, 1, token, "duration"⟩ := by
  obtain ⟨hok, herror⟩ := Compile.keywordLine_of_parse? (parse?_kindle h) hfind rfl
  obtain ⟨hvalues, hfault⟩ := resolve_kindle token
  refine ⟨fun call => (hok call).trans ?_, fun e => (herror e).trans ?_⟩
  · simp only [hvalues]
    constructor
    · rintro ⟨_, ⟨n, hzero, hcounts, rfl⟩, rfl⟩
      exact ⟨n, hzero, hcounts, rfl⟩
    · rintro ⟨n, hzero, hcounts, rfl⟩
      exact ⟨_, ⟨n, hzero, hcounts, rfl⟩, rfl⟩
  · simp only [hfault]
    constructor
    · rintro ⟨_, ⟨fault, hmiscounts, rfl⟩, rfl⟩
      exact ⟨fault, hmiscounts, rfl⟩
    · rintro ⟨fault, hmiscounts, rfl⟩
      exact ⟨_, ⟨fault, hmiscounts, rfl⟩, rfl⟩

/-- A line that gives the player an effect compiles just if it gives two counts; of two that it does
not give, the first is reported. -/
theorem effect_line (hfind : r.keyword? "effect" = some effect) (kind : PotionKind) {d l : String}
    (hd : Call.IsToken d) (hl : Call.IsToken l) :
    let line := "effect(player, " ++ kind.name ++ ", " ++ d ++ ", " ++ l ++ ")"
    (∀ call, Compile.keywordLine r line = .ok call ↔
      ∃ m n : Whole .integer, 0 ≤ m.val ∧ Counts d m.val.toNat ∧ 0 ≤ n.val ∧
        Counts l n.val.toNat ∧
        call = ⟨effect, ⟨[.targeter .player, .member (PotionKind.enumeration.value kind),
          .whole .integer m, .whole .integer n]⟩⟩) ∧
    ∀ e, Compile.keywordLine r line = .error e ↔
      (∃ fault, Miscounts d fault ∧ e = .invalidArgument "effect" ⟨fault, 2, d, "duration"⟩) ∨
        (∃ m, Counts d m) ∧
          ∃ fault, Miscounts l fault ∧ e = .invalidArgument "effect" ⟨fault, 3, l, "level"⟩ := by
  intro line
  obtain ⟨hok, herror⟩ := Compile.keywordLine_of_parse? (parse?_effect kind hd hl) hfind rfl
  obtain ⟨hvalues, hfault⟩ := resolve_effect kind d l
  refine ⟨fun call => (hok call).trans ?_, fun e => (herror e).trans ?_⟩
  · simp only [hvalues]
    constructor
    · rintro ⟨_, ⟨m, n, hm, hcm, hn, hcn, rfl⟩, rfl⟩
      exact ⟨m, n, hm, hcm, hn, hcn, rfl⟩
    · rintro ⟨m, n, hm, hcm, hn, hcn, rfl⟩
      exact ⟨_, ⟨m, n, hm, hcm, hn, hcn, rfl⟩, rfl⟩
  · simp only [hfault]
    constructor
    · rintro ⟨_, ⟨fault, hmiscounts, rfl⟩ | ⟨hm, fault, hmiscounts, rfl⟩, rfl⟩
      · exact .inl ⟨fault, hmiscounts, rfl⟩
      · exact .inr ⟨hm, fault, hmiscounts, rfl⟩
    · rintro (⟨fault, hmiscounts, rfl⟩ | ⟨hm, fault, hmiscounts, rfl⟩)
      · exact ⟨_, .inl ⟨fault, hmiscounts, rfl⟩, rfl⟩
      · exact ⟨_, .inr ⟨hm, fault, hmiscounts, rfl⟩, rfl⟩

end Lines

end Builtin

open Builtin

/-- Whole numbers come from text to effect without loss. A text is read in a width just if it is an
optional sign and digits whose value the width has, and as that value; every wider width reads the
same. With the built-in functions registered first, whatever comes later, a line that sets the
player on fire compiles just if its token denotes a count, and after its execution the player has
just that many ticks of fire; it is rejected for a number of the integer width below zero and
invalid otherwise. So are the length and the level of an effect that the player has afterwards, the
first that is at fault being reported. -/
theorem whole_numbers_reach_their_effects (later : List Enrolment) :
    let r := Registry.enrolAll (.builtins :: later)
    (∀ w text,
      (((PrimitiveKind.whole w).parse? text).isSome ↔
        ∃ n, Denotes text.toList n ∧ -(2 ^ (w.bits - 1)) ≤ n ∧ n ≤ 2 ^ (w.bits - 1) - 1) ∧
      ∀ v, (PrimitiveKind.whole w).parse? text = some v →
        (∀ n, v.asWhole? = some n ↔ Denotes text.toList n) ∧
        ∀ wider : Width, w.bits ≤ wider.bits →
          ∃ v', (PrimitiveKind.whole wider).parse? text = some v' ∧ v'.asWhole? = v.asWhole?) ∧
    (∀ token, Call.IsToken token →
      let line := "kindle(player, " ++ token ++ ")"
      ((∃ call, Compile.keywordLine r line = .ok call) ↔ ∃ n, Counts token n) ∧
      (∀ call n, Compile.keywordLine r line = .ok call → Counts token n → Kindles call n) ∧
      ∀ e, Compile.keywordLine r line = .error e ↔
        ∃ fault, Miscounts token fault ∧
          e = .invalidArgument "kindle" ⟨fault, 1, token, "duration"⟩) ∧
    ∀ (kind : PotionKind) (d l : String), Call.IsToken d → Call.IsToken l →
      let line := "effect(player, " ++ kind.name ++ ", " ++ d ++ ", " ++ l ++ ")"
      ((∃ call, Compile.keywordLine r line = .ok call) ↔
        (∃ m, Counts d m) ∧ ∃ n, Counts l n) ∧
      (∀ call m n, Compile.keywordLine r line = .ok call → Counts d m → Counts l n →
        Affects call kind m n) ∧
      ∀ e, Compile.keywordLine r line = .error e ↔
        (∃ fault, Miscounts d fault ∧ e = .invalidArgument "effect" ⟨fault, 2, d, "duration"⟩) ∨
          (∃ m, Counts d m) ∧
            ∃ fault, Miscounts l fault ∧ e = .invalidArgument "effect" ⟨fault, 3, l, "level"⟩ := by
  intro r
  have hkindle : r.keyword? "kindle" = some kindle :=
    (Registry.finds_of_append [.builtins] later "kindle").1 kindle rfl
  have heffect : r.keyword? "effect" = some effect :=
    (Registry.finds_of_append [.builtins] later "effect").1 effect rfl
  refine ⟨fun w text => ⟨PrimitiveKind.isSome_parse?_whole_iff w text, fun v hv =>
    ⟨PrimitiveKind.asWhole?_eq_some_iff hv, fun wider hwider =>
      PrimitiveKind.parse?_whole_of_bits_le hwider hv⟩⟩, fun token htoken => ?_,
    fun kind d l hd hl => ?_⟩
  · obtain ⟨hok, herror⟩ := kindle_line hkindle htoken
    refine ⟨?_, fun call n hcall hcounts => ?_, herror⟩
    · constructor
      · rintro ⟨call, hcall⟩
        obtain ⟨n, -, hcounts, -⟩ := (hok call).1 hcall
        exact ⟨_, hcounts⟩
      · rintro ⟨n, hcounts⟩
        obtain ⟨m, hzero, hcounts'⟩ := hcounts.exists_whole
        exact ⟨_, (hok _).2 ⟨m, hzero, hcounts', rfl⟩⟩
    · obtain ⟨m, hzero, hcounts', rfl⟩ := (hok call).1 hcall
      rw [hcounts.unique hcounts']
      exact kindles_of_count hzero
  · obtain ⟨hok, herror⟩ := effect_line heffect kind hd hl
    refine ⟨?_, fun call m n hcall hm hn => ?_, herror⟩
    · constructor
      · rintro ⟨call, hcall⟩
        obtain ⟨m, n, -, hcd, -, hcl, -⟩ := (hok call).1 hcall
        exact ⟨⟨_, hcd⟩, _, hcl⟩
      · rintro ⟨⟨m, hcd⟩, n, hcl⟩
        obtain ⟨m, hm, hcd'⟩ := hcd.exists_whole
        obtain ⟨n, hn, hcl'⟩ := hcl.exists_whole
        exact ⟨_, (hok _).2 ⟨m, n, hm, hcd', hn, hcl', rfl⟩⟩
    · obtain ⟨m', n', hm', hcd, hn', hcl, rfl⟩ := (hok call).1 hcall
      rw [hm.unique hcd, hn.unique hcl]
      exact affects_of_counts hm' hn' kind

/-- Leading zeros and a plus sign add nothing; one below zero is rejected, and the first number that
the integer width does not have is invalid. -/
theorem whole_numbers_reach_their_effects_ember :
    let r := Registry.enrolAll [.builtins]
    Call.IsToken "+0040" ∧ Counts "+0040" 40 ∧ Counts "2147483647" 2147483647 ∧
    (∃ call, Compile.keywordLine r ("kindle(player, " ++ "+0040" ++ ")") = .ok call ∧
      Kindles call 40) ∧
    Compile.keywordLine r ("kindle(player, " ++ "-1" ++ ")") =
      .error (.invalidArgument "kindle" ⟨.rejected, 1, "-1", "duration"⟩) ∧
    (∃ call, Compile.keywordLine r
        ("effect(player, " ++ PotionKind.speed.name ++ ", " ++ "+0040" ++ ", " ++
          "2147483647" ++ ")") = .ok call ∧ Affects call .speed 40 2147483647) ∧
    Compile.keywordLine r
        ("effect(player, " ++ PotionKind.speed.name ++ ", " ++ "2147483647" ++ ", " ++
          "2147483648" ++ ")") =
      .error (.invalidArgument "effect" ⟨.invalid, 3, "2147483648", "level"⟩) := by
  intro r
  obtain ⟨-, hkindle, heffect⟩ := whole_numbers_reach_their_effects []
  have htoken : Call.IsToken "+0040" := by decide
  have hforty : Counts "+0040" 40 := ⟨(whole?_eq_some_iff _ _).1 rfl, by decide⟩
  have hgreatest : Counts "2147483647" 2147483647 := ⟨(whole?_eq_some_iff _ _).1 rfl, by decide⟩
  refine ⟨htoken, hforty, hgreatest, ?_, ?_, ?_, ?_⟩
  · obtain ⟨hcompiles, hkindles, -⟩ := hkindle "+0040" htoken
    obtain ⟨call, hcall⟩ := hcompiles.2 ⟨40, hforty⟩
    exact ⟨call, hcall, hkindles call 40 hcall hforty⟩
  · obtain ⟨-, -, herror⟩ := hkindle "-1" (by decide)
    have hbelow : Denotes "-1".toList (-1) := (whole?_eq_some_iff _ _).1 rfl
    exact (herror _).2 ⟨.rejected, ⟨-1, hbelow, by decide, by decide⟩, rfl⟩
  · obtain ⟨hcompiles, haffects, -⟩ := heffect .speed "+0040" "2147483647" htoken (by decide)
    obtain ⟨call, hcall⟩ := hcompiles.2 ⟨⟨40, hforty⟩, _, hgreatest⟩
    exact ⟨call, hcall, haffects call 40 2147483647 hcall hforty hgreatest⟩
  · obtain ⟨-, -, herror⟩ := heffect .speed "2147483647" "2147483648" (by decide) (by decide)
    have hnext : Denotes "2147483648".toList 2147483648 := (whole?_eq_some_iff _ _).1 rfl
    refine (herror _).2 (.inr ⟨⟨_, hgreatest⟩, .invalid, fun n hn => ?_, rfl⟩)
    rw [hn.unique hnext]
    decide

end AbilityScript
