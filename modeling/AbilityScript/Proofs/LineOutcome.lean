import AbilityScript.Proofs.CallGrammar
import AbilityScript.Proofs.CompiledLines
import AbilityScript.Proofs.RegistryHistory
import AbilityScript.Proofs.Resolution

namespace AbilityScript

open Text

/-- The outcome of a line, for the registered functions of one kind with their names and schemas;
`call` makes a call of a function and its arguments. The cases exclude one another. -/
inductive LineOutcome {φ γ : Type} (kind : Section) (registered : φ → Prop) (nameOf : φ → String)
    (schema : φ → List Schema) (call : φ → Arguments → γ) (line : String) :
    Except LineFault γ → Prop
  | malformed (unread : ¬ ∃ c, Call.Reads line c) :
      LineOutcome kind registered nameOf schema call line (.error (.malformedCall (trim line)))
  | unknown {c : Call} (read : Call.Reads line c)
      (unnamed : ∀ f, registered f → sameLetters (nameOf f) c.name = false) :
      LineOutcome kind registered nameOf schema call line (.error (.unknownFunction kind c.name))
  | miscounted {c : Call} {f : φ} (read : Call.Reads line c) (found : registered f)
      (named : sameLetters (nameOf f) c.name = true)
      (differs : (schema f).length ≠ c.tokens.length) :
      LineOutcome kind registered nameOf schema call line
        (.error (.argumentCount c.name (schema f).length c.tokens.length))
  /-- The first token that is not accepted is not converted. -/
  | invalid {c : Call} {f : φ} {i : Nat} {s : Schema} {raw : String} (read : Call.Reads line c)
      (found : registered f) (named : sameLetters (nameOf f) c.name = true)
      (counted : (schema f).length = c.tokens.length)
      (first : Arguments.FirstFault (schema f) c.tokens i s raw)
      (unconverted : s.convert? raw = none) :
      LineOutcome kind registered nameOf schema call line
        (.error (.invalidArgument c.name ⟨.invalid, i, raw, s.expected⟩))
  /-- The first token that is not accepted is converted, so its value is refused. -/
  | rejected {c : Call} {f : φ} {i : Nat} {s : Schema} {raw : String} {v : Value}
      (read : Call.Reads line c) (found : registered f)
      (named : sameLetters (nameOf f) c.name = true)
      (counted : (schema f).length = c.tokens.length)
      (first : Arguments.FirstFault (schema f) c.tokens i s raw)
      (converted : s.convert? raw = some v) :
      LineOutcome kind registered nameOf schema call line
        (.error (.invalidArgument c.name ⟨.rejected, i, raw, s.expected⟩))
  | compiled {c : Call} {f : φ} {values : List Value} (read : Call.Reads line c)
      (found : registered f) (named : sameLetters (nameOf f) c.name = true)
      (counted : (schema f).length = c.tokens.length)
      (sized : values.length = (schema f).length)
      (resolved : ∀ (i : Nat) (s : Schema) (raw : String), (schema f)[i]? = some s →
        c.tokens[i]? = some raw → ∃ v, values[i]? = some v ∧ s.resolve raw i = .ok v) :
      LineOutcome kind registered nameOf schema call line (.ok (call f ⟨values⟩))

namespace Compile

theorem arguments_of_length_ne {function : String} {schemas : List Schema} {tokens : List String}
    (h : schemas.length ≠ tokens.length) :
    arguments function schemas tokens =
      .error (.argumentCount function schemas.length tokens.length) := by
  rw [arguments, if_neg h]

section Outcome

variable {φ γ : Type} {kind : Section} {find? : String → Option φ} {registered : φ → Prop}
  {nameOf : φ → String} {schema : φ → List Schema}

/-- A line that is a call of a registered function comes to what its arguments come to. -/
theorem line_of_found {text : String} {c : Call} {f : φ} (read : Call.Reads text c)
    (hfind : find? c.name = some f) :
    line kind find? schema text =
      (arguments c.name (schema f) c.tokens).map fun values => (f, values) := by
  rw [line, (Call.parse?_eq_some_iff text c).2 read]
  simp only [hfind]

/-- With the number of tokens that the function asks for, it comes to what these resolve to. -/
theorem line_of_counted {text : String} {c : Call} {f : φ} (read : Call.Reads text c)
    (hfind : find? c.name = some f) (counted : (schema f).length = c.tokens.length) :
    line kind find? schema text =
      ((Arguments.resolve (schema f) c.tokens).mapError (.invalidArgument c.name)).map
        fun values => (f, values) := by
  rw [line_of_found read hfind, arguments, if_pos counted]

/-- What comes of such a line: a call with the values that the tokens resolve to, or the fault in
the first token that does not. -/
theorem line_of_parse? {text : String} {c : Call} {f : φ} (read : Call.parse? text = some c)
    (hfind : find? c.name = some f) (counted : (schema f).length = c.tokens.length)
    (call : φ → Arguments → γ) :
    (∀ out, (line kind find? schema text).map (fun parts => call parts.1 parts.2) = .ok out ↔
      ∃ a, Arguments.resolve (schema f) c.tokens = .ok a ∧ out = call f a) ∧
    ∀ e, (line kind find? schema text).map (fun parts => call parts.1 parts.2) = .error e ↔
      ∃ fault, Arguments.resolve (schema f) c.tokens = .error fault ∧
        e = .invalidArgument c.name fault := by
  rw [line_of_counted ((Call.parse?_eq_some_iff text c).1 read) hfind counted]
  cases Arguments.resolve (schema f) c.tokens <;> simp [Except.mapError, Except.map, eq_comm]

variable (registered_iff : ∀ name f, find? name = some f ↔
  registered f ∧ sameLetters (nameOf f) name = true)

include registered_iff

theorem find?_eq_none_iff (name : String) :
    find? name = none ↔ ∀ f, registered f → sameLetters (nameOf f) name = false := by
  rw [Option.eq_none_iff_forall_ne_some]
  refine forall_congr' fun f => ?_
  rw [ne_eq, registered_iff, not_and, Bool.not_eq_true]

/-- Compilation decides a line as the reference does. -/
theorem line_of_outcome {call : φ → Arguments → γ} {text : String} {out : Except LineFault γ}
    (h : LineOutcome kind registered nameOf schema call text out) :
    (line kind find? schema text).map (fun parts => call parts.1 parts.2) = out := by
  cases h with
  | malformed unread => rw [line, (Call.parse?_eq_none_iff text).2 unread]; rfl
  | unknown read unnamed =>
    rw [line, (Call.parse?_eq_some_iff text _).2 read]
    simp only [(find?_eq_none_iff registered_iff _).2 unnamed]
    rfl
  | miscounted read found named differs =>
    rw [line_of_found read ((registered_iff _ _).2 ⟨found, named⟩), arguments_of_length_ne differs]
    rfl
  | invalid read found named counted first unconverted =>
    have hresolve := (Arguments.resolve_eq_error_iff _).2
      ⟨_, _, _, _, first, (Schema.read_eq_invalid_iff _ _).2 unconverted, rfl⟩
    rw [line_of_counted read ((registered_iff _ _).2 ⟨found, named⟩) counted, hresolve]
    rfl
  | @rejected c f i s raw v read found named counted first converted =>
    -- The token is converted and yet not accepted, so it is the restriction that refuses it.
    have hrefused : s.refuses v = true := by
      by_contra hno
      exact first.refused ⟨v, converted, by simpa using hno⟩
    have hresolve := (Arguments.resolve_eq_error_iff _).2
      ⟨_, _, _, _, first, (Schema.read_eq_rejected_iff _ _).2 ⟨v, converted, hrefused⟩, rfl⟩
    rw [line_of_counted read ((registered_iff _ _).2 ⟨found, named⟩) counted, hresolve]
    rfl
  | compiled read found named counted sized resolved =>
    have hresolve := (Arguments.resolve_eq_ok_iff counted ⟨_⟩).2 ⟨sized, resolved⟩
    rw [line_of_counted read ((registered_iff _ _).2 ⟨found, named⟩) counted, hresolve]
    rfl

/-- Every line has an outcome. -/
theorem exists_outcome (kind : Section) (schema : φ → List Schema) (call : φ → Arguments → γ)
    (text : String) : ∃ out, LineOutcome kind registered nameOf schema call text out := by
  -- Each stage is decided once the stages before it are passed.
  by_cases hread : ∃ c, Call.Reads text c
  swap
  · exact ⟨_, .malformed hread⟩
  obtain ⟨c, read⟩ := hread
  rcases hfind : find? c.name with _ | f
  · exact ⟨_, .unknown read ((find?_eq_none_iff registered_iff c.name).1 hfind)⟩
  obtain ⟨found, named⟩ := (registered_iff c.name f).1 hfind
  by_cases counted : (schema f).length = c.tokens.length
  swap
  · exact ⟨_, .miscounted read found named counted⟩
  rcases hresolve : Arguments.resolve (schema f) c.tokens with e | a
  · obtain ⟨i, s, raw, fault, first, hfault, -⟩ := (Arguments.resolve_eq_error_iff e).1 hresolve
    rcases hconvert : s.convert? raw with _ | v
    · exact ⟨_, .invalid read found named counted first hconvert⟩
    · exact ⟨_, .rejected read found named counted first hconvert⟩
  · obtain ⟨sized, resolved⟩ := (Arguments.resolve_eq_ok_iff counted a).1 hresolve
    exact ⟨_, .compiled read found named counted sized resolved⟩

/-- The outcome of a line is the one that compilation gives it, and no other. -/
theorem outcome_iff (call : φ → Arguments → γ) (text : String) (out : Except LineFault γ) :
    LineOutcome kind registered nameOf schema call text out ↔
      (line kind find? schema text).map (fun parts => call parts.1 parts.2) = out := by
  refine ⟨line_of_outcome registered_iff, ?_⟩
  rintro rfl
  -- Compilation is a function, so the outcome that exists is the one it gives.
  obtain ⟨out, h⟩ := exists_outcome registered_iff kind schema call text
  rw [line_of_outcome registered_iff h]
  exact h

end Outcome

theorem keywordLine_of_parse? {r : Registry} {text : String} {c : Call} {k : Keyword Ability}
    (read : Call.parse? text = some c) (hfind : r.keyword? c.name = some k)
    (counted : k.schema.length = c.tokens.length) :
    (∀ call, keywordLine r text = .ok call ↔
      ∃ a, Arguments.resolve k.schema c.tokens = .ok a ∧ call = ⟨k, a⟩) ∧
    ∀ e, keywordLine r text = .error e ↔
      ∃ fault, Arguments.resolve k.schema c.tokens = .error fault ∧
        e = .invalidArgument c.name fault :=
  line_of_parse? read hfind counted KeywordCall.mk

theorem conditionLine_of_parse? {r : Registry} {text : String} {c : Call} {k : Condition Ability}
    (read : Call.parse? text = some c) (hfind : r.condition? c.name = some k)
    (counted : k.schema.length = c.tokens.length) :
    (∀ call, conditionLine r text = .ok call ↔
      ∃ a, Arguments.resolve k.schema c.tokens = .ok a ∧ call = ⟨k, a⟩) ∧
    ∀ e, conditionLine r text = .error e ↔
      ∃ fault, Arguments.resolve k.schema c.tokens = .error fault ∧
        e = .invalidArgument c.name fault :=
  line_of_parse? read hfind counted ConditionCall.mk

/-- Lines that are decided one by one are decided as a list. -/
theorem map_eq_of_outcomes {γ : Type} {compile : String → Except LineFault γ}
    {outcome : String → Except LineFault γ → Prop}
    (h : ∀ line out, outcome line out ↔ compile line = out) {lines : List String}
    {outs : List (Except LineFault γ)} (houts : List.Forall₂ outcome lines outs) :
    lines.map compile = outs := by
  have heq : List.Forall₂ (· = ·) (lines.map compile) outs :=
    List.forall₂_map_left_iff.2 (houts.imp fun line out hout => (h line out).1 hout)
  rwa [List.forall₂_eq_eq_eq] at heq

end Compile

namespace Registry

def KeywordOutcome (r : Registry) (line : String) :
    Except LineFault (KeywordCall Ability) → Prop :=
  LineOutcome .keywords (· ∈ r.keywords.items) Keyword.name Keyword.schema KeywordCall.mk line

def ConditionOutcome (r : Registry) (line : String) :
    Except LineFault (ConditionCall Ability) → Prop :=
  LineOutcome .conditions (· ∈ r.conditions.items) Condition.name Condition.schema ConditionCall.mk
    line

variable {r : Registry}

theorem Reachable.keywordOutcome_iff (h : r.Reachable) (line : String)
    (out : Except LineFault (KeywordCall Ability)) :
    r.KeywordOutcome line out ↔ Compile.keywordLine r line = out :=
  Compile.outcome_iff h.keyword?_eq_some_iff KeywordCall.mk line out

theorem Reachable.conditionOutcome_iff (h : r.Reachable) (line : String)
    (out : Except LineFault (ConditionCall Ability)) :
    r.ConditionOutcome line out ↔ Compile.conditionLine r line = out :=
  Compile.outcome_iff h.condition?_eq_some_iff ConditionCall.mk line out

/-- With any functions registered, each line of an ability has just one outcome, and the outcomes of
the lines are the whole of what is compiled: their calls in order, and a diagnostic with its number
for each line that has none. -/
theorem compile_decides_each_line (r : Registry) (hr : r.Reachable) :
    (∀ line, (∃! out, r.KeywordOutcome line out) ∧ ∃! out, r.ConditionOutcome line out) ∧
    (∀ name trigger t lines outs, Trigger.ofText? trigger = some t →
      List.Forall₂ r.KeywordOutcome lines outs →
        (r.compileLines name trigger lines).value = .ok
          ⟨⟨name, t, Compile.calls outs, [], none⟩, Compile.diagnoses name .keywords 0 outs⟩) ∧
    ∀ name d t period outs outs', Trigger.ofText? d.trigger = some t →
      Compile.period name t d.timer = .ok period →
      List.Forall₂ r.KeywordOutcome d.keywords outs →
      List.Forall₂ r.ConditionOutcome d.conditions outs' →
        (r.compile name d).value = .ok
          ⟨⟨name, t, Compile.calls outs, Compile.calls outs', period⟩,
            Compile.diagnoses name .keywords 0 outs ++
              Compile.diagnoses name .conditions 0 outs'⟩ := by
  refine ⟨fun line => ⟨⟨_, (hr.keywordOutcome_iff line _).2 rfl, fun out h => ?_⟩,
    ⟨_, (hr.conditionOutcome_iff line _).2 rfl, fun out h => ?_⟩⟩, ?_, ?_⟩
  · exact ((hr.keywordOutcome_iff line out).1 h).symm
  · exact ((hr.conditionOutcome_iff line out).1 h).symm
  · intro name trigger t lines outs ht houts
    refine (r.compileLines_eq_ok_iff name trigger lines _).2 ⟨t, ht, ?_⟩
    rw [Compile.map_eq_of_outcomes hr.keywordOutcome_iff houts]
  · intro name d t period outs outs' ht hperiod houts houts'
    refine (r.compile_eq_ok_iff name d _).2 ⟨t, period, ht, hperiod, ?_⟩
    rw [Compile.map_eq_of_outcomes hr.keywordOutcome_iff houts,
      Compile.map_eq_of_outcomes hr.conditionOutcome_iff houts']

/-- The first line calls a built-in function, and the second is no call. -/
theorem compile_decides_lightning :
    withBuiltins.registry.Reachable ∧
      (withBuiltins.registry.compileLines "storm" "damage-taken"
          ["lightning(?entity)", "lightning"]).value = .ok
        ⟨⟨"storm", .damageTaken, [⟨Builtin.lightning, ⟨[.targeter .entity]⟩⟩], [], none⟩,
          [⟨"storm", .keywords, 1, .malformedCall "lightning"⟩]⟩ := by
  have hcall : Compile.keywordLine withBuiltins.registry "lightning(?entity)" =
      .ok ⟨Builtin.lightning, ⟨[.targeter .entity]⟩⟩ := rfl
  have hword : Compile.keywordLine withBuiltins.registry "lightning" =
      .error (.malformedCall "lightning") := rfl
  have houts : List.Forall₂ withBuiltins.registry.KeywordOutcome ["lightning(?entity)", "lightning"]
      [.ok ⟨Builtin.lightning, ⟨[.targeter .entity]⟩⟩, .error (.malformedCall "lightning")] :=
    .cons ((reachable_withBuiltins.keywordOutcome_iff _ _).2 hcall)
      (.cons ((reachable_withBuiltins.keywordOutcome_iff _ _).2 hword) .nil)
  exact ⟨reachable_withBuiltins, (compile_decides_each_line _ reachable_withBuiltins).2.1 _ _ _ _ _
    (by decide) houts⟩

end Registry

end AbilityScript
