import AbilityScript.Compile
import AbilityScript.Proofs.ArgumentTyping

namespace AbilityScript

namespace Compile

variable {γ : Type}

def diagnosis? (ability : String) (kind : Section) : Except LineFault γ × Nat → Option Diagnostic
  | (.ok _, _) => none
  | (.error fault, number) => some ⟨ability, kind, number, fault⟩

def calls (outcomes : List (Except LineFault γ)) : List γ :=
  outcomes.filterMap Except.toOption

def diagnoses (ability : String) (kind : Section) (start : Nat)
    (outcomes : List (Except LineFault γ)) : List Diagnostic :=
  (outcomes.zipIdx start).filterMap (diagnosis? ability kind)

theorem lines_eq (ability : String) (kind : Section) (compile : String → Except LineFault γ)
    (start : Nat) (texts : List String) :
    lines ability kind compile start texts =
      (calls (texts.map compile), diagnoses ability kind start (texts.map compile)) := by
  induction texts generalizing start with
  | nil => rfl
  | cons text texts ih =>
    rw [lines, ih]
    cases h : compile text <;>
      simp only [calls, diagnoses, List.map_cons, h, List.zipIdx_cons, List.filterMap_cons,
        diagnosis?, Except.toOption]

theorem calls_append (xs ys : List (Except LineFault γ)) :
    calls (xs ++ ys) = calls xs ++ calls ys :=
  List.filterMap_append

theorem mem_calls_map {compile : String → Except LineFault γ} {texts : List String} {call : γ} :
    call ∈ calls (texts.map compile) ↔ ∃ text ∈ texts, compile text = .ok call := by
  have htoOption (text : String) :
      (compile text).toOption = some call ↔ compile text = .ok call := by
    cases compile text <;> simp [Except.toOption]
  simp [calls, List.mem_filterMap, htoOption]

theorem mem_diagnoses {ability : String} {kind : Section} {outcomes : List (Except LineFault γ)}
    {d : Diagnostic} :
    d ∈ diagnoses ability kind 0 outcomes ↔
      d.ability = ability ∧ d.kind = kind ∧ outcomes[d.line]? = some (.error d.fault) := by
  simp only [diagnoses, List.mem_filterMap, Prod.exists, List.mk_mem_zipIdx_iff_getElem?]
  constructor
  · rintro ⟨outcome, number, hat, hd⟩
    cases outcome with
    | ok call => cases hd
    | error fault =>
      cases hd
      exact ⟨rfl, rfl, hat⟩
  · rintro ⟨rfl, rfl, hat⟩
    exact ⟨_, _, hat, rfl⟩

theorem arguments_eq_ok_iff (function : String) (schemas : List Schema) (tokens : List String)
    (a : Arguments) :
    arguments function schemas tokens = .ok a ↔
      schemas.length = tokens.length ∧ Arguments.resolve schemas tokens = .ok a := by
  by_cases hlen : schemas.length = tokens.length
  · cases hr : Arguments.resolve schemas tokens <;>
      simp [arguments, hlen, hr, Except.mapError]
  · simp [arguments, hlen]

theorem line_eq_ok_iff {φ : Type} (kind : Section) (find? : String → Option φ)
    (schema : φ → List Schema) (text : String) (f : φ) (a : Arguments) :
    line kind find? schema text = .ok (f, a) ↔
      ∃ call, Call.parse? text = some call ∧ find? call.name = some f ∧
        arguments call.name (schema f) call.tokens = .ok a := by
  cases hcall : Call.parse? text with
  | none => simp [line, hcall]
  | some call =>
    cases hf : find? call.name with
    | none => simp [line, hcall, hf]
    | some g =>
      cases ha : arguments call.name (schema g) call.tokens with
      | error fault =>
        -- The call and the function are determined by the text, so no other outcome is possible.
        simp only [line, hcall, hf, ha, Except.map, reduceCtorEq, Option.some.injEq, false_iff]
        rintro ⟨call', rfl, hg, ha'⟩
        obtain rfl : g = f := Option.some.inj (hf.symm.trans hg)
        rw [ha] at ha'
        cases ha'
      | ok b =>
        simp only [line, hcall, hf, ha, Except.map, Except.ok.injEq, Prod.mk.injEq,
          Option.some.injEq]
        constructor
        · rintro ⟨rfl, rfl⟩
          exact ⟨call, rfl, hf, ha⟩
        · rintro ⟨call', rfl, hg, ha'⟩
          obtain rfl : g = f := Option.some.inj (hf.symm.trans hg)
          exact ⟨rfl, Except.ok.inj (ha.symm.trans ha')⟩

/-- The arguments of a compiled line are typed by the schemas of the function that it calls. -/
theorem typed_of_line {φ : Type} {kind : Section} {find? : String → Option φ}
    {schema : φ → List Schema} {text : String} {f : φ} {a : Arguments}
    (h : line kind find? schema text = .ok (f, a)) : a.Typed (schema f) := by
  obtain ⟨call, -, -, ha⟩ := (line_eq_ok_iff kind find? schema text f a).1 h
  obtain ⟨hlen, hr⟩ := (arguments_eq_ok_iff call.name (schema f) call.tokens a).1 ha
  exact Arguments.typed_of_resolve hlen hr

theorem find?_of_line {φ : Type} {kind : Section} {find? : String → Option φ}
    {schema : φ → List Schema} {text : String} {f : φ} {a : Arguments}
    (h : line kind find? schema text = .ok (f, a)) : ∃ name, find? name = some f := by
  obtain ⟨call, -, hf, -⟩ := (line_eq_ok_iff kind find? schema text f a).1 h
  exact ⟨call.name, hf⟩

theorem line_of_keywordLine {r : Registry} {text : String} {call : KeywordCall Ability}
    (h : keywordLine r text = .ok call) :
    line .keywords r.keyword? Keyword.schema text = .ok (call.keyword, call.arguments) := by
  cases hl : line .keywords r.keyword? Keyword.schema text with
  | error fault => simp [keywordLine, hl, Except.map] at h
  | ok parts =>
    obtain rfl : ⟨parts.1, parts.2⟩ = call := by simpa [keywordLine, hl, Except.map] using h
    rfl

theorem line_of_conditionLine {r : Registry} {text : String} {call : ConditionCall Ability}
    (h : conditionLine r text = .ok call) :
    line .conditions r.condition? Condition.schema text = .ok (call.condition, call.arguments) := by
  cases hl : line .conditions r.condition? Condition.schema text with
  | error fault => simp [conditionLine, hl, Except.map] at h
  | ok parts =>
    obtain rfl : ⟨parts.1, parts.2⟩ = call := by simpa [conditionLine, hl, Except.map] using h
    rfl

theorem typed_of_keywordLine {r : Registry} {text : String} {call : KeywordCall Ability}
    (h : keywordLine r text = .ok call) : call.arguments.Typed call.keyword.schema :=
  typed_of_line (line_of_keywordLine h)

theorem typed_of_conditionLine {r : Registry} {text : String} {call : ConditionCall Ability}
    (h : conditionLine r text = .ok call) : call.arguments.Typed call.condition.schema :=
  typed_of_line (line_of_conditionLine h)

end Compile

namespace Registry

/-- The keyword lines of an ability compile as soon as its trigger is known. -/
theorem compileLines_eq_ok_iff (r : Registry) (name trigger : String) (texts : List String)
    (c : Compilation) :
    (r.compileLines name trigger texts).value = .ok c ↔
      ∃ t, Trigger.ofText? trigger = some t ∧
        c = ⟨⟨name, t, Compile.calls (texts.map (Compile.keywordLine r)), [], none⟩,
          Compile.diagnoses name .keywords 0 (texts.map (Compile.keywordLine r))⟩ := by
  cases ht : Trigger.ofText? trigger with
  | none => simp [compileLines, Compile.trigger, ht]
  | some t => simp [compileLines, Compile.trigger, ht, Compile.lines_eq, eq_comm]

/-- A definition compiles as soon as its trigger is known and it has the period that its trigger
asks for. -/
theorem compile_eq_ok_iff (r : Registry) (name : String) (d : Definition) (c : Compilation) :
    (r.compile name d).value = .ok c ↔
      ∃ t p, Trigger.ofText? d.trigger = some t ∧ Compile.period name t d.timer = .ok p ∧
        c = ⟨⟨name, t, Compile.calls (d.keywords.map (Compile.keywordLine r)),
            Compile.calls (d.conditions.map (Compile.conditionLine r)), p⟩,
          Compile.diagnoses name .keywords 0 (d.keywords.map (Compile.keywordLine r)) ++
            Compile.diagnoses name .conditions 0 (d.conditions.map (Compile.conditionLine r))⟩ := by
  cases ht : Trigger.ofText? d.trigger with
  | none => simp [compile, Compile.trigger, ht]
  | some t =>
    cases hp : Compile.period name t d.timer with
    | error e => simp [compile, Compile.trigger, ht, hp]
    | ok p => simp [compile, Compile.trigger, ht, hp, Compile.lines_eq, eq_comm]

def Produces (r : Registry) (a : Ability) : Prop :=
  (∃ name trigger texts c, (r.compileLines name trigger texts).value = .ok c ∧ c.ability = a) ∨
    ∃ name d c, (r.compile name d).value = .ok c ∧ c.ability = a

/-- Every call of a compiled ability is the outcome of a line. -/
theorem Produces.lines {r : Registry} {a : Ability} (h : r.Produces a) :
    (∀ c ∈ a.keywords, ∃ text, Compile.keywordLine r text = .ok c) ∧
      ∀ c ∈ a.conditions, ∃ text, Compile.conditionLine r text = .ok c := by
  rcases h with ⟨name, trigger, texts, c, hc, rfl⟩ | ⟨name, d, c, hc, rfl⟩
  · obtain ⟨t, -, rfl⟩ := (r.compileLines_eq_ok_iff name trigger texts c).1 hc
    refine ⟨fun call hcall => ?_, by simp⟩
    obtain ⟨text, -, htext⟩ := Compile.mem_calls_map.1 hcall
    exact ⟨text, htext⟩
  -- A definition has both lists; keyword lines alone leave the conditions empty.
  · obtain ⟨t, p, -, -, rfl⟩ := (r.compile_eq_ok_iff name d c).1 hc
    refine ⟨fun call hcall => ?_, fun call hcall => ?_⟩
    · obtain ⟨text, -, htext⟩ := Compile.mem_calls_map.1 hcall
      exact ⟨text, htext⟩
    · obtain ⟨text, -, htext⟩ := Compile.mem_calls_map.1 hcall
      exact ⟨text, htext⟩

theorem Produces.typed {r : Registry} {a : Ability} (h : r.Produces a) :
    (∀ c ∈ a.keywords, c.arguments.Typed c.keyword.schema) ∧
      ∀ c ∈ a.conditions, c.arguments.Typed c.condition.schema := by
  refine ⟨fun c hc => ?_, fun c hc => ?_⟩
  · obtain ⟨text, htext⟩ := h.lines.1 c hc
    exact Compile.typed_of_keywordLine htext
  · obtain ⟨text, htext⟩ := h.lines.2 c hc
    exact Compile.typed_of_conditionLine htext

end Registry

end AbilityScript
