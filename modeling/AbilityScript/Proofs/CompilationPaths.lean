import AbilityScript.Proofs.CompileReport
import AbilityScript.Proofs.Enrolment
import AbilityScript.Proofs.LineIndependence
import AbilityScript.Proofs.LineOutcome

namespace AbilityScript

open Text

namespace Compile

inductive Agrees (r : Registry) (text : String) : Prop
  | calls {k c a} (keyword : keywordLine r text = .ok ⟨k, a⟩)
      (condition : conditionLine r text = .ok ⟨c, a⟩) : Agrees r text
  | fault {fault} (keyword : keywordLine r text = .error fault)
      (condition : conditionLine r text = .error fault) : Agrees r text

variable {r : Registry} {text : String}

theorem agrees_of_call {call : Call} {k : Keyword Ability} {c : Condition Ability}
    (read : Call.Reads text call) (hk : r.keyword? call.name = some k)
    (hc : r.condition? call.name = some c) (hschema : k.schema = c.schema) : Agrees r text := by
  have hkeyword : keywordLine r text =
      (arguments call.name k.schema call.tokens).map (KeywordCall.mk k) := by
    rw [keywordLine, line_of_found read hk]
    cases arguments call.name k.schema call.tokens <;> rfl
  have hcondition : conditionLine r text =
      (arguments call.name k.schema call.tokens).map (ConditionCall.mk c) := by
    rw [conditionLine, line_of_found read hc, hschema]
    cases arguments call.name c.schema call.tokens <;> rfl
  cases harguments : arguments call.name k.schema call.tokens with
  | ok a =>
    rw [harguments] at hkeyword hcondition
    exact .calls hkeyword hcondition
  | error fault =>
    rw [harguments] at hkeyword hcondition
    exact .fault hkeyword hcondition

theorem malformed_of_unread (r : Registry) (unread : ¬ ∃ call, Call.Reads text call) :
    keywordLine r text = .error (.malformedCall (trim text)) ∧
      conditionLine r text = .error (.malformedCall (trim text)) := by
  have hnone := (Call.parse?_eq_none_iff text).2 unread
  constructor
  · rw [keywordLine, line, hnone]
    rfl
  · rw [conditionLine, line, hnone]
    rfl

theorem Agrees.error_iff (h : Agrees r text) (fault : LineFault) :
    keywordLine r text = .error fault ↔ conditionLine r text = .error fault := by
  cases h with
  | calls keyword condition => simp [keyword, condition]
  | fault keyword condition => simp [keyword, condition]

/-- Lists of such lines have the same arguments in the same order, and the same diagnostics but for
the list that these name. -/
theorem lists_of_agrees {texts : List String} (h : ∀ text ∈ texts, Agrees r text) (ability : String)
    (start : Nat) :
    (calls (texts.map (keywordLine r))).map KeywordCall.arguments =
        (calls (texts.map (conditionLine r))).map ConditionCall.arguments ∧
      diagnoses ability .conditions start (texts.map (conditionLine r)) =
        (diagnoses ability .keywords start (texts.map (keywordLine r))).map
          fun d => { d with kind := .conditions } := by
  constructor
  · rw [calls, calls, List.filterMap_map, List.filterMap_map, List.map_filterMap,
      List.map_filterMap]
    refine List.filterMap_congr fun text htext => ?_
    cases h text htext with
    | calls keyword condition => simp [keyword, condition, Except.toOption]
    | fault keyword condition => simp [keyword, condition, Except.toOption]
  · rw [diagnoses, diagnoses, List.zipIdx_map, List.zipIdx_map, List.filterMap_map,
      List.filterMap_map, List.map_filterMap]
    refine List.filterMap_congr ?_
    rintro ⟨text, number⟩ hnumbered
    cases h text (List.fst_mem_of_mem_zipIdx hnumbered) with
    | calls keyword condition => simp [keyword, condition, diagnosis?]
    | fault keyword condition => simp [keyword, condition, diagnosis?]

end Compile

namespace Registry

variable {r : Registry}

/-- The line may as well stand in the other list: it calls, in any case of letters, a name that a
keyword and a condition with the same schemas have, or it is no call. -/
inductive Shares (r : Registry) (text : String) : Prop
  | call {call name k c} (read : Call.Reads text call)
      (named : sameLetters call.name name = true) (keyword : r.keyword? name = some k)
      (condition : r.condition? name = some c) (schema : k.schema = c.schema) : Shares r text
  | unread (unread : ¬ ∃ call, Call.Reads text call) : Shares r text

theorem Shares.agrees {text : String} (h : r.Shares text) : Compile.Agrees r text := by
  cases h with
  | @call call name k c read named keyword condition schema =>
    have hlower := (sameLetters_iff call.name name).1 named
    have hkeyword : r.keyword? call.name = some k := by rw [keyword?, hlower]; exact keyword
    have hcondition : r.condition? call.name = some c := by
      rw [condition?, hlower]
      exact condition
    exact Compile.agrees_of_call read hkeyword hcondition schema
  | unread unread =>
    obtain ⟨hkeyword, hcondition⟩ := Compile.malformed_of_unread r unread
    exact .fault hkeyword hcondition

/-- A line that stands at the same place in both lists has the same diagnostics there. -/
theorem Shares.mem_diagnostics_iff {text : String} (h : r.Shares text) {name : String}
    {d : Definition} {c : Compilation} (hc : (r.compile name d).value = .ok c) {i : Nat}
    (hkeyword : d.keywords[i]? = some text) (hcondition : d.conditions[i]? = some text)
    (fault : LineFault) :
    ⟨name, .keywords, i, fault⟩ ∈ c.diagnostics ↔
      ⟨name, .conditions, i, fault⟩ ∈ c.diagnostics := by
  obtain ⟨t, period, -, -, rfl⟩ := (r.compile_eq_ok_iff name d c).1 hc
  simp [Compile.mem_diagnoses, hkeyword, hcondition, h.agrees.error_iff fault]

/-- Keyword lines for a trigger compile as a definition with these lines alone, whatever period it
has. -/
theorem compileLines_eq_compile {trigger : String} (h : Trigger.ofText? trigger ≠ some .timer)
    (name : String) (texts : List String) (timer : Option Nat) :
    (r.compileLines name trigger texts).value =
      (r.compile name ⟨trigger, texts, [], timer⟩).value := by
  cases ht : Trigger.ofText? trigger with
  | none => simp [compileLines, compile, Compile.trigger, ht]
  | some t =>
    have hother : t ≠ .timer := fun htimer => h (htimer ▸ ht)
    have hperiod := Compile.period_of_ne_timer name hother timer
    simp [compileLines, compile, Compile.trigger, ht, hperiod, Compile.lines]

/-- A line that calls a name of a keyword and a condition with the same schemas, in any case of
letters, comes to the same in both lists, and a line that is no call is malformed in both; this
shows in a definition, wherever the line stands in both of its lists, and in the whole of two equal
lists. Keyword lines for a trigger other than the timer compile as the definition does that has no
others, with whatever period: to one ability with the same diagnostics, or to an error about the
trigger. -/
theorem compilation_paths_agree (r : Registry) :
    (∀ name k c, r.keyword? name = some k → r.condition? name = some c → k.schema = c.schema →
      ∀ text call, Call.Reads text call → sameLetters call.name name = true →
        Compile.Agrees r text) ∧
    (∀ text, (¬ ∃ call, Call.Reads text call) →
      Compile.keywordLine r text = .error (.malformedCall (trim text)) ∧
        Compile.conditionLine r text = .error (.malformedCall (trim text))) ∧
    (∀ name d c i text, (r.compile name d).value = .ok c → r.Shares text →
      d.keywords[i]? = some text → d.conditions[i]? = some text → ∀ fault,
        (⟨name, .keywords, i, fault⟩ ∈ c.diagnostics ↔
          ⟨name, .conditions, i, fault⟩ ∈ c.diagnostics)) ∧
    (∀ name trigger texts timer c, (∀ text ∈ texts, r.Shares text) →
      (r.compile name ⟨trigger, texts, texts, timer⟩).value = .ok c →
        c.ability.keywords.map KeywordCall.arguments =
            c.ability.conditions.map ConditionCall.arguments ∧
          c.faults .conditions = (c.faults .keywords).map fun d => { d with kind := .conditions }) ∧
    ∀ name trigger texts timer, Trigger.ofText? trigger ≠ some .timer →
      (r.compileLines name trigger texts).value =
          (r.compile name ⟨trigger, texts, [], timer⟩).value ∧
        ((∃ c, (r.compileLines name trigger texts).value = .ok c) ∨
          (r.compileLines name trigger texts).value = .error (.unknownTrigger name trigger)) := by
  refine ⟨?_, fun text => Compile.malformed_of_unread r, ?_, ?_, ?_⟩
  · intro name k c hk hc hschema text call read named
    have hshares : r.Shares text := .call read named hk hc hschema
    exact hshares.agrees
  · intro name d c i text hc hshares hkeyword hcondition
    exact hshares.mem_diagnostics_iff hc hkeyword hcondition
  · intro name trigger texts timer c hshares hc
    obtain ⟨hkeywords, hconditions, -⟩ := faults_of_compile hc
    obtain ⟨harguments, hdiagnoses⟩ :=
      Compile.lists_of_agrees (fun text htext => (hshares text htext).agrees) name 0
    rw [hkeywords, hconditions]
    obtain ⟨t, period, -, -, rfl⟩ := (r.compile_eq_ok_iff name _ c).1 hc
    exact ⟨harguments, hdiagnoses⟩
  · intro name trigger texts timer htimer
    refine ⟨compileLines_eq_compile htimer name texts timer, ?_⟩
    cases ht : Trigger.ofText? trigger with
    | none => exact .inr (by simp [compileLines, Compile.trigger, ht])
    | some t => exact .inl ⟨_, (r.compileLines_eq_ok_iff name trigger texts _).2 ⟨t, ht, rfl⟩⟩

def ward : Keyword Ability :=
  ⟨"HealthAbove", Builtin.healthAbove.schema, false, fun _ _ _ => []⟩

/-- Of three lines that stand in both lists one compiles, one has too few arguments, and the last is
no call. -/
theorem compilation_paths_agree_ward :
    let r := (empty.registerAll [.keyword ward, .condition Builtin.healthAbove]).registry
    let texts := ["healthABOVE(?player, 5)", "healthabove(?player)", "healthabove"]
    ∃ c, (r.compile "ward" ⟨"damage-taken", texts, texts, some 3⟩).value = .ok c ∧
      c.ability.keywords.map KeywordCall.arguments =
        c.ability.conditions.map ConditionCall.arguments ∧
      c.faults .conditions = (c.faults .keywords).map (fun d => { d with kind := .conditions }) ∧
      (∀ fault, (⟨"ward", .keywords, 1, fault⟩ ∈ c.diagnostics ↔
        ⟨"ward", .conditions, 1, fault⟩ ∈ c.diagnostics)) ∧
      Compile.Agrees r "healthABOVE(?player, 5)" ∧
      Compile.conditionLine r "healthabove" = .error (.malformedCall "healthabove") ∧
      (r.compileLines "ward" "damage-taken" texts).value =
        (r.compile "ward" ⟨"damage-taken", texts, [], some 3⟩).value := by
  intro r texts
  have henrols := (enrols_empty.registerAll [.keyword ward, .condition Builtin.healthAbove]).2
  have hroll : Enrolment.admitted [] [.keyword ward, .condition Builtin.healthAbove] =
      [.keyword ward, .condition Builtin.healthAbove] := by
    simp [Enrolment.admitted, Function.Clashes, Function.kind]
  rw [hroll] at henrols
  have hk : r.keyword? "healthabove" = some ward :=
    (henrols.keywords.get? "healthabove").trans (List.find?_cons_of_pos (by decide))
  have hc : r.condition? "healthabove" = some Builtin.healthAbove :=
    (henrols.conditions.get? "healthabove").trans (List.find?_cons_of_pos (by decide))
  have hreads (text : String) (call : Call) (h : Call.parse? text = some call) :
      Call.Reads text call := (Call.parse?_eq_some_iff text call).1 h
  have hfull := hreads "healthABOVE(?player, 5)" ⟨"healthABOVE", ["?player", "5"]⟩ (by decide)
  have hshort := hreads "healthabove(?player)" ⟨"healthabove", ["?player"]⟩ (by decide)
  have hbare := (Call.parse?_eq_none_iff "healthabove").1 (by decide)
  have hfullname : sameLetters "healthABOVE" "healthabove" = true := by decide
  have hshares : ∀ text ∈ texts, r.Shares text := by
    intro text htext
    simp only [texts, List.mem_cons, List.not_mem_nil, or_false] at htext
    rcases htext with rfl | rfl | rfl
    · exact .call hfull hfullname hk hc rfl
    · exact .call hshort (sameLetters_refl _) hk hc rfl
    · exact .unread hbare
  have hcompiled := (r.compile_eq_ok_iff "ward" ⟨"damage-taken", texts, texts, some 3⟩ _).2
    ⟨.damageTaken, none, by decide, rfl, rfl⟩
  obtain ⟨hcalls, hunread, hplaces, hlists, hpaths⟩ := compilation_paths_agree r
  obtain ⟨harguments, hfaults⟩ := hlists "ward" "damage-taken" texts (some 3) _ hshares hcompiled
  exact ⟨_, hcompiled, harguments, hfaults,
    hplaces "ward" _ _ 1 _ hcompiled (.call hshort (sameLetters_refl _) hk hc rfl) rfl rfl,
    hcalls "healthabove" ward _ hk hc rfl _ _ hfull hfullname, (hunread _ hbare).2,
    (hpaths "ward" "damage-taken" texts (some 3) (by decide)).1⟩

end Registry

end AbilityScript
