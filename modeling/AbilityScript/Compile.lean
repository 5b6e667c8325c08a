import AbilityScript.Call
import AbilityScript.Definition
import AbilityScript.Registry

/-!
Compilation of definitions to abilities. Each line compiles by itself: one that is at fault is
dropped and becomes a diagnostic. Only the trigger, or the period of a timer, can make a whole
ability be rejected. What is worth a log line is returned beside the result.
-/
namespace AbilityScript

open Text

structure Logged (α : Type) where
  value : α
  notices : List Notice

structure Compilation where
  ability : Ability
  diagnostics : List Diagnostic

structure CompileReport where
  abilities : AbilitySet
  diagnostics : List Diagnostic
  errors : List CompileError

def CompileReport.isClean (r : CompileReport) : Bool :=
  r.diagnostics.isEmpty && r.errors.isEmpty

namespace Compile

def arguments (function : String) (schemas : List Schema) (tokens : List String) :
    Except LineFault Arguments :=
  if schemas.length = tokens.length then
    (Arguments.resolve schemas tokens).mapError (.invalidArgument function)
  else .error (.argumentCount function schemas.length tokens.length)

def line {φ : Type} (kind : Section) (find? : String → Option φ) (schema : φ → List Schema)
    (text : String) : Except LineFault (φ × Arguments) :=
  match Call.parse? text with
  | none => .error (.malformedCall (trim text))
  | some call =>
    match find? call.name with
    | none => .error (.unknownFunction kind call.name)
    | some f => (arguments call.name (schema f) call.tokens).map fun values => (f, values)

def keywordLine (r : Registry) (text : String) : Except LineFault (KeywordCall Ability) :=
  (line .keywords r.keyword? Keyword.schema text).map fun call => ⟨call.1, call.2⟩

def conditionLine (r : Registry) (text : String) : Except LineFault (ConditionCall Ability) :=
  (line .conditions r.condition? Condition.schema text).map fun call => ⟨call.1, call.2⟩

def lines {γ : Type} (ability : String) (kind : Section) (compile : String → Except LineFault γ)
    (start : Nat) : List String → List γ × List Diagnostic
  | [] => ([], [])
  | text :: rest =>
    let later := lines ability kind compile (start + 1) rest
    match compile text with
    | .ok call => (call :: later.1, later.2)
    | .error fault => (later.1, ⟨ability, kind, start, fault⟩ :: later.2)

def trigger (raw ability : String) : Except CompileError Trigger :=
  match Trigger.ofText? raw with
  | some t => .ok t
  | none => .error (.unknownTrigger ability raw)

/-- The period of an ability: a timer has to have a positive one, and no other trigger keeps one. -/
def period (ability : String) (trigger : Trigger) (timer : Option Nat) :
    Except CompileError (Option Nat) :=
  match trigger, timer with
  | .timer, some (p + 1) => .ok (some (p + 1))
  | .timer, _ => .error (.missingTimer ability)
  | _, _ => .ok none

def errorNotice : CompileError → Notice
  | .unknownTrigger ability raw => .unknownTrigger raw ability
  | .missingTimer ability => .missingPeriod ability

def periodNotices (ability : String) (trigger : Trigger) (timer : Option Nat) : List Notice :=
  if trigger != .timer && timer.isSome then [.ignoredPeriod ability trigger] else []

end Compile

namespace Registry

def compileLines (r : Registry) (name trigger : String) (lines : List String) :
    Logged (Except CompileError Compilation) :=
  match Compile.trigger trigger name with
  | .error e => ⟨.error e, [Compile.errorNotice e]⟩
  | .ok t =>
    let keywords := Compile.lines name .keywords (Compile.keywordLine r) 0 lines
    ⟨.ok ⟨⟨name, t, keywords.1, [], none⟩, keywords.2⟩, keywords.2.map .droppedLine⟩

def compile (r : Registry) (name : String) (d : Definition) :
    Logged (Except CompileError Compilation) :=
  match Compile.trigger d.trigger name with
  | .error e => ⟨.error e, [Compile.errorNotice e]⟩
  | .ok t =>
    match Compile.period name t d.timer with
    | .error e => ⟨.error e, [Compile.errorNotice e]⟩
    | .ok period =>
      let keywords := Compile.lines name .keywords (Compile.keywordLine r) 0 d.keywords
      let conditions := Compile.lines name .conditions (Compile.conditionLine r) 0 d.conditions
      let diagnostics := keywords.2 ++ conditions.2
      ⟨.ok ⟨⟨name, t, keywords.1, conditions.1, period⟩, diagnostics⟩,
        Compile.periodNotices name t d.timer ++ diagnostics.map .droppedLine⟩

def addToReport (report : CompileReport) : Except CompileError Compilation → CompileReport
  | .ok c =>
    { report with
      abilities := AbilitySet.add report.abilities c.ability
      diagnostics := report.diagnostics ++ c.diagnostics }
  | .error e => { report with errors := report.errors ++ [e] }

def compileAll (r : Registry) (file : DefinitionFile) : Logged CompileReport :=
  let outcomes := file.entries.map fun entry => r.compile entry.1 entry.2
  let report := (outcomes.map Logged.value).foldl addToReport ⟨.empty, [], []⟩
  ⟨report, outcomes.flatMap Logged.notices ++
    [.compiledAll report.abilities.size report.errors.length report.diagnostics.length]⟩

end Registry

end AbilityScript
