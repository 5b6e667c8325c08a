import AbilityScript.Proofs.CompileReport

/-!
Compilation step by step. A line at fault is put in the log when it is met, and its diagnostic is
put by at the same time; a period that is not kept is in the log before any line. What stands there
in the end is what the compilation returns, which takes the log from the diagnostics.
-/
namespace AbilityScript

structure Journal where
  notices : List Notice
  diagnostics : List Diagnostic

namespace Journal

def empty : Journal := ⟨[], []⟩

def note (j : Journal) (n : Notice) : Journal :=
  { j with notices := j.notices ++ [n] }

def drop (j : Journal) (d : Diagnostic) : Journal :=
  ⟨j.notices ++ [.droppedLine d], j.diagnostics ++ [d]⟩

def after (j : Journal) (dropped : List Diagnostic) : Journal :=
  ⟨j.notices ++ dropped.map .droppedLine, j.diagnostics ++ dropped⟩

theorem after_nil (j : Journal) : j.after [] = j := by
  simp [after]

theorem after_cons (j : Journal) (d : Diagnostic) (dropped : List Diagnostic) :
    (j.drop d).after dropped = j.after (d :: dropped) := by
  simp [after, drop]

theorem after_append (j : Journal) (dropped later : List Diagnostic) :
    (j.after dropped).after later = j.after (dropped ++ later) := by
  simp [after]

end Journal

namespace Compile

section Lines

variable {γ : Type} (ability : String) (kind : Section) (compile : String → Except LineFault γ)

def writeLine (written : List γ × Journal) (numbered : String × Nat) : List γ × Journal :=
  match compile numbered.1 with
  | .ok call => (written.1 ++ [call], written.2)
  | .error fault => (written.1, written.2.drop ⟨ability, kind, numbered.2, fault⟩)

def writeLines (texts : List String) (j : Journal) : List γ × Journal :=
  texts.zipIdx.foldl (writeLine ability kind compile) ([], j)

/-- Each line adds to the calls or to the journal what `lines` puts before those of the rest. -/
theorem foldl_writeLine (start : Nat) (texts : List String) (calls : List γ) (j : Journal) :
    (texts.zipIdx start).foldl (writeLine ability kind compile) (calls, j) =
      (calls ++ (lines ability kind compile start texts).1,
        j.after (lines ability kind compile start texts).2) := by
  induction texts generalizing start calls j with
  | nil => simp [lines, j.after_nil]
  | cons text texts ih =>
    rw [List.zipIdx_cons, List.foldl_cons, lines, writeLine]
    cases hline : compile text with
    | ok call => simp only [ih, List.append_assoc, List.singleton_append]
    | error fault => simp only [ih, Journal.after_cons]

theorem writeLines_eq (texts : List String) (j : Journal) :
    writeLines ability kind compile texts j =
      ((lines ability kind compile 0 texts).1, j.after (lines ability kind compile 0 texts).2) :=
  foldl_writeLine ability kind compile 0 texts [] j

end Lines

theorem periodNotices_of_ne_timer (name : String) {t : Trigger} (h : t ≠ .timer)
    {timer : Option Nat} (given : timer.isSome = true) :
    periodNotices name t timer = [.ignoredPeriod name t] := by
  simp [periodNotices, given, h]

end Compile

namespace Registry

variable (r : Registry) (name : String) (d : Definition)

def writeAbility (t : Trigger) (period : Option Nat) (j : Journal) :
    Logged (Except CompileError Compilation) :=
  let keywords := Compile.writeLines name .keywords (Compile.keywordLine r) d.keywords j
  let conditions :=
    Compile.writeLines name .conditions (Compile.conditionLine r) d.conditions keywords.2
  ⟨.ok ⟨⟨name, t, keywords.1, conditions.1, period⟩, conditions.2.diagnostics⟩,
    conditions.2.notices⟩

def compileWriting : Logged (Except CompileError Compilation) :=
  match Trigger.ofText? d.trigger with
  | none => ⟨.error (.unknownTrigger name d.trigger), [.unknownTrigger d.trigger name]⟩
  | some t =>
    match t, d.timer with
    | .timer, some (p + 1) => r.writeAbility name d t (some (p + 1)) .empty
    | .timer, _ => ⟨.error (.missingTimer name), [.missingPeriod name]⟩
    | _, some _ => r.writeAbility name d t none (Journal.empty.note (.ignoredPeriod name t))
    | _, none => r.writeAbility name d t none .empty

def writeEntry (written : Logged CompileReport) (entry : String × Definition) :
    Logged CompileReport :=
  let outcome := r.compileWriting entry.1 entry.2
  ⟨addToReport written.value outcome.value, written.notices ++ outcome.notices⟩

def compileAllWriting (file : DefinitionFile) : Logged CompileReport :=
  let written := file.entries.foldl r.writeEntry ⟨⟨.empty, [], []⟩, []⟩
  let report := written.value
  ⟨report, written.notices ++
    [.compiledAll report.abilities.size report.errors.length report.diagnostics.length]⟩

theorem writeAbility_eq (t : Trigger) (period : Option Nat) (j : Journal) :
    r.writeAbility name d t period j =
      let keywords := Compile.lines name .keywords (Compile.keywordLine r) 0 d.keywords
      let conditions := Compile.lines name .conditions (Compile.conditionLine r) 0 d.conditions
      ⟨.ok ⟨⟨name, t, keywords.1, conditions.1, period⟩,
          j.diagnostics ++ (keywords.2 ++ conditions.2)⟩,
        j.notices ++ (keywords.2 ++ conditions.2).map .droppedLine⟩ := by
  simp only [writeAbility, Compile.writeLines_eq, Journal.after_append]
  rfl

/-- What is written step by step is what the compilation returns. -/
theorem compileWriting_eq_compile : r.compileWriting name d = r.compile name d := by
  cases ht : Trigger.ofText? d.trigger with
  | none => simp only [compileWriting, compile, Compile.trigger, ht, Compile.errorNotice]
  | some t =>
    simp only [compileWriting, compile, Compile.trigger, ht]
    -- A timer with its period comes first, and one without; then a period that is not kept.
    split
    case h_1 p hp =>
      rw [hp, writeAbility_eq]
      rfl
    case h_2 hnone =>
      have hmissing : Compile.period name .timer d.timer = .error (.missingTimer name) := by
        refine Compile.period_eq_error name fun hkept => ?_
        obtain ⟨p, hp, hpos⟩ := hkept rfl
        have hsucc : p = (p - 1) + 1 := (Nat.sub_add_cancel hpos).symm
        exact hnone (p - 1) (hp.trans (congrArg some hsucc))
      simp only [hmissing, Compile.errorNotice]
    case h_3 p _ hother hp =>
      have hgiven : d.timer.isSome = true := Option.isSome_of_eq_some hp
      simp only [Compile.period_of_ne_timer name hother, writeAbility_eq,
        Compile.periodNotices_of_ne_timer name hother hgiven]
      rfl
    case h_4 hother hp =>
      simp only [Compile.period_of_ne_timer name hother, writeAbility_eq, Compile.periodNotices, hp]
      simp [Journal.empty]

/-- Each definition adds to the report and to the notices what it compiles to. -/
theorem foldl_writeEntry (entries : List (String × Definition)) (report : CompileReport)
    (notices : List Notice) :
    entries.foldl r.writeEntry ⟨report, notices⟩ =
      ⟨(entries.map fun entry => (r.compile entry.1 entry.2).value).foldl addToReport report,
        notices ++ entries.flatMap fun entry => (r.compile entry.1 entry.2).notices⟩ := by
  induction entries generalizing report notices with
  | nil => simp
  | cons entry entries ih =>
    rw [List.foldl_cons, writeEntry, ih, compileWriting_eq_compile]
    simp

theorem compileAllWriting_eq_compileAll (file : DefinitionFile) :
    r.compileAllWriting file = r.compileAll file := by
  simp only [compileAllWriting, foldl_writeEntry, compileAll, List.map_map, List.flatMap_map]
  rfl

end Registry

end AbilityScript
