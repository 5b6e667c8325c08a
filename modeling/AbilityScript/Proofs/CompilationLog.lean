import AbilityScript.Proofs.CompilationSteps
import AbilityScript.Proofs.Enrolment

namespace AbilityScript

namespace Notice

def entry (n : Notice) : Level × String :=
  (n.level, n.text)

def diagnostic? : Notice → Option Diagnostic
  | droppedLine diagnostic => some diagnostic
  | _ => none

def rejection? : Notice → Option CompileError
  | unknownTrigger raw ability => some (.unknownTrigger ability raw)
  | missingPeriod ability => some (.missingTimer ability)
  | _ => none

end Notice

def Logged.log {α : Type} (x : Logged α) : List (Level × String) :=
  x.notices.map Notice.entry

namespace Compile

def warnings (diagnostics : List Diagnostic) : List (Level × String) :=
  diagnostics.map fun diagnostic => (.warn, s!"Error parsing {diagnostic.message}")

/-- What the log says of a definition, by what its compilation returned. -/
inductive Told (name : String) (d : Definition) :
    Except CompileError Compilation → List (Level × String) → Prop
  | unknownTrigger : Told name d (.error (.unknownTrigger name d.trigger))
      [(.warn, s!"Unknown trigger '{d.trigger}' on ability {name}")]
  | missingPeriod : Told name d (.error (.missingTimer name))
      [(.warn, s!"Timer ability {name} has no positive timer period")]
  | ignoredPeriod {c : Compilation} {t : Trigger} (given : d.timer.isSome = true)
      (bound : c.ability.trigger = t) (other : t ≠ .timer) : Told name d (.ok c)
      ((.warn, s!"Ignoring timer period on ability {name} with trigger {t.identifier}") ::
        warnings c.diagnostics)
  | compiled {c : Compilation} (kept : d.timer.isSome = true → c.ability.trigger = .timer) :
      Told name d (.ok c) (warnings c.diagnostics)

section Told

variable {name : String} {d : Definition} {value : Except CompileError Compilation}
  {log log' : List (Level × String)}

/-- The result and the definition leave no choice of what is said. -/
theorem Told.unique (h : Told name d value log) (h' : Told name d value log') : log = log' := by
  cases h with
  | unknownTrigger =>
    cases h'
    rfl
  | missingPeriod =>
    cases h'
    rfl
  | ignoredPeriod given bound other =>
    cases h' with
    | ignoredPeriod given' bound' other' => rw [← bound, ← bound']
    | compiled kept => exact absurd (bound.symm.trans (kept given)) other
  | compiled kept =>
    cases h' with
    | ignoredPeriod given bound other => exact absurd (bound.symm.trans (kept given)) other
    | compiled => rfl

/-- All that is said of a definition is said as a warning. -/
theorem Told.warn (h : Told name d value log) : ∀ entry ∈ log, entry.1 = .warn := by
  have hwarnings (diagnostics : List Diagnostic) :
      ∀ entry ∈ warnings diagnostics, entry.1 = .warn := by
    intro entry hentry
    obtain ⟨diagnostic, -, rfl⟩ := List.mem_map.1 hentry
    rfl
  cases h with
  | unknownTrigger => simp
  | missingPeriod => simp
  | ignoredPeriod given bound other => exact List.forall_mem_cons.2 ⟨rfl, hwarnings _⟩
  | compiled kept => exact hwarnings _

end Told

theorem filterMap_periodNotices {β : Type} {f : Notice → Option β}
    (h : ∀ name t, f (.ignoredPeriod name t) = none) (name : String) (t : Trigger)
    (timer : Option Nat) : (periodNotices name t timer).filterMap f = [] := by
  unfold periodNotices
  split
  · rw [List.filterMap_cons_none (h name t), List.filterMap_nil]
  · rfl

end Compile

namespace Registry

section Definitions

variable (r : Registry) (name : String) (d : Definition)

/-- The notices of a compilation are told by its result. -/
theorem notices_compile :
    (r.compile name d).notices =
      match (r.compile name d).value with
      | .ok c => Compile.periodNotices name c.ability.trigger d.timer ++
          c.diagnostics.map .droppedLine
      | .error e => [Compile.errorNotice e] := by
  cases ht : Compile.trigger d.trigger name with
  | error e => simp only [compile, ht]
  | ok t => cases hperiod : Compile.period name t d.timer <;> simp only [compile, ht, hperiod]

/-- The log says of a definition what its result calls for. -/
theorem told_compile : Compile.Told name d (r.compile name d).value (r.compile name d).log := by
  have hnotices := r.notices_compile name d
  by_cases hacceptable : d.Acceptable
  · obtain ⟨c, hc, -⟩ := compile_of_acceptable r name hacceptable
    have hwarnings : (c.diagnostics.map Notice.droppedLine).map Notice.entry =
        Compile.warnings c.diagnostics := List.map_map
    simp only [hc] at hnotices ⊢
    rw [Logged.log, hnotices, List.map_append, hwarnings]
    by_cases hignored : d.timer.isSome = true ∧ c.ability.trigger ≠ .timer
    · obtain ⟨given, other⟩ := hignored
      rw [Compile.periodNotices_of_ne_timer name other given]
      exact .ignoredPeriod given rfl other
    · have hperiod : Compile.periodNotices name c.ability.trigger d.timer = [] := by
        simp only [Compile.periodNotices, Bool.and_eq_true, bne_iff_ne, ite_eq_right_iff]
        exact fun h => absurd h.symm hignored
      rw [hperiod]
      exact .compiled fun given => not_not.1 fun other => hignored ⟨given, other⟩
  · -- An unknown trigger comes before a period that is missing.
    have herror := compile_of_not_acceptable r name hacceptable
    simp only [herror] at hnotices ⊢
    rw [Logged.log, hnotices, Definition.rejection]
    split
    · exact .unknownTrigger
    · exact .missingPeriod

/-- The lines that the notices tell of are those that were dropped. -/
theorem diagnostics_of_notices_compile :
    (r.compile name d).notices.filterMap Notice.diagnostic? = r.dropped name d := by
  rw [notices_compile, dropped]
  cases (r.compile name d).value with
  | error e => cases e <;> rfl
  | ok c =>
    have hperiod := Compile.filterMap_periodNotices (f := Notice.diagnostic?) (fun _ _ => rfl)
      name c.ability.trigger d.timer
    dsimp only
    rw [List.filterMap_append, hperiod, List.filterMap_map, List.nil_append]
    exact List.filterMap_some

theorem rejections_of_notices_compile :
    (r.compile name d).notices.filterMap Notice.rejection? = r.rejections name d := by
  rw [notices_compile, rejections]
  cases (r.compile name d).value with
  | error e => cases e <;> rfl
  | ok c =>
    have hperiod := Compile.filterMap_periodNotices (f := Notice.rejection?) (fun _ _ => rfl)
      name c.ability.trigger d.timer
    have hdropped : (c.diagnostics.map Notice.droppedLine).filterMap Notice.rejection? = [] := by
      simp [Notice.rejection?]
    dsimp only
    rw [List.filterMap_append, hperiod, hdropped, List.nil_append]

end Definitions

section Report

variable (r : Registry) (file : DefinitionFile)

theorem notices_compileAll :
    (r.compileAll file).notices =
      (file.entries.flatMap fun entry => (r.compile entry.1 entry.2).notices) ++
        [.compiledAll (r.compileAll file).value.abilities.size
          (r.compileAll file).value.errors.length
          (r.compileAll file).value.diagnostics.length] := by
  simp only [compileAll, List.flatMap_map]

theorem mem_names_compileAll_iff (name : String) :
    name ∈ (r.compileAll file).value.abilities.names ↔
      ∃ d, file.get? name = some d ∧ d.Acceptable := by
  rw [← NameMap.isSome_get?_iff, get?_compileAll, Option.isSome_bind, Option.any_eq_true]
  refine exists_congr fun d => and_congr_right fun _ => ?_
  by_cases hacceptable : d.Acceptable
  · obtain ⟨c, hc, -⟩ := compile_of_acceptable r name hacceptable
    simp [ability?, hc, hacceptable]
  · simp [ability?, compile_of_not_acceptable r name hacceptable, hacceptable]

theorem mem_errors_compileAll_iff (name : String) :
    name ∈ (r.compileAll file).value.errors.map CompileError.ability ↔
      ∃ d, file.get? name = some d ∧ ¬ d.Acceptable := by
  simp only [errors_compileAll, List.mem_map, List.mem_flatMap]
  constructor
  · rintro ⟨e, ⟨⟨name, d⟩, hentry, he⟩, rfl⟩
    obtain rfl := ability_of_mem_rejections he
    refine ⟨d, (NameMap.get?_eq_some_iff file _ d).2 hentry, fun hacceptable => ?_⟩
    obtain ⟨c, hc, -⟩ := compile_of_acceptable r e.ability hacceptable
    simp [rejections, hc] at he
  · rintro ⟨d, hd, hnot⟩
    refine ⟨d.rejection name, ⟨(name, d), (NameMap.get?_eq_some_iff file name d).1 hd, ?_⟩,
      ability_rejection name d⟩
    simp [rejections, compile_of_not_acceptable r name hnot]

/-- Each name of the file is the name of an ability of the report or of one error, not of both. -/
theorem perm_names_compileAll :
    ((r.compileAll file).value.abilities.names ++
      (r.compileAll file).value.errors.map CompileError.ability).Perm file.names := by
  have hnodup {names : List String} (h : names.Pairwise (· < ·)) : names.Nodup :=
    h.imp fun {_ _} hlt => Std.ne_of_lt hlt
  have hfile (name : String) : name ∈ file.names ↔ ∃ d, file.get? name = some d := by
    rw [← NameMap.isSome_get?_iff, Option.isSome_iff_exists]
  refine (List.perm_ext_iff_of_nodup ?_ (hnodup file.names_sorted)).2 fun name => ?_
  · refine List.nodup_append.2 ⟨hnodup (NameMap.names_sorted _),
      hnodup (r.sorted_errors_compileAll file), ?_⟩
    rintro name hability _ herror rfl
    obtain ⟨d, hd, hacceptable⟩ := (mem_names_compileAll_iff r file name).1 hability
    obtain ⟨d', hd', hnot⟩ := (mem_errors_compileAll_iff r file name).1 herror
    obtain rfl : d = d' := Option.some.inj (hd.symm.trans hd')
    exact hnot hacceptable
  · rw [List.mem_append, mem_names_compileAll_iff, mem_errors_compileAll_iff, hfile, ← exists_or]
    refine exists_congr fun d => ?_
    rw [← and_or_left, and_iff_left (Classical.em d.Acceptable)]

theorem size_compileAll :
    (r.compileAll file).value.abilities.size + (r.compileAll file).value.errors.length =
      file.size := by
  have hlength := (perm_names_compileAll r file).length_eq
  simpa [NameMap.names, NameMap.size] using hlength

theorem diagnostics_of_notices_compileAll :
    (r.compileAll file).notices.filterMap Notice.diagnostic? =
      (r.compileAll file).value.diagnostics := by
  rw [notices_compileAll, List.filterMap_append, List.filterMap_flatMap, diagnostics_compileAll]
  simp only [diagnostics_of_notices_compile]
  exact List.append_nil _

theorem rejections_of_notices_compileAll :
    (r.compileAll file).notices.filterMap Notice.rejection? =
      (r.compileAll file).value.errors := by
  rw [notices_compileAll, List.filterMap_append, List.filterMap_flatMap, errors_compileAll]
  simp only [rejections_of_notices_compile]
  exact List.append_nil _

end Report

end Registry

/-- What is logged is what is returned, though the two are written side by side in the course of a
compilation. The log of a definition is the one that its result calls for, and no other: a line for
the error of a definition that is rejected, and otherwise one for a period that is given to no
timer, and then one for each diagnostic in order, all of them warnings. The log of a file has those
of its definitions in the byte order of their names, and then one line with the numbers of the
report. Between them the logs of the definitions tell of the diagnostics and of the errors of the
report, each once and in order, and every definition counts as an ability or as an error. -/
theorem compilation_logs_its_results (r : Registry) :
    (∀ name d, r.compileWriting name d = r.compile name d) ∧
    (∀ file, r.compileAllWriting file = r.compileAll file) ∧
    (∀ name d log,
      Compile.Told name d (r.compile name d).value log ↔ (r.compile name d).log = log) ∧
    ∀ file : DefinitionFile,
      let report := (r.compileAll file).value
      let compiled := report.abilities.size
      let rejected := report.errors.length
      let dropped := report.diagnostics.length
      (∃ logs, List.Forall₂ (fun entry log =>
            Compile.Told entry.1 entry.2 (r.compile entry.1 entry.2).value log) file.entries logs ∧
          (∀ log ∈ logs, ∀ entry ∈ log, entry.1 = .warn) ∧
          (r.compileAll file).log = logs.flatten ++ [(.info,
            s!"Compiled {compiled} abilities ({rejected} rejected, {dropped} lines dropped)")]) ∧
      (file.names.Pairwise fun a b => Text.bytes a < Text.bytes b) ∧
      (r.compileAll file).notices.filterMap Notice.diagnostic? = report.diagnostics ∧
      (r.compileAll file).notices.filterMap Notice.rejection? = report.errors ∧
      compiled + rejected = file.size := by
  refine ⟨r.compileWriting_eq_compile, r.compileAllWriting_eq_compileAll,
    fun name d log => ⟨(r.told_compile name d).unique, fun h => h ▸ r.told_compile name d⟩,
    fun file => ?_⟩
  refine ⟨⟨file.entries.map fun entry => (r.compile entry.1 entry.2).log, ?_, ?_, ?_⟩,
    file.names_sorted.imp fun hlt => (Text.lt_iff_bytes _ _).1 hlt,
    r.diagnostics_of_notices_compileAll file, r.rejections_of_notices_compileAll file,
    r.size_compileAll file⟩
  · rw [List.forall₂_map_right_iff, List.forall₂_same]
    exact fun entry _ => r.told_compile entry.1 entry.2
  · intro log hlog
    obtain ⟨entry, -, rfl⟩ := List.mem_map.1 hlog
    exact (r.told_compile entry.1 entry.2).warn
  · rw [Logged.log, Registry.notices_compileAll, List.map_append, List.map_flatMap,
      List.flatMap_def]
    rfl

-- The period comes first, then the keyword line, then the condition line.
example : (Registry.empty.compile "feast" ⟨"consume_item", ["boom(1)"], ["boom"], some 5⟩).log =
    [(.warn, "Ignoring timer period on ability feast with trigger consume-item"),
      (.warn, "Error parsing ability 'feast', keyword line 0: unknown keyword 'boom'"),
      (.warn, "Error parsing ability 'feast', condition line 0: malformed call 'boom', " ++
        "expected name(arg, ...)")] := by
  decide +kernel

end AbilityScript
