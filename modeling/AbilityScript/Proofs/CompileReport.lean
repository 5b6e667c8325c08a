import AbilityScript.Proofs.CompiledLines
import AbilityScript.Proofs.RegistryHistory
import AbilityScript.Proofs.Text.ByteOrder

namespace AbilityScript

namespace NameMap

variable {α β : Type}

theorem get?_eq_none_iff (m : NameMap α) (name : String) :
    m.get? name = none ↔ ∀ entry ∈ m.entries, entry.1 ≠ name := by
  simp [get?, List.find?_eq_none]

/-- In a list made from the items of a map one by one, what belongs to a name is what its own item
was made into. -/
theorem filter_flatMap (m : NameMap α) (f : String → α → List β) (key : β → String)
    (hkey : ∀ name a, ∀ b ∈ f name a, key b = name) (name : String) :
    (m.entries.flatMap fun entry => f entry.1 entry.2).filter (fun b => key b == name) =
      ((m.get? name).map (f name)).getD [] := by
  have hnone (entries : List (String × α)) (hnames : ∀ entry ∈ entries, entry.1 ≠ name) :
      (entries.flatMap fun entry => f entry.1 entry.2).filter (fun b => key b == name) = [] := by
    apply List.filter_eq_nil_iff.2
    intro b hb
    obtain ⟨entry, hentry, hmade⟩ := List.mem_flatMap.1 hb
    have hname : key b ≠ name := by
      rw [hkey entry.1 entry.2 b hmade]
      exact hnames entry hentry
    simpa using hname
  cases hget : m.get? name with
  | none => exact hnone m.entries ((get?_eq_none_iff m name).1 hget)
  | some a =>
    -- The entry of the name stands between entries with smaller and with greater names.
    obtain ⟨before, after, hentries⟩ :=
      List.append_of_mem ((get?_eq_some_iff m name a).1 hget)
    have hsorted := m.sorted
    rw [hentries, List.pairwise_append, List.pairwise_cons] at hsorted
    obtain ⟨-, ⟨hafter, -⟩, hbefore⟩ := hsorted
    have hsmaller : ∀ entry ∈ before, entry.1 ≠ name := fun entry hentry heq =>
      String.lt_irrefl _ (heq ▸ hbefore entry hentry (name, a) List.mem_cons_self)
    have hgreater : ∀ entry ∈ after, entry.1 ≠ name := fun entry hentry heq =>
      String.lt_irrefl _ (heq ▸ hafter entry hentry)
    have hown : (f name a).filter (fun b => key b == name) = f name a :=
      List.filter_eq_self.2 fun b hb => by simpa using hkey name a b hb
    rw [hentries, List.flatMap_append, List.flatMap_cons, List.filter_append, List.filter_append,
      hnone before hsmaller, hnone after hgreater, hown, List.append_nil, List.nil_append]
    rfl

end NameMap

namespace Definition

def Acceptable (d : Definition) : Prop :=
  ∃ t, Trigger.ofText? d.trigger = some t ∧ (t = .timer → ∃ p, d.timer = some p ∧ 0 < p)

def rejection (name : String) (d : Definition) : CompileError :=
  match Trigger.ofText? d.trigger with
  | none => .unknownTrigger name d.trigger
  | some _ => .missingTimer name

end Definition

namespace Compile

/-- A period is kept as it is given for a timer that has a positive one, and for no other trigger. -/
theorem period_eq_ok_iff (name : String) (t : Trigger) (timer kept : Option Nat) :
    period name t timer = .ok kept ↔
      (t = .timer → ∃ p, timer = some p ∧ 0 < p) ∧ kept = if t = .timer then timer else none := by
  cases t with
  | timer =>
    rcases timer with _ | _ | p
    · simp [period]
    · simp [period]
    · simp [period, eq_comm]
  | _ => simp [period, eq_comm]

theorem period_of_ne_timer (name : String) {t : Trigger} (h : t ≠ .timer) (timer : Option Nat) :
    period name t timer = .ok none :=
  (period_eq_ok_iff name t timer none).2 ⟨fun htimer => absurd htimer h, (if_neg h).symm⟩

theorem period_eq_error (name : String) {t : Trigger} {timer : Option Nat}
    (h : ¬ (t = .timer → ∃ p, timer = some p ∧ 0 < p)) :
    period name t timer = .error (.missingTimer name) := by
  cases hperiod : period name t timer with
  | ok kept => exact absurd ((period_eq_ok_iff name t timer kept).1 hperiod).1 h
  | error e =>
    unfold period at hperiod
    split at hperiod <;> simp_all

/-- There are no diagnostics just where every line compiles. -/
theorem diagnoses_eq_nil_iff {γ : Type} {ability : String} {kind : Section}
    {compile : String → Except LineFault γ} {texts : List String} :
    diagnoses ability kind 0 (texts.map compile) = [] ↔
      ∀ text ∈ texts, ∃ call, compile text = .ok call := by
  constructor
  · intro h text htext
    cases hcompile : compile text with
    | ok call => exact ⟨call, rfl⟩
    | error fault =>
      obtain ⟨i, hi⟩ := List.mem_iff_getElem?.1 htext
      have hmem : (⟨ability, kind, i, fault⟩ : Diagnostic) ∈
          diagnoses ability kind 0 (texts.map compile) := by
        refine mem_diagnoses.2 ⟨rfl, rfl, ?_⟩
        rw [List.getElem?_map, hi, Option.map_some, hcompile]
      rw [h] at hmem
      cases hmem
  · intro h
    apply List.eq_nil_iff_forall_not_mem.2
    intro d hd
    obtain ⟨-, -, hat⟩ := mem_diagnoses.1 hd
    rw [List.getElem?_map, Option.map_eq_some_iff] at hat
    obtain ⟨text, htext, herror⟩ := hat
    obtain ⟨call, hcall⟩ := h text (List.mem_of_getElem? htext)
    rw [hcall] at herror
    cases herror

end Compile

namespace Registry

section Definitions

variable (r : Registry) (name : String) (d : Definition)

def ability? : Option Ability :=
  match (r.compile name d).value with
  | .ok c => some c.ability
  | .error _ => none

def dropped : List Diagnostic :=
  match (r.compile name d).value with
  | .ok c => c.diagnostics
  | .error _ => []

def rejections : List CompileError :=
  match (r.compile name d).value with
  | .ok _ => []
  | .error e => [e]

variable {r name d}

/-- An acceptable definition compiles to an ability of its name and its trigger, which keeps the
period of a timer. -/
theorem compile_of_acceptable (r : Registry) (name : String) (h : d.Acceptable) :
    ∃ c, (r.compile name d).value = .ok c ∧ c.ability.name = name ∧
      Trigger.ofText? d.trigger = some c.ability.trigger ∧
      c.ability.timer = (if c.ability.trigger = .timer then d.timer else none) ∧
      (c.ability.timer.isSome ↔ c.ability.trigger = .timer) := by
  obtain ⟨t, ht, hperiod⟩ := h
  have hkept := (Compile.period_eq_ok_iff name t d.timer _).2 ⟨hperiod, rfl⟩
  refine ⟨_, (compile_eq_ok_iff r name d _).2 ⟨t, _, ht, hkept, rfl⟩, rfl, ht, rfl, ?_⟩
  dsimp only
  split
  case isTrue htimer =>
    obtain ⟨p, hp, -⟩ := hperiod htimer
    simp [hp, htimer]
  case isFalse hother => simp [hother]

theorem compile_of_not_acceptable (r : Registry) (name : String) (h : ¬ d.Acceptable) :
    (r.compile name d).value = .error (d.rejection name) := by
  cases ht : Trigger.ofText? d.trigger with
  | none => simp [compile, Compile.trigger, ht, Definition.rejection]
  | some t =>
    have hperiod := Compile.period_eq_error name fun hok => h ⟨t, ht, hok⟩
    simp [compile, Compile.trigger, ht, hperiod, Definition.rejection]

theorem ability_of_mem_dropped {diagnostic : Diagnostic} (h : diagnostic ∈ r.dropped name d) :
    diagnostic.ability = name := by
  unfold dropped at h
  split at h
  case h_1 c hc =>
    obtain ⟨t, p, -, -, rfl⟩ := (compile_eq_ok_iff r name d c).1 hc
    rcases List.mem_append.1 h with hkeyword | hcondition
    · exact (Compile.mem_diagnoses.1 hkeyword).1
    · exact (Compile.mem_diagnoses.1 hcondition).1
  case h_2 => cases h

theorem ability_rejection (name : String) (d : Definition) : (d.rejection name).ability = name := by
  unfold Definition.rejection
  split <;> rfl

theorem ability_of_mem_rejections {e : CompileError} (h : e ∈ r.rejections name d) :
    e.ability = name := by
  by_cases hacceptable : d.Acceptable
  · obtain ⟨c, hc, -⟩ := compile_of_acceptable r name hacceptable
    simp [rejections, hc] at h
  · simp only [rejections, compile_of_not_acceptable r name hacceptable, List.mem_singleton] at h
    exact h ▸ ability_rejection name d

/-- Nothing is dropped or rejected just where the definition and each of its lines compile. -/
theorem dropped_rejections_eq_nil_iff (r : Registry) (name : String) (d : Definition) :
    r.dropped name d = [] ∧ r.rejections name d = [] ↔
      (∃ c, (r.compile name d).value = .ok c) ∧
        (∀ line ∈ d.keywords, ∃ call, Compile.keywordLine r line = .ok call) ∧
        ∀ line ∈ d.conditions, ∃ call, Compile.conditionLine r line = .ok call := by
  cases hvalue : (r.compile name d).value with
  | error e => simp [rejections, hvalue]
  | ok c =>
    have hdropped : r.dropped name d = c.diagnostics := by simp only [dropped, hvalue]
    have hrejections : r.rejections name d = [] := by simp only [rejections, hvalue]
    have hcompiled : ∃ c', (Except.ok c : Except CompileError Compilation) = .ok c' := ⟨c, rfl⟩
    obtain ⟨t, p, -, -, rfl⟩ := (compile_eq_ok_iff r name d c).1 hvalue
    simp only [hdropped, hrejections, hcompiled, and_true, true_and, List.append_eq_nil_iff,
      Compile.diagnoses_eq_nil_iff]

end Definitions

section Fold

variable (r : Registry)

def addAll (entries : List (String × Definition)) (report : CompileReport) : CompileReport :=
  (entries.map fun entry => (r.compile entry.1 entry.2).value).foldl addToReport report

theorem compileAll_eq (file : DefinitionFile) :
    (r.compileAll file).value = r.addAll file.entries ⟨.empty, [], []⟩ := by
  simp only [compileAll, addAll, List.map_map]
  rfl

theorem addAll_nil (report : CompileReport) : r.addAll [] report = report := rfl

theorem addAll_cons (entry : String × Definition) (entries : List (String × Definition))
    (report : CompileReport) :
    r.addAll (entry :: entries) report =
      r.addAll entries (addToReport report (r.compile entry.1 entry.2).value) := by
  simp only [addAll, List.map_cons, List.foldl_cons]

theorem errors_addToReport (report : CompileReport) (name : String) (d : Definition) :
    (addToReport report (r.compile name d).value).errors =
      report.errors ++ r.rejections name d := by
  unfold rejections
  cases (r.compile name d).value with
  | ok c => exact (List.append_nil _).symm
  | error e => rfl

theorem diagnostics_addToReport (report : CompileReport) (name : String) (d : Definition) :
    (addToReport report (r.compile name d).value).diagnostics =
      report.diagnostics ++ r.dropped name d := by
  unfold dropped
  cases (r.compile name d).value with
  | ok c => rfl
  | error e => exact (List.append_nil _).symm

theorem errors_addAll (entries : List (String × Definition)) (report : CompileReport) :
    (r.addAll entries report).errors =
      report.errors ++ entries.flatMap fun entry => r.rejections entry.1 entry.2 := by
  induction entries generalizing report with
  | nil => rw [addAll_nil, List.flatMap_nil, List.append_nil]
  | cons entry entries ih =>
    rw [addAll_cons, ih, errors_addToReport, List.flatMap_cons, List.append_assoc]

theorem diagnostics_addAll (entries : List (String × Definition)) (report : CompileReport) :
    (r.addAll entries report).diagnostics =
      report.diagnostics ++ entries.flatMap fun entry => r.dropped entry.1 entry.2 := by
  induction entries generalizing report with
  | nil => rw [addAll_nil, List.flatMap_nil, List.append_nil]
  | cons entry entries ih =>
    rw [addAll_cons, ih, diagnostics_addToReport, List.flatMap_cons, List.append_assoc]

/-- One definition changes what a report has under its own name only. -/
theorem get?_addToReport (report : CompileReport) (name : String) (d : Definition)
    (other : String) :
    (addToReport report (r.compile name d).value).abilities.get? other =
      if name = other then (r.ability? name d).or (report.abilities.get? other)
      else report.abilities.get? other := by
  by_cases hacceptable : d.Acceptable
  · obtain ⟨c, hc, hname, -⟩ := compile_of_acceptable r name hacceptable
    have hability : r.ability? name d = some c.ability := by simp only [ability?, hc]
    simp only [hc, addToReport, AbilitySet.add, NameMap.get?_insert, hname, hability,
      Option.some_or]
  · have herror := compile_of_not_acceptable r name hacceptable
    have hability : r.ability? name d = none := by simp only [ability?, herror]
    simp only [herror, addToReport, hability, Option.none_or, ite_self]

theorem get?_addAll_of_notMem {entries : List (String × Definition)} {name : String}
    (h : ∀ entry ∈ entries, entry.1 ≠ name) (report : CompileReport) :
    (r.addAll entries report).abilities.get? name = report.abilities.get? name := by
  induction entries generalizing report with
  | nil => rw [addAll_nil]
  | cons entry entries ih =>
    obtain ⟨hhead, htail⟩ := List.forall_mem_cons.1 h
    rw [addAll_cons, ih htail, get?_addToReport, if_neg hhead]

/-- Under each name of the file the report has what the definition of that name compiles to. -/
theorem get?_addAll_of_mem {entries : List (String × Definition)} {name : String} {d : Definition}
    (hsorted : entries.Pairwise fun a b => a.1 < b.1) (h : (name, d) ∈ entries)
    (report : CompileReport) :
    (r.addAll entries report).abilities.get? name =
      (r.ability? name d).or (report.abilities.get? name) := by
  induction entries generalizing report with
  | nil => cases h
  | cons entry entries ih =>
    obtain ⟨hhead, htail⟩ := List.pairwise_cons.1 hsorted
    rw [addAll_cons]
    rcases List.mem_cons.1 h with rfl | hmem
    -- No later definition has the name again.
    · have hlater : ∀ other ∈ entries, other.1 ≠ name := fun other hother heq =>
        String.lt_irrefl _ (heq ▸ hhead other hother)
      rw [get?_addAll_of_notMem r hlater, get?_addToReport, if_pos rfl]
    · have hne : entry.1 ≠ name := fun heq => String.lt_irrefl _ (heq ▸ hhead _ hmem)
      rw [ih htail hmem, get?_addToReport, if_neg hne]

end Fold

section Report

variable (r : Registry) (file : DefinitionFile)

theorem get?_compileAll (name : String) :
    (r.compileAll file).value.abilities.get? name = (file.get? name).bind (r.ability? name) := by
  rw [compileAll_eq]
  cases hget : file.get? name with
  | none =>
    rw [get?_addAll_of_notMem r ((NameMap.get?_eq_none_iff file name).1 hget), Option.bind_none]
    exact NameMap.get?_empty name
  | some d =>
    have hmem := (NameMap.get?_eq_some_iff file name d).1 hget
    rw [get?_addAll_of_mem r file.sorted hmem, NameMap.get?_empty, Option.or_none,
      Option.bind_some]

theorem errors_compileAll :
    (r.compileAll file).value.errors =
      file.entries.flatMap fun entry => r.rejections entry.1 entry.2 := by
  rw [compileAll_eq, errors_addAll, List.nil_append]

theorem diagnostics_compileAll :
    (r.compileAll file).value.diagnostics =
      file.entries.flatMap fun entry => r.dropped entry.1 entry.2 := by
  rw [compileAll_eq, diagnostics_addAll, List.nil_append]

theorem filter_errors_compileAll (name : String) :
    (r.compileAll file).value.errors.filter (fun e => e.ability == name) =
      ((file.get? name).map (r.rejections name)).getD [] := by
  rw [errors_compileAll]
  exact file.filter_flatMap r.rejections CompileError.ability
    (fun _ _ _ h => ability_of_mem_rejections h) name

theorem filter_diagnostics_compileAll (name : String) :
    (r.compileAll file).value.diagnostics.filter (fun d => d.ability == name) =
      ((file.get? name).map (r.dropped name)).getD [] := by
  rw [diagnostics_compileAll]
  exact file.filter_flatMap r.dropped Diagnostic.ability
    (fun _ _ _ h => ability_of_mem_dropped h) name

/-- What a report says of a definition of the file. An acceptable one is there as the ability that it
compiles to, and is not among the errors; any other is named by one error, and by nothing else. -/
inductive Reported (report : CompileReport) (name : String) (d : Definition) : Prop
  | accepted (acceptable : d.Acceptable) {c} (compiled : (r.compile name d).value = .ok c)
      (found : report.abilities.get? name = some c.ability) (named : c.ability.name = name)
      (trigger : Trigger.ofText? d.trigger = some c.ability.trigger)
      (kept : c.ability.timer = if c.ability.trigger = .timer then d.timer else none)
      (timed : c.ability.timer.isSome ↔ c.ability.trigger = .timer)
      (unblamed : ∀ e ∈ report.errors, e.ability ≠ name)
  | rejected (unacceptable : ¬ d.Acceptable)
      (uncompiled : (r.compile name d).value = .error (d.rejection name))
      (missing : report.abilities.get? name = none)
      (blamed : report.errors.filter (fun e => e.ability == name) = [d.rejection name])
      (silent : ∀ diagnostic ∈ report.diagnostics, diagnostic.ability ≠ name)

theorem reported_compileAll {name : String} {d : Definition} (h : file.get? name = some d) :
    r.Reported (r.compileAll file).value name d := by
  have hability := get?_compileAll r file name
  have herrors := filter_errors_compileAll r file name
  have hdropped := filter_diagnostics_compileAll r file name
  rw [h, Option.bind_some] at hability
  rw [h, Option.map_some, Option.getD_some] at herrors hdropped
  by_cases hacceptable : d.Acceptable
  · obtain ⟨c, hc, hname, htrigger, hkept, htimed⟩ :=
      compile_of_acceptable r name hacceptable
    refine .accepted hacceptable hc ?_ hname htrigger hkept htimed ?_
    · simpa only [ability?, hc] using hability
    · simp only [rejections, hc] at herrors
      simpa using List.filter_eq_nil_iff.1 herrors
  · have herror := compile_of_not_acceptable r name hacceptable
    refine .rejected hacceptable herror ?_ ?_ ?_
    · simpa only [ability?, herror] using hability
    · simpa only [rejections, herror] using herrors
    · simp only [dropped, herror] at hdropped
      simpa using List.filter_eq_nil_iff.1 hdropped

/-- No two errors name one ability, and they come in the order of the names. -/
theorem sorted_errors_compileAll :
    ((r.compileAll file).value.errors.map CompileError.ability).Pairwise (· < ·) := by
  rw [errors_compileAll, List.pairwise_map, List.pairwise_flatMap]
  constructor
  · intro entry _
    unfold rejections
    split
    · exact .nil
    · exact List.pairwise_singleton _ _
  · apply file.sorted.imp
    intro entry entry' hlt e he e' he'
    rw [ability_of_mem_rejections he, ability_of_mem_rejections he']
    exact hlt

theorem isClean_compileAll_iff :
    (r.compileAll file).value.isClean = true ↔
      ∀ name d, file.get? name = some d → (∃ c, (r.compile name d).value = .ok c) ∧
        (∀ line ∈ d.keywords, ∃ call, Compile.keywordLine r line = .ok call) ∧
        ∀ line ∈ d.conditions, ∃ call, Compile.conditionLine r line = .ok call := by
  have hempty : (r.compileAll file).value.isClean = true ↔
      ∀ entry ∈ file.entries, r.dropped entry.1 entry.2 = [] ∧ r.rejections entry.1 entry.2 = [] := by
    simp only [CompileReport.isClean, Bool.and_eq_true, List.isEmpty_iff, errors_compileAll,
      diagnostics_compileAll, List.flatMap_eq_nil_iff, ← forall_and]
  rw [hempty]
  constructor
  · intro h name d hd
    have hentry := (NameMap.get?_eq_some_iff file name d).1 hd
    have hnone := h (name, d) hentry
    exact (dropped_rejections_eq_nil_iff r name d).1 hnone
  · rintro h ⟨name, d⟩ hentry
    have hd := (NameMap.get?_eq_some_iff file name d).2 hentry
    exact (dropped_rejections_eq_nil_iff r name d).2 (h name d hd)

end Report

end Registry

/-- The report on a file splits its names into abilities and errors, each definition being compiled by
itself. Errors and diagnostics come in the byte order of the names; a clean report is one of a file
that compiles to the last line; and files that have the same definition under a name, or both none,
report the same under it. -/
theorem compileAll_reports_each_definition (r : Registry) (file : DefinitionFile) :
    let report := (r.compileAll file).value
    (∀ name d, file.get? name = some d → r.Reported report name d) ∧
    (∀ name, file.get? name = none → report.abilities.get? name = none ∧
      (∀ e ∈ report.errors, e.ability ≠ name) ∧
      ∀ diagnostic ∈ report.diagnostics, diagnostic.ability ≠ name) ∧
    ((report.errors.map CompileError.ability).Pairwise fun a b => Text.bytes a < Text.bytes b) ∧
    (file.names.Pairwise fun a b => Text.bytes a < Text.bytes b) ∧
    (report.diagnostics = file.entries.flatMap fun entry => r.dropped entry.1 entry.2) ∧
    (report.isClean = true ↔ ∀ name d, file.get? name = some d →
      (∃ c, (r.compile name d).value = .ok c) ∧
      (∀ line ∈ d.keywords, ∃ call, Compile.keywordLine r line = .ok call) ∧
      ∀ line ∈ d.conditions, ∃ call, Compile.conditionLine r line = .ok call) ∧
    ∀ (file' : DefinitionFile) (name : String), file'.get? name = file.get? name →
      let report' := (r.compileAll file').value
      report'.abilities.get? name = report.abilities.get? name ∧
      report'.diagnostics.filter (fun d => d.ability == name) =
        report.diagnostics.filter (fun d => d.ability == name) ∧
      report'.errors.filter (fun e => e.ability == name) =
        report.errors.filter (fun e => e.ability == name) := by
  intro report
  have hbytes {names : List String} (h : names.Pairwise (· < ·)) :
      names.Pairwise fun a b => Text.bytes a < Text.bytes b :=
    h.imp fun hlt => (Text.lt_iff_bytes _ _).1 hlt
  refine ⟨fun name d hd => Registry.reported_compileAll r file hd, ?_,
    hbytes (Registry.sorted_errors_compileAll r file), hbytes file.names_sorted,
    Registry.diagnostics_compileAll r file, Registry.isClean_compileAll_iff r file, ?_⟩
  · intro name hnone
    have hability := Registry.get?_compileAll r file name
    have herrors := Registry.filter_errors_compileAll r file name
    have hdropped := Registry.filter_diagnostics_compileAll r file name
    rw [hnone] at hability herrors hdropped
    refine ⟨hability, ?_, ?_⟩
    · simpa using List.filter_eq_nil_iff.1 herrors
    · simpa using List.filter_eq_nil_iff.1 hdropped
  · intro file' name hsame report'
    refine ⟨?_, ?_, ?_⟩
    · rw [Registry.get?_compileAll, Registry.get?_compileAll, hsame]
    · rw [Registry.filter_diagnostics_compileAll, Registry.filter_diagnostics_compileAll, hsame]
    · rw [Registry.filter_errors_compileAll, Registry.filter_errors_compileAll, hsame]

end AbilityScript
