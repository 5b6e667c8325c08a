import AbilityScript.Proofs.CompiledLines

namespace AbilityScript

def Diagnostic.shift (n : Nat) (d : Diagnostic) : Diagnostic :=
  { d with line := d.line + n }

def Compilation.faults (c : Compilation) (kind : Section) : List Diagnostic :=
  c.diagnostics.filter fun d => d.kind == kind

namespace Compile

variable {γ : Type}

/-- Every line of a list has its place either among the calls, in order, or among the diagnostics,
in order, and no line has both. -/
structure Accounted (ability : String) (kind : Section) (compile : String → Except LineFault γ)
    (lines : List String) (calls : List γ) (diagnostics : List Diagnostic) : Prop where
  faults : ∀ d ∈ diagnostics, d.ability = ability ∧ d.kind = kind ∧
    ∃ text, lines[d.line]? = some text ∧ compile text = .error d.fault
  increasing : (diagnostics.map Diagnostic.line).Pairwise (· < ·)
  /-- The calls are those of lines in the order of the source, and with the numbers of the
  diagnostics these lines make up the numbers of all lines. -/
  kept : ∃ numbers : List Nat, numbers.Pairwise (· < ·) ∧
    List.Forall₂ (fun i call => ∃ text, lines[i]? = some text ∧ compile text = .ok call) numbers
      calls ∧
    (numbers ++ diagnostics.map Diagnostic.line).Perm (List.range lines.length)

def deleteLines (numbers : List Nat) (lines : List String) : List String :=
  (lines.zipIdx.filter fun p => !numbers.contains p.2).map Prod.fst

theorem diagnoses_append (ability : String) (kind : Section) (start : Nat)
    (xs ys : List (Except LineFault γ)) :
    diagnoses ability kind start (xs ++ ys) =
      diagnoses ability kind start xs ++ diagnoses ability kind (start + xs.length) ys := by
  rw [diagnoses, List.zipIdx_append, List.filterMap_append, diagnoses, diagnoses]

theorem diagnoses_eq_map_shift (ability : String) (kind : Section) (start : Nat)
    (outcomes : List (Except LineFault γ)) :
    diagnoses ability kind start outcomes =
      (diagnoses ability kind 0 outcomes).map (Diagnostic.shift start) := by
  rw [diagnoses, List.zipIdx_eq_map_add, List.filterMap_map, diagnoses, List.map_filterMap]
  refine List.filterMap_congr fun p _ => ?_
  obtain ⟨outcome, number⟩ := p
  cases outcome with
  | ok call => rfl
  | error fault => simp [diagnosis?, Diagnostic.shift, Nat.add_comm]

/-- The numbers of the diagnostics are those of the outcomes that are no calls. -/
theorem map_line_diagnoses (ability : String) (kind : Section)
    (outcomes : List (Except LineFault γ)) :
    (diagnoses ability kind 0 outcomes).map Diagnostic.line =
      (outcomes.zipIdx.filter fun p => !p.1.isOk).map Prod.snd := by
  rw [diagnoses, List.map_filterMap, ← List.filterMap_eq_map, List.filterMap_filter]
  refine List.filterMap_congr fun p _ => ?_
  obtain ⟨outcome, number⟩ := p
  cases outcome <;> rfl

/-- Numbers that are taken from a numbered list are increasing. -/
theorem pairwise_map_snd_filter (outcomes : List (Except LineFault γ))
    (p : Except LineFault γ × Nat → Bool) :
    ((outcomes.zipIdx.filter p).map Prod.snd).Pairwise (· < ·) := by
  have hsublist := (List.filter_sublist (p := p) (l := outcomes.zipIdx)).map Prod.snd
  rw [List.zipIdx_map_snd] at hsublist
  exact List.Pairwise.sublist hsublist List.pairwise_lt_range'

/-- The calls of a numbered list, beside the numbers of the outcomes that are calls. -/
theorem forall₂_calls (outcomes : List (Except LineFault γ)) :
    List.Forall₂ (fun i call => outcomes[i]? = some (.ok call))
      ((outcomes.zipIdx.filter fun p => p.1.isOk).map Prod.snd) (calls outcomes) := by
  have hcalls : calls outcomes =
      (outcomes.zipIdx.filter fun p => p.1.isOk).filterMap fun p => p.1.toOption := by
    rw [List.filterMap_filter, calls]
    conv_lhs => rw [← List.zipIdx_map_fst 0 outcomes, List.filterMap_map]
    refine List.filterMap_congr fun p _ => ?_
    obtain ⟨outcome, number⟩ := p
    cases outcome <;> rfl
  have hat : ∀ p ∈ outcomes.zipIdx.filter fun p => p.1.isOk, ∃ call, p.1.toOption = some call ∧
      outcomes[p.2]? = some (.ok call) := by
    rintro ⟨outcome, number⟩ hp
    obtain ⟨hmem, hok⟩ := List.mem_filter.1 hp
    cases outcome with
    | error fault => cases hok
    | ok call => exact ⟨call, rfl, List.mk_mem_zipIdx_iff_getElem?.1 hmem⟩
  rw [hcalls]
  -- The list of numbered calls is arbitrary from here on.
  generalize outcomes.zipIdx.filter (fun p => p.1.isOk) = numbered at hat ⊢
  induction numbered with
  | nil => exact .nil
  | cons p numbered ih =>
    obtain ⟨call, hcall, hnumber⟩ := hat p List.mem_cons_self
    rw [List.map_cons, List.filterMap_cons, hcall]
    exact .cons hnumber (ih fun q hq => hat q (List.mem_cons_of_mem _ hq))

theorem getElem?_map_eq_some {compile : String → Except LineFault γ} {lines : List String} {i : Nat}
    {outcome : Except LineFault γ} (h : (lines.map compile)[i]? = some outcome) :
    ∃ text, lines[i]? = some text ∧ compile text = outcome := by
  rw [List.getElem?_map] at h
  exact Option.map_eq_some_iff.1 h

theorem accounted (ability : String) (kind : Section) (compile : String → Except LineFault γ)
    (lines : List String) :
    Accounted ability kind compile lines (calls (lines.map compile))
      (diagnoses ability kind 0 (lines.map compile)) where
  faults d hd := by
    obtain ⟨hability, hkind, hat⟩ := mem_diagnoses.1 hd
    exact ⟨hability, hkind, getElem?_map_eq_some hat⟩
  increasing := by
    rw [map_line_diagnoses]
    exact pairwise_map_snd_filter _ _
  kept := by
    refine ⟨((lines.map compile).zipIdx.filter fun p => p.1.isOk).map Prod.snd,
      pairwise_map_snd_filter _ _,
      (forall₂_calls _).imp fun i call hcall => getElem?_map_eq_some hcall, ?_⟩
    -- The calls and the faults part the numbered list between them.
    have hperm := (List.filter_append_perm (fun p : Except LineFault γ × Nat => p.1.isOk)
      (lines.map compile).zipIdx).map Prod.snd
    rw [List.zipIdx_map_snd, List.map_append, List.length_map, ← List.range_eq_range'] at hperm
    rw [map_line_diagnoses]
    exact hperm

/-- The lines without those that are diagnosed are those that compile. -/
theorem deleteLines_diagnoses (ability : String) (kind : Section)
    (compile : String → Except LineFault γ) (lines : List String) :
    deleteLines ((diagnoses ability kind 0 (lines.map compile)).map Diagnostic.line) lines =
      lines.filter fun text => (compile text).isOk := by
  -- A line's number is among those of the diagnostics just when the line does not compile.
  have hfilter : ∀ p ∈ lines.zipIdx,
      (!((diagnoses ability kind 0 (lines.map compile)).map Diagnostic.line).contains p.2) =
        (compile p.1).isOk := by
    rintro ⟨text, number⟩ hp
    have hat : (lines.map compile)[number]? = some (compile text) := by
      rw [List.getElem?_map, List.mk_mem_zipIdx_iff_getElem?.1 hp, Option.map_some]
    have hmem : number ∈ (diagnoses ability kind 0 (lines.map compile)).map Diagnostic.line ↔
        (compile text).isOk = false := by
      rw [List.mem_map]
      constructor
      · rintro ⟨d, hd, rfl⟩
        obtain ⟨-, -, hfault⟩ := mem_diagnoses.1 hd
        rw [Option.some.inj (hat.symm.trans hfault)]
        rfl
      · intro hok
        cases hcompile : compile text with
        | ok call => rw [hcompile] at hok; cases hok
        | error fault =>
          exact ⟨⟨ability, kind, number, fault⟩,
            mem_diagnoses.2 ⟨rfl, rfl, hcompile ▸ hat⟩, rfl⟩
    cases hok : (compile text).isOk <;> simp_all
  rw [deleteLines, List.filter_congr hfilter]
  conv_rhs => rw [← List.zipIdx_map_fst 0 lines, List.filter_map]
  rfl

theorem calls_filter_isOk (compile : String → Except LineFault γ) (lines : List String) :
    calls ((lines.filter fun text => (compile text).isOk).map compile) =
      calls (lines.map compile) := by
  rw [calls, calls, List.filterMap_map, List.filterMap_map, List.filterMap_filter]
  refine List.filterMap_congr fun text _ => ?_
  simp only [Function.comp]
  cases compile text <;> rfl

theorem diagnoses_filter_isOk (ability : String) (kind : Section)
    (compile : String → Except LineFault γ) (lines : List String) :
    diagnoses ability kind 0 ((lines.filter fun text => (compile text).isOk).map compile) = [] := by
  rw [List.eq_nil_iff_forall_not_mem]
  intro d hd
  obtain ⟨-, -, hat⟩ := mem_diagnoses.1 hd
  obtain ⟨text, htext, hfault⟩ := getElem?_map_eq_some hat
  have hok := (List.mem_filter.1 (List.mem_of_getElem? htext)).2
  rw [hfault] at hok
  cases hok

/-- Of the diagnostics for both lists, those for one are picked out by their kind. -/
theorem filter_kind_diagnoses (ability : String) (kind kind' : Section)
    (outcomes : List (Except LineFault γ)) :
    (diagnoses ability kind 0 outcomes).filter (fun d => d.kind == kind') =
      if kind = kind' then diagnoses ability kind 0 outcomes else [] := by
  have hkind : ∀ d ∈ diagnoses ability kind 0 outcomes, d.kind = kind :=
    fun d hd => (mem_diagnoses.1 hd).2.1
  by_cases heq : kind = kind'
  · rw [if_pos heq, List.filter_eq_self]
    intro d hd
    simp [hkind d hd, heq]
  · rw [if_neg heq, List.filter_eq_nil_iff]
    intro d hd
    simp [hkind d hd, heq]

end Compile

def Definition.extend (d : Definition) (keywords conditions : List String) : Definition :=
  { d with keywords := d.keywords ++ keywords, conditions := d.conditions ++ conditions }

def Compilation.extend (c c' : Compilation) (d : Definition) : Compilation where
  ability :=
    { c.ability with
      keywords := c.ability.keywords ++ c'.ability.keywords
      conditions := c.ability.conditions ++ c'.ability.conditions }
  diagnostics :=
    c.faults .keywords ++ (c'.faults .keywords).map (.shift d.keywords.length) ++
      (c.faults .conditions ++ (c'.faults .conditions).map (.shift d.conditions.length))

def Definition.without (d : Definition) (c : Compilation) : Definition :=
  { d with
    keywords := Compile.deleteLines ((c.faults .keywords).map Diagnostic.line) d.keywords
    conditions := Compile.deleteLines ((c.faults .conditions).map Diagnostic.line) d.conditions }

namespace Registry

variable {r : Registry} {name : String} {d : Definition} {c : Compilation}

/-- The diagnostics of a definition are those for its keywords and then those for its conditions. -/
theorem faults_of_compile (h : (r.compile name d).value = .ok c) :
    c.faults .keywords =
        Compile.diagnoses name .keywords 0 (d.keywords.map (Compile.keywordLine r)) ∧
      c.faults .conditions =
        Compile.diagnoses name .conditions 0 (d.conditions.map (Compile.conditionLine r)) ∧
      c.diagnostics = c.faults .keywords ++ c.faults .conditions := by
  obtain ⟨t, period, -, -, rfl⟩ := (r.compile_eq_ok_iff name d c).1 h
  -- The diagnostics of a list bear its kind, so one kind picks all of one list and no other.
  simp [Compilation.faults, List.filter_append, Compile.filter_kind_diagnoses]

/-- Further lines of a definition compile as they do by themselves, with other numbers. -/
theorem compile_extend (h : (r.compile name d).value = .ok c) (keywords conditions : List String) :
    ∃ c',
      (r.compile name { d with keywords := keywords, conditions := conditions }).value = .ok c' ∧
      (r.compile name (d.extend keywords conditions)).value = .ok (c.extend c' d) := by
  obtain ⟨hkeywords, hconditions, -⟩ := faults_of_compile h
  obtain ⟨t, period, ht, hperiod, rfl⟩ := (r.compile_eq_ok_iff name d c).1 h
  have hlater := (r.compile_eq_ok_iff name { d with keywords := keywords, conditions := conditions }
    _).2 ⟨t, period, ht, hperiod, rfl⟩
  obtain ⟨hkeywords', hconditions', -⟩ := faults_of_compile hlater
  refine ⟨_, hlater, (r.compile_eq_ok_iff name _ _).2 ⟨t, period, ht, hperiod, ?_⟩⟩
  rw [Compilation.extend, hkeywords, hconditions, hkeywords', hconditions']
  simp only [Definition.extend, List.map_append, Compile.calls_append, Compile.diagnoses_append,
    List.length_map, Nat.zero_add, ← Compile.diagnoses_eq_map_shift]

/-- Without its lines at fault a definition compiles to the same ability. -/
theorem compile_without (h : (r.compile name d).value = .ok c) :
    (r.compile name (d.without c)).value = .ok ⟨c.ability, []⟩ := by
  obtain ⟨hkeywords, hconditions, -⟩ := faults_of_compile h
  obtain ⟨t, period, ht, hperiod, rfl⟩ := (r.compile_eq_ok_iff name d c).1 h
  refine (r.compile_eq_ok_iff name _ _).2 ⟨t, period, ht, hperiod, ?_⟩
  simp only [Definition.without, hkeywords, hconditions, Compile.deleteLines_diagnoses,
    Compile.calls_filter_isOk, Compile.diagnoses_filter_isOk, List.append_nil]

/-- A list of lines compiles to what its parts compile to, put one after the other with the numbers
of the later lines counted on; the diagnostics for conditions come after those for keywords. Every
line of a definition is accounted for once, and without the diagnosed lines it compiles to the same
ability with no diagnostics. -/
theorem compile_lines_independently (r : Registry) (name : String) :
    (∀ trigger t xs ys, Trigger.ofText? trigger = some t → ∃ c c',
      (r.compileLines name trigger xs).value = .ok c ∧
      (r.compileLines name trigger ys).value = .ok c' ∧
      (r.compileLines name trigger (xs ++ ys)).value = .ok
        ⟨{ c.ability with keywords := c.ability.keywords ++ c'.ability.keywords },
          c.diagnostics ++ c'.diagnostics.map (.shift xs.length)⟩) ∧
    ∀ d c, (r.compile name d).value = .ok c →
      (∀ keywords conditions, ∃ c',
        (r.compile name { d with keywords := keywords, conditions := conditions }).value = .ok c' ∧
        (r.compile name (d.extend keywords conditions)).value = .ok (c.extend c' d)) ∧
      c.diagnostics = c.faults .keywords ++ c.faults .conditions ∧
      Compile.Accounted name .keywords (Compile.keywordLine r) d.keywords c.ability.keywords
        (c.faults .keywords) ∧
      Compile.Accounted name .conditions (Compile.conditionLine r) d.conditions
        c.ability.conditions (c.faults .conditions) ∧
      (r.compile name (d.without c)).value = .ok ⟨c.ability, []⟩ := by
  refine ⟨fun trigger t xs ys ht => ?_, fun d c h => ⟨compile_extend h, ?_⟩⟩
  · refine ⟨_, _, (r.compileLines_eq_ok_iff name trigger xs _).2 ⟨t, ht, rfl⟩,
      (r.compileLines_eq_ok_iff name trigger ys _).2 ⟨t, ht, rfl⟩,
      (r.compileLines_eq_ok_iff name trigger _ _).2 ⟨t, ht, ?_⟩⟩
    simp only [List.map_append, Compile.calls_append, Compile.diagnoses_append, List.length_map,
      Nat.zero_add, ← Compile.diagnoses_eq_map_shift]
  · obtain ⟨hkeywords, hconditions, hdiagnostics⟩ := faults_of_compile h
    refine ⟨hdiagnostics, ?_, ?_, compile_without h⟩
    · rw [hkeywords]
      obtain ⟨t, period, -, -, rfl⟩ := (r.compile_eq_ok_iff name d c).1 h
      exact Compile.accounted name .keywords (Compile.keywordLine r) d.keywords
    · rw [hconditions]
      obtain ⟨t, period, -, -, rfl⟩ := (r.compile_eq_ok_iff name d c).1 h
      exact Compile.accounted name .conditions (Compile.conditionLine r) d.conditions

end Registry

end AbilityScript
