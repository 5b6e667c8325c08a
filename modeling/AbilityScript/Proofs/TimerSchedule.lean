import AbilityScript.Proofs.CompileReport
import AbilityScript.Proofs.TimerTick

namespace AbilityScript

namespace AbilitySet

def last? (abilities : List Ability) (name : String) : Option Ability :=
  abilities.reverse.find? fun a => a.name == name

theorem last?_cons (a : Ability) (abilities : List Ability) (name : String) :
    last? (a :: abilities) name =
      (last? abilities name).or (if a.name = name then some a else none) := by
  rw [last?, last?, List.reverse_cons, List.find?_append]
  by_cases hname : a.name = name <;> simp [hname]

theorem get?_foldl_add (abilities : List Ability) (s : AbilitySet) (name : String) :
    (abilities.foldl add s).get? name = (last? abilities name).or (s.get? name) := by
  induction abilities generalizing s with
  | nil => rfl
  | cons a abilities ih =>
    -- An ability of the tail prevails over the head, and the head over what is in the set.
    rw [List.foldl_cons, ih, last?_cons, add, NameMap.get?_insert]
    by_cases hname : a.name = name <;> simp [hname]

/-- Of several abilities with one name the last is the one in the set. -/
theorem get?_ofAbilities (abilities : List Ability) (name : String) :
    (ofAbilities abilities).get? name = last? abilities name := by
  rw [ofAbilities, get?_foldl_add, NameMap.get?_empty, Option.or_none]

end AbilitySet

namespace TimerTable

theorem periodOf?_eq_some_iff (a : Ability) (p : Nat) :
    periodOf? a = some p ↔ a.trigger = .timer ∧ a.timer = some p ∧ 0 < p := by
  unfold periodOf?
  by_cases htimer : a.trigger = .timer <;> simp [htimer, Option.filter_eq_some_iff]

section Periods

variable (t : TimerTable) (s : AbilitySet)

theorem period?_eq_some_iff (name : String) (p : Nat) :
    t.period? name = some p ↔ (name, p) ∈ t.entries :=
  NameMap.get?_eq_some_iff ⟨t.entries, t.sorted⟩ name p

theorem period?_eq_none_iff (name : String) :
    t.period? name = none ↔ name ∉ t.entries.map Prod.fst := by
  simp [Option.eq_none_iff_forall_ne_some, period?_eq_some_iff]

theorem names_nodup : (t.entries.map Prod.fst).Nodup :=
  List.pairwise_map.2 (t.sorted.imp fun hlt => Std.ne_of_lt hlt)

theorem mem_ofSet_iff (name : String) (p : Nat) :
    (name, p) ∈ (ofSet s).entries ↔ ∃ a, s.get? name = some a ∧ periodOf? a = some p := by
  simp only [ofSet, List.mem_filterMap, scheduled?_eq_some_iff, NameMap.get?_eq_some_iff]
  constructor
  · rintro ⟨⟨key, a⟩, hentry, rfl, hperiod⟩
    exact ⟨a, hentry, hperiod⟩
  · rintro ⟨a, hentry, hperiod⟩
    exact ⟨(name, a), hentry, rfl, hperiod⟩

end Periods

section Ticks

variable (t : TimerTable) (name : String)

/-- A timer is due on the positive ticks that its period divides. -/
theorem mem_due_iff (tick : Nat) :
    name ∈ t.due tick ↔ 0 < tick ∧ ∃ p, t.period? name = some p ∧ p ∣ tick := by
  unfold due
  by_cases hzero : tick = 0
  · simp [hzero]
  · have hpositive : 0 < tick := Nat.pos_of_ne_zero hzero
    simp [hzero, hpositive, period?_eq_some_iff, Nat.dvd_iff_mod_eq_zero]

/-- A timer is due once in each of its periods. -/
theorem countP_due (N : Nat) :
    ((List.range' 1 N).countP fun tick => (t.due tick).contains name) =
      (t.period? name).elim 0 (N / ·) := by
  induction N with
  | zero => cases t.period? name <;> simp
  | succ N ih =>
    -- The timer is due on one more tick just if its period goes once more into the number of ticks.
    have hdue := t.mem_due_iff name (N + 1)
    rw [List.range'_1_concat, List.countP_append, ih, List.countP_singleton, Nat.add_comm 1 N]
    cases hperiod : t.period? name with
    | none => simp [hdue, hperiod]
    | some p => simp [hdue, hperiod, Nat.succ_div]

end Ticks

end TimerTable

namespace Registry

variable (r : Registry) (file : DefinitionFile)

/-- An ability of a report stands under its own name, and has a positive period if it is a timer. -/
theorem timed_of_mem_compileAll {name : String} {a : Ability}
    (h : (name, a) ∈ (r.compileAll file).value.abilities.entries) :
    a.name = name ∧ ((TimerTable.periodOf? a).isSome ↔ a.trigger = .timer) := by
  have hfound := (NameMap.get?_eq_some_iff _ name a).2 h
  rw [get?_compileAll] at hfound
  obtain ⟨d, hd, hability⟩ := Option.bind_eq_some_iff.1 hfound
  by_cases hacceptable : d.Acceptable
  · obtain ⟨c, hc, hname, htrigger, hkept, htimed⟩ := compile_of_acceptable r name hacceptable
    obtain rfl : c.ability = a := by simpa only [ability?, hc, Option.some.injEq] using hability
    obtain ⟨t, ht, hperiod⟩ := hacceptable
    obtain rfl : t = c.ability.trigger := Option.some.inj (ht.symm.trans htrigger)
    refine ⟨hname, ?_⟩
    rw [Option.isSome_iff_exists]
    constructor
    · rintro ⟨p, hp⟩
      exact ((TimerTable.periodOf?_eq_some_iff _ p).1 hp).1
    · intro htimer
      obtain ⟨p, hp, hpositive⟩ := hperiod htimer
      have hkeeps : c.ability.timer = some p := by rw [hkept, if_pos htimer, hp]
      exact ⟨p, (TimerTable.periodOf?_eq_some_iff _ p).2 ⟨htimer, hkeeps, hpositive⟩⟩
  · -- A definition that is not acceptable leaves no ability in the report.
    simp only [ability?, compile_of_not_acceptable r name hacceptable] at hability
    cases hability

theorem names_ofSet_compileAll :
    (TimerTable.ofSet (r.compileAll file).value.abilities).entries.map Prod.fst =
      ((r.compileAll file).value.abilities.items.filter fun a => a.trigger == .timer).map
        Ability.name := by
  -- A compiled ability is scheduled just if it is a timer, and the key is its own name.
  have hentry : ∀ named ∈ (r.compileAll file).value.abilities.entries,
      (TimerTable.scheduled? named).map Prod.fst =
        if named.2.trigger == .timer then some named.2.name else none := by
    rintro ⟨name, a⟩ hnamed
    obtain ⟨rfl, htimed⟩ := timed_of_mem_compileAll r file hnamed
    by_cases htimer : a.trigger = .timer
    · obtain ⟨p, hp⟩ := Option.isSome_iff_exists.1 (htimed.2 htimer)
      simp [TimerTable.scheduled?, hp, htimer]
    · have hnone := Option.not_isSome_iff_eq_none.1 (mt htimed.1 htimer)
      simp [TimerTable.scheduled?, hnone, htimer]
  rw [TimerTable.ofSet, List.map_filterMap, NameMap.items, List.filter_map, List.map_map,
    ← List.filterMap_eq_map, List.filterMap_filter]
  exact List.filterMap_congr hentry

end Registry

/-- The timetable of the listed abilities holds a name, once, just if the last ability of that name
is a timer with a positive period, which is then the period of the name; no tick is divided by zero.
On a positive tick those names are due, in the order of their bytes, whose period divides the tick,
so that a name with the period `p` is due `N / p` times in the first `N` ticks. The timetable of a
compiled file has the names of the timers that were compiled, and no others. -/
theorem timetable_of_abilities (abilities : List Ability) :
    let table := TimerTable.ofSet (.ofAbilities abilities)
    (∀ name p, (name, p) ∈ table.entries ↔ ∃ a, AbilitySet.last? abilities name = some a ∧
      a.trigger = .timer ∧ a.timer = some p ∧ 0 < p) ∧
    (table.entries.map Prod.fst).Nodup ∧
    (∀ name p, table.period? name = some p ↔ (name, p) ∈ table.entries) ∧
    (∀ name, table.period? name = none ↔ name ∉ table.entries.map Prod.fst) ∧
    0 ∉ table.entries.map Prod.snd ∧
    (∀ tick, (table.due tick).Pairwise fun a b => Text.bytes a < Text.bytes b) ∧
    (∀ tick name,
      name ∈ table.due tick ↔ 0 < tick ∧ ∃ p, table.period? name = some p ∧ p ∣ tick) ∧
    (∀ name N, ((List.range' 1 N).countP fun tick => (table.due tick).contains name) =
      (table.period? name).elim 0 (N / ·)) ∧
    ∀ (r : Registry) (file : DefinitionFile),
      (TimerTable.ofSet (r.compileAll file).value.abilities).entries.map Prod.fst =
        ((r.compileAll file).value.abilities.items.filter fun a => a.trigger == .timer).map
          Ability.name := by
  intro table
  have hentries (name : String) (p : Nat) : (name, p) ∈ table.entries ↔
      ∃ a, AbilitySet.last? abilities name = some a ∧ a.trigger = .timer ∧ a.timer = some p ∧
        0 < p := by
    rw [TimerTable.mem_ofSet_iff, AbilitySet.get?_ofAbilities]
    simp only [TimerTable.periodOf?_eq_some_iff]
  refine ⟨hentries, table.names_nodup, table.period?_eq_some_iff, table.period?_eq_none_iff, ?_,
    table.due_bytes_sorted, fun tick name => table.mem_due_iff name tick, table.countP_due,
    Registry.names_ofSet_compileAll⟩
  rintro hzero
  obtain ⟨⟨name, p⟩, hentry, rfl⟩ := List.mem_map.1 hzero
  obtain ⟨a, -, -, -, hpositive⟩ := (hentries name _).1 hentry
  exact Nat.lt_irrefl 0 hpositive

-- The later beacon replaces the first one, and the idle timer is never due.
example :
    let table := TimerTable.ofSet (.ofAbilities [⟨"beacon", .timer, [], [], some 3⟩,
      ⟨"pulse", .timer, [], [], some 20⟩, ⟨"idle", .timer, [], [], some 0⟩,
      ⟨"beacon", .timer, [], [], some 40⟩, ⟨"click", .rightClick, [], [], some 20⟩])
    table.entries = [("beacon", 40), ("pulse", 20)] ∧ table.due 0 = [] ∧
      table.due 20 = ["pulse"] ∧ table.due 40 = ["beacon", "pulse"] := by
  decide +kernel

end AbilityScript
