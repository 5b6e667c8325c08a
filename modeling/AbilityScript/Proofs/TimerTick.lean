import AbilityScript.Proofs.EventSubjects
import AbilityScript.Proofs.Snapshot
import AbilityScript.Proofs.Text.ByteOrder

namespace AbilityScript

namespace TimerTable

variable (t : TimerTable) (tick : Nat)

theorem due_sorted : (t.due tick).Pairwise (· < ·) := by
  unfold due
  split
  · exact .nil
  · exact List.pairwise_map.2 (t.sorted.filter _)

theorem due_bytes_sorted : (t.due tick).Pairwise fun a b => Text.bytes a < Text.bytes b :=
  (t.due_sorted tick).imp fun {a b} => (Text.lt_iff_bytes a b).1

theorem due_nodup : (t.due tick).Nodup :=
  (t.due_sorted tick).imp fun {_ _} hlt => Std.ne_of_lt hlt

end TimerTable

structure TimerTurn where
  name : String
  found : Option Ability
  tested : List (ConditionCall Ability)
  deeds : List Deed
  result : Except Refusal Execution

namespace TimerTurn

def ran (turn : TimerTurn) : Bool :=
  turn.result.isOk

def context (player : EntityId) (turn : TimerTurn) : Context :=
  (Event.timer player).context turn.name

def called (player : EntityId) (turn : TimerTurn) : List Act :=
  turn.tested.map (.test · (turn.context player)) ++
    (if turn.ran then turn.found.elim [] Ability.keywords else []).map
      (.ofCall (turn.context player))

def report (sched : Scheduler) (turn : TimerTurn) (s : Simulation) : Simulation :=
  match turn.result with
  | .ok _ => s
  | .error refusal => s.note sched.callerThread (.timerSkipped turn.name refusal)

theorem pending_report (turn : TimerTurn) (sched : Scheduler) (s : Simulation) :
    (turn.report sched s).pending = s.pending := by
  unfold TimerTurn.report
  split <;> rfl

end TimerTurn

namespace Engine

open Simulation

/-- What a turn that ends with a refusal has done: nothing, or the tests of its ability, which is a
timer to which no subject is lacking, up to the first condition that is false. -/
inductive RefusedTurn (e : Engine) (player : EntityId) (turn : TimerTurn) (s : Simulation) :
    Simulation → Prop
  | untouched (tested : turn.tested = []) (deeds : turn.deeds = []) : RefusedTurn e player turn s s
  | closed {a before call s'} (found : turn.found = some a) (trigger : a.trigger = .timer)
      (supplied : ¬ Lacks e.strict a (turn.context player).capabilities)
      (supported : ¬ Strays e.strict a) (tested : turn.tested = before ++ [call])
      (first : FirstFalse e.scheduler.callerThread (turn.context player) a.conditions before call
        s s')
      (deeds : turn.deeds.map Deed.act = turn.tested.map (.test · (turn.context player))) :
      RefusedTurn e player turn s s'

structure Handles (e : Engine) (player : EntityId) (turn : TimerTurn) (s s' : Simulation) : Prop
    where
  found : turn.found = s.cache.set.get? turn.name
  dispatched : e.dispatch (.timer player) turn.name s = (turn.result, s')
  course : Course turn.deeds s s'
  ran : turn.ran = true ↔ ∃ a s₁, turn.found = some a ∧ a.trigger = .timer ∧
    e.Opens a (turn.context player) s s₁
  tested : turn.ran = true → turn.tested = turn.found.elim [] Ability.conditions
  refused : turn.ran = false → RefusedTurn e player turn s s'
  /-- What is called is done once, or lost on the way to the primary thread, or waits, and so is
  what had waited before. -/
  accounted : ∃ lost, ((∀ n, e.scheduler.accepts n = true) → lost = []) ∧
    (turn.deeds.map Deed.act ++ lost ++ s'.pending.map Act.task).Perm
      (s.pending.map Act.task ++ turn.called player)

inductive TimerTurns (e : Engine) (player : EntityId) :
    List TimerTurn → Simulation → Simulation → Prop
  | nil (s : Simulation) : TimerTurns e player [] s s
  | cons {turn turns s s' s''} (now : Handles e player turn s s')
      (later : TimerTurns e player turns (turn.report e.scheduler s') s'') :
      TimerTurns e player (turn :: turns) s s''

/-- A timer runs just if there is a timer ability of its name whose gate is open. -/
theorem dispatch_timer_isOk_iff (e : Engine) (player : EntityId) (name : String) (s : Simulation) :
    (e.dispatch (.timer player) name s).1.isOk = true ↔
      ∃ a s₁, s.cache.set.get? name = some a ∧ a.trigger = .timer ∧
        e.Opens a ((Event.timer player).context name) s s₁ := by
  cases hfound : s.cache.set.get? name with
  | none =>
    rw [dispatch_of_missing hfound]
    constructor
    · intro hran
      cases hran
    · rintro ⟨a, s₁, hsome, -⟩
      cases hsome
  | some a =>
    by_cases htrigger : a.trigger = (Event.timer player).trigger
    · rw [dispatch_of_trigger hfound htrigger, run_isOk_iff]
      constructor
      · rintro ⟨s₁, hopens⟩
        exact ⟨a, s₁, rfl, htrigger, hopens⟩
      · rintro ⟨b, s₁, hsome, -, hopens⟩
        cases hsome
        exact ⟨s₁, hopens⟩
    · rw [dispatch_of_other_trigger hfound htrigger]
      constructor
      · intro hran
        cases hran
      · rintro ⟨b, s₁, hsome, hother, -⟩
        cases hsome
        exact absurd hother htrigger

variable {e : Engine} {player : EntityId} {turn : TimerTurn} {s s' : Simulation}

theorem ran_iff_of_dispatched (hfound : turn.found = s.cache.set.get? turn.name)
    (hdispatch : e.dispatch (.timer player) turn.name s = (turn.result, s')) :
    turn.ran = true ↔ ∃ a s₁, turn.found = some a ∧ a.trigger = .timer ∧
      e.Opens a (turn.context player) s s₁ := by
  have hran := dispatch_timer_isOk_iff e player turn.name s
  rwa [hdispatch, ← hfound] at hran

/-- A turn that ends with a refusal has called no more than conditions. -/
theorem handles_of_refused (hfound : turn.found = s.cache.set.get? turn.name)
    (hdispatch : e.dispatch (.timer player) turn.name s = (turn.result, s'))
    (hran : turn.ran = false) (hcourse : Course turn.deeds s s')
    (hrefused : RefusedTurn e player turn s s') : Handles e player turn s s' where
  found := hfound
  dispatched := hdispatch
  course := hcourse
  ran := ran_iff_of_dispatched hfound hdispatch
  tested htrue := Bool.noConfusion (htrue.symm.trans hran)
  refused _ := hrefused
  accounted := by
    refine ⟨[], fun _ => rfl, ?_⟩
    rw [TimerTurn.called, hran]
    cases hrefused with
    | untouched tested deeds => simp [tested, deeds]
    | closed _ _ _ _ _ first deeds =>
      rw [deeds, first.ran.pending]
      simpa using List.perm_append_comm

/-- An attempt to run a timer ability is a turn, however it ends. -/
theorem exists_handles_of_ending {name : String} {a : Ability} {deeds : List Deed}
    {result : Except Refusal Execution} (hfound : s.cache.set.get? name = some a)
    (htrigger : a.trigger = .timer) (hdispatch : e.dispatch (.timer player) name s = (result, s'))
    (hending : Ending e a ((Event.timer player).context name) s deeds result s') :
    ∃ tested, Handles e player ⟨name, some a, tested, deeds, result⟩ s s' := by
  have hcourse := hending.course
  cases hending with
  | incompatible =>
    exact ⟨[], handles_of_refused hfound.symm hdispatch rfl hcourse (.untouched rfl rfl)⟩
  | @closed compatible before call _ _ first _ tested =>
    obtain ⟨supplied, supported⟩ := (incompatibility?_eq_none_iff _ _ _).1 compatible
    exact ⟨before ++ [call], handles_of_refused hfound.symm hdispatch rfl hcourse
      (.closed rfl htrigger supplied supported rfl first tested)⟩
  | opened compatible hold course tested dispatched =>
    obtain ⟨lost, haccepted, hperm⟩ :=
      (Ending.opened compatible hold course tested dispatched).accounted
    refine ⟨a.conditions, hfound.symm, hdispatch, hcourse,
      ran_iff_of_dispatched hfound.symm hdispatch, fun _ => rfl, nofun,
      lost.map (.ofCall ((Event.timer player).context name)), fun haccepts => ?_, hperm⟩
    rw [haccepted haccepts, List.map_nil]

theorem exists_handles (e : Engine) (player : EntityId) (name : String) (s : Simulation) :
    ∃ turn s', turn.name = name ∧ Handles e player turn s s' := by
  rcases hdispatch : e.dispatch (.timer player) name s with ⟨result, s'⟩
  cases hfound : s.cache.set.get? name with
  | none =>
    obtain ⟨rfl, rfl⟩ : .error (.abilityNotFound name) = result ∧ s = s' :=
      Prod.mk.inj ((dispatch_of_missing hfound).symm.trans hdispatch)
    exact ⟨⟨name, none, [], [], _⟩, s, rfl,
      handles_of_refused hfound.symm hdispatch rfl (.refl s) (.untouched rfl rfl)⟩
  | some a =>
    by_cases htrigger : a.trigger = (Event.timer player).trigger
    · obtain ⟨deeds, hending⟩ := ending_run e a ((Event.timer player).context name) s
      rw [← dispatch_of_trigger hfound htrigger, hdispatch] at hending
      obtain ⟨tested, hhandles⟩ := exists_handles_of_ending hfound htrigger hdispatch hending
      exact ⟨_, s', rfl, hhandles⟩
    · obtain ⟨rfl, rfl⟩ : .error (.triggerMismatch name a.trigger .timer) = result ∧ s = s' :=
        Prod.mk.inj ((dispatch_of_other_trigger hfound htrigger).symm.trans hdispatch)
      exact ⟨⟨name, some a, [], [], _⟩, s, rfl,
        handles_of_refused hfound.symm hdispatch rfl (.refl s) (.untouched rfl rfl)⟩

/-- All that is called in a turn is of the ability that was found, and that is a timer. -/
theorem Handles.makes (h : Handles e player turn s s') {act : Act}
    (hact : act ∈ turn.called player) :
    ∃ a, turn.found = some a ∧ a.trigger = .timer ∧ a.Makes (turn.context player) act := by
  rw [TimerTurn.called] at hact
  cases hran : turn.ran with
  | true =>
    obtain ⟨a, s₁, hfound, htrigger, -⟩ := h.ran.1 hran
    refine ⟨a, hfound, htrigger, ?_⟩
    rw [h.tested hran, hfound, hran] at hact
    rcases List.mem_append.1 hact with htest | hcall
    · obtain ⟨c, hc, rfl⟩ := List.mem_map.1 htest
      exact .test hc
    · obtain ⟨c, hc, rfl⟩ := List.mem_map.1 hcall
      exact .call hc
  | false =>
    rw [hran, if_neg Bool.false_ne_true, List.map_nil, List.append_nil] at hact
    cases h.refused hran with
    | untouched tested _ =>
      rw [tested] at hact
      cases hact
    | @closed a before call _ found trigger _ _ tested first _ =>
      rw [tested] at hact
      obtain ⟨c, hc, rfl⟩ := List.mem_map.1 hact
      exact ⟨a, found, trigger, .test (first.listed.subset hc)⟩

/-- The notice of a refusal is no deed. -/
theorem Handles.course_report (h : Handles e player turn s s') :
    Course turn.deeds s (turn.report e.scheduler s') := by
  unfold TimerTurn.report
  split
  · exact h.course
  · exact List.append_nil turn.deeds ▸ h.course.append (.of_record _ rfl s')

/-- A tick consists of the turns of the timers that are due, and counts those that ran. -/
theorem exists_timerTurns (e : Engine) (player : EntityId) (names : List String) (s : Simulation) :
    ∃ turns s', e.fireTimers player names s = (turns.countP TimerTurn.ran, s') ∧
      turns.map TimerTurn.name = names ∧ TimerTurns e player turns s s' := by
  induction names generalizing s with
  | nil => exact ⟨[], s, rfl, rfl, .nil s⟩
  | cons name names ih =>
    obtain ⟨turn, s', rfl, hnow⟩ := exists_handles e player name s
    obtain ⟨turns, s'', hrest, rfl, hlater⟩ := ih (turn.report e.scheduler s')
    refine ⟨turn :: turns, s'', ?_, rfl, .cons hnow hlater⟩
    -- The next turn begins in the state that is left, with a notice if the turn was refused.
    obtain ⟨name, found, tested, deeds, result⟩ := turn
    have hdispatch : e.dispatch (.timer player) name s = (result, s') := hnow.dispatched
    cases result with
    | ok done =>
      have hrest' : e.fireTimers player (turns.map TimerTurn.name) s' =
          (turns.countP TimerTurn.ran, s'') := hrest
      rw [List.countP_cons_of_pos rfl]
      simp only [fireTimers, hdispatch, hrest']
    | error refusal =>
      have hrest' : e.fireTimers player (turns.map TimerTurn.name)
          (s'.note e.scheduler.callerThread (.timerSkipped name refusal)) =
            (turns.countP TimerTurn.ran, s'') := hrest
      rw [List.countP_cons_of_neg (by exact Bool.false_ne_true)]
      simp only [fireTimers, hdispatch, hrest']

namespace TimerTurns

variable {turns : List TimerTurn}

theorem course (h : TimerTurns e player turns s s') :
    Course (turns.flatMap TimerTurn.deeds) s s' := by
  induction h with
  | nil s => exact .refl s
  | cons now _ ih => exact now.course_report.append ih

theorem split {before after : List TimerTurn} (h : TimerTurns e player (before ++ after) s s') :
    ∃ s₁, TimerTurns e player before s s₁ ∧ TimerTurns e player after s₁ s' := by
  induction before generalizing s with
  | nil => exact ⟨s, .nil s, h⟩
  | cons turn before ih =>
    cases h with
    | cons now later =>
      obtain ⟨s₁, hbefore, hafter⟩ := ih later
      exact ⟨s₁, .cons now hbefore, hafter⟩

/-- Each timer is looked up among the abilities that the turns before it left in force. -/
theorem found {before after : List TimerTurn}
    (h : TimerTurns e player (before ++ turn :: after) s s') :
    turn.found = (((before.flatMap TimerTurn.deeds).flatMap Deed.reloads).getLast?.getD
      s.cache.set).get? turn.name := by
  obtain ⟨s₁, hbefore, hafter⟩ := h.split
  cases hafter with
  | cons now _ => rw [now.found, hbefore.course.cache, Cache.set_reloads]

/-- What the turns call is done once, or lost, or waits, and so is what had waited before. -/
theorem accounted (h : TimerTurns e player turns s s') :
    ∃ lost, ((∀ n, e.scheduler.accepts n = true) → lost = []) ∧
      ((turns.flatMap TimerTurn.deeds).map Deed.act ++ lost ++ s'.pending.map Act.task).Perm
        (s.pending.map Act.task ++ turns.flatMap (TimerTurn.called player)) := by
  induction h with
  | nil s => exact ⟨[], fun _ => rfl, by simp⟩
  | cons now _ ih =>
    obtain ⟨lost, haccepted, hperm⟩ := now.accounted
    obtain ⟨lost', haccepted', hperm'⟩ := ih
    rw [TimerTurn.pending_report] at hperm'
    refine ⟨lost ++ lost', fun haccepts => ?_, ?_⟩
    · rw [haccepted haccepts, haccepted' haccepts, List.append_nil]
    · rw [List.flatMap_cons, List.flatMap_cons, List.map_append]
      exact perm_of_accounts hperm hperm'

/-- Every deed is called in one of the turns, or had waited before. -/
theorem makes (h : TimerTurns e player turns s s') {d : Deed}
    (hd : d ∈ turns.flatMap TimerTurn.deeds) :
    (∃ turn ∈ turns, ∃ a, turn.found = some a ∧ a.trigger = .timer ∧
      a.Makes (turn.context player) d.act) ∨ ∃ task ∈ s.pending, d.act = .task task := by
  have hturns : ∀ turn ∈ turns, ∃ s₁ s₂, Handles e player turn s₁ s₂ := by
    intro turn hturn
    obtain ⟨before, after, rfl⟩ := List.append_of_mem hturn
    obtain ⟨s₁, -, hafter⟩ := h.split
    cases hafter with
    | cons now _ => exact ⟨s₁, _, now⟩
  obtain ⟨lost, -, hperm⟩ := h.accounted
  have hact : d.act ∈ s.pending.map Act.task ++ turns.flatMap (TimerTurn.called player) :=
    hperm.mem_iff.1 (List.mem_append_left _ (List.mem_append_left _ (List.mem_map_of_mem hd)))
  rcases List.mem_append.1 hact with hwaited | hcalled
  · obtain ⟨task, htask, heq⟩ := List.mem_map.1 hwaited
    exact .inr ⟨task, htask, heq.symm⟩
  · obtain ⟨turn, hturn, hmem⟩ := List.mem_flatMap.1 hcalled
    obtain ⟨s₁, s₂, hhandles⟩ := hturns turn hturn
    exact .inl ⟨turn, hturn, hhandles.makes hmem⟩

end TimerTurns

/-- On a tick each timer that the table has as due has one turn, and no other has any, in the order
of the bytes of their names and whatever becomes of the turns before. It is looked up among the
abilities that these left in force, and it counts if it was not refused. What is called in the turns
is done once, and nothing else is done but what had waited. -/
theorem onTick_handles_due (e : Engine) (timers : TimerTable) (tick : Nat) (player : EntityId)
    (s : Simulation) :
    ∃ turns s',
      e.onTick timers tick player s = (turns.countP TimerTurn.ran, s') ∧
      turns.map TimerTurn.name = timers.due tick ∧
      (timers.due tick).Nodup ∧
      (timers.due tick).Pairwise (fun a b => Text.bytes a < Text.bytes b) ∧
      turns.countP TimerTurn.ran ≤ (timers.due tick).length ∧
      TimerTurns e player turns s s' ∧
      Course (turns.flatMap TimerTurn.deeds) s s' ∧
      (∀ before turn after, turns = before ++ turn :: after →
        turn.found = (((before.flatMap TimerTurn.deeds).flatMap Deed.reloads).getLast?.getD
          s.cache.set).get? turn.name) ∧
      (∀ d ∈ turns.flatMap TimerTurn.deeds,
        (∃ turn ∈ turns, ∃ a, turn.found = some a ∧ a.trigger = .timer ∧
          a.Makes (turn.context player) d.act) ∨ ∃ task ∈ s.pending, d.act = .task task) ∧
      ∃ lost, ((∀ n, e.scheduler.accepts n = true) → lost = []) ∧
        ((turns.flatMap TimerTurn.deeds).map Deed.act ++ lost ++ s'.pending.map Act.task).Perm
          (s.pending.map Act.task ++ turns.flatMap (TimerTurn.called player)) := by
  obtain ⟨turns, s', hrun, hnames, hturns⟩ := exists_timerTurns e player (timers.due tick) s
  have hcount : turns.countP TimerTurn.ran ≤ (timers.due tick).length := by
    rw [← hnames, List.length_map]
    exact List.countP_le_length
  refine ⟨turns, s', hrun, hnames, timers.due_nodup tick, timers.due_bytes_sorted tick, hcount,
    hturns, hturns.course, ?_, fun d hd => hturns.makes hd, hturns.accounted⟩
  rintro before turn after rfl
  exact hturns.found

-- The first timer puts others in force: of the later ones the second is gone, the third fires on
-- damage now, and the last is still a timer.
example :
    let crown : Ability := ⟨"crown", .timer, [⟨⟨"enthrone", [], false, fun _ _ _ =>
      [.reload [⟨"heir", .damageTaken, [], [], none⟩, ⟨"zeal", .timer, [], [], some 1⟩]]⟩, ⟨[]⟩⟩],
      [], some 1⟩
    let set := AbilitySet.ofAbilities [crown, ⟨"guard", .timer, [], [], some 1⟩,
      ⟨"heir", .timer, [], [], some 1⟩, ⟨"zeal", .timer, [], [], some 1⟩]
    let s := { Simulation.new (.ofList [.player "Alex" .origin] (.new "")) with cache := ⟨set, 1⟩ }
    (TimerTable.ofSet set).due 1 = ["crown", "guard", "heir", "zeal"] ∧
      (onTick ⟨true, .inline⟩ (.ofSet set) 1 0 s).1 = 2 := by
  decide +kernel

end Engine

end AbilityScript
