import AbilityScript.Proofs.Course
import AbilityScript.Proofs.Deferral
import Mathlib.Algebra.Order.Group.Multiset
import Mathlib.Tactic.Abel

namespace AbilityScript

namespace Engine

open Simulation

variable {sched : Scheduler} {context : Context} {s s' s'' : Simulation}

/-- Two accounts, the later of which begins with what the earlier leaves waiting, make one. -/
theorem perm_of_accounts {α : Type} {done lost waiting before calls done' lost' waiting' calls' :
    List α} (h : (done ++ lost ++ waiting).Perm (before ++ calls))
    (h' : (done' ++ lost' ++ waiting').Perm (waiting ++ calls')) :
    (done ++ done' ++ (lost ++ lost') ++ waiting').Perm (before ++ (calls ++ calls')) := by
  simp only [← Multiset.coe_eq_coe, ← Multiset.coe_add] at *
  calc (done + done' + (lost + lost') + waiting' : Multiset α)
      = done + lost + (done' + lost' + waiting') := by abel
    _ = done + lost + waiting + calls' := by rw [h']; abel
    _ = before + (calls + calls') := by rw [h]; abel

structure Dispatched (sched : Scheduler) (context : Context) (calls : List (KeywordCall Ability))
    (deeds : List Deed) (lost : List (KeywordCall Ability)) (s s' : Simulation) : Prop where
  course : Course deeds s s'
  /-- Each keyword was done or lost or waits, and so was each piece of work that had waited. -/
  accounted : (deeds.map Deed.act ++ lost.map (Act.ofCall context) ++ s'.pending.map Act.task).Perm
    (s.pending.map Act.task ++ calls.map (Act.ofCall context))
  accepted : (∀ n, sched.accepts n = true) → lost = []
  ordered : lost = [] →
    ((Ability.synchronous calls).map (Act.ofCall context)).Sublist (deeds.map Deed.act)
  /-- Where what waits is run in order, asynchronous keywords are done in order too. -/
  queued : sched.InOrder → (∀ act ∈ s.pending.map Act.task, act.isAsync = true) →
    (deeds.map Deed.act).filter Act.isAsync ++ s'.pending.map Act.task =
      s.pending.map Act.task ++ (Ability.asynchronous calls).map (Act.ofCall context)
  prompt : lost = [] → (∀ n, sched.picks n = [0]) → s.pending = [] →
    deeds.map Deed.act = calls.map (Act.ofCall context) ∧ s'.pending = []

namespace Dispatched

variable {calls calls' : List (KeywordCall Ability)} {deeds deeds' : List Deed}
  {lost lost' : List (KeywordCall Ability)}

theorem refl (sched : Scheduler) (context : Context) (s : Simulation) :
    Dispatched sched context [] [] [] s s where
  course := .refl s
  accounted := by simp
  accepted _ := rfl
  ordered _ := List.Sublist.refl _
  queued _ _ := (List.append_nil _).symm
  prompt _ _ hpending := ⟨rfl, hpending⟩

theorem append (h : Dispatched sched context calls deeds lost s s')
    (h' : Dispatched sched context calls' deeds' lost' s' s'') :
    Dispatched sched context (calls ++ calls') (deeds ++ deeds') (lost ++ lost') s s'' where
  course := h.course.append h'.course
  accounted := by
    simp only [List.map_append]
    exact perm_of_accounts h.accounted h'.accounted
  accepted haccepts := by rw [h.accepted haccepts, h'.accepted haccepts]; rfl
  ordered hlost := by
    obtain ⟨hnone, hnone'⟩ := List.append_eq_nil_iff.1 hlost
    simp only [Ability.synchronous, List.filter_append, List.map_append]
    exact (h.ordered hnone).append (h'.ordered hnone')
  queued horder hwaiting := by
    have hfirst := h.queued horder hwaiting
    -- What waits in between is asynchronous as well, so the later account applies to it.
    have hbetween : ∀ act ∈ s'.pending.map Act.task, act.isAsync = true := by
      intro act hact
      have hmem := hfirst ▸ List.mem_append_right _ hact
      rcases List.mem_append.1 hmem with hold | hnew
      · exact hwaiting act hold
      · exact Act.isAsync_ofCall_of_mem hnew
    have hsecond := h'.queued horder hbetween
    simp only [Ability.asynchronous, List.filter_append, List.map_append] at hfirst hsecond ⊢
    rw [List.append_assoc, hsecond, ← List.append_assoc, hfirst, List.append_assoc]
  prompt hlost hpicks hpending := by
    obtain ⟨hnone, hnone'⟩ := List.append_eq_nil_iff.1 hlost
    obtain ⟨hacts, hmiddle⟩ := h.prompt hnone hpicks hpending
    obtain ⟨hacts', hend⟩ := h'.prompt hnone' hpicks hmiddle
    exact ⟨by rw [List.map_append, List.map_append, hacts, hacts'], hend⟩

end Dispatched

/-- A synchronous keyword is done, or lost if the scheduler does not accept it. -/
theorem course_afterKeyword_of_sync (sched : Scheduler) (context : Context)
    {c : KeywordCall Ability} (hsync : c.keyword.isAsync = false)
    (s : Simulation) :
    (∃ thread, Course [⟨Act.ofCall context c, thread, s.scene⟩] s (afterKeyword sched context s c)) ∨
      Course [] s (afterKeyword sched context s c) ∧ ∃ n, sched.accepts n = false := by
  have hask : Course [] s (s.ask sched).2 :=
    (Course.of_record (.asked (sched.onPrimary s.questions)) rfl
      { s with questions := s.questions + 1 }).of_start rfl rfl rfl
  rw [afterKeyword, if_neg (by rw [hsync]; exact Bool.false_ne_true)]
  split
  · have hran := course_runTask sched.callerThread (.call c context) (s.ask sched).2
    exact .inl ⟨sched.callerThread, hask.append hran⟩
  · have hhanded : Course [] s
        ({ (s.ask sched).2 with handovers := s.handovers + 1 }.record .handedOver) :=
      hask.append ((Course.of_record (.handedOver) rfl _).of_start rfl rfl rfl)
    rw [handOver]
    split
    case isTrue =>
      have hran := course_runTask sched.primaryThread (.call c context)
        ({ (s.ask sched).2 with handovers := s.handovers + 1 }.record .handedOver)
      exact .inl ⟨sched.primaryThread, hhanded.append hran⟩
    case isFalse hrefused =>
      refine .inr ⟨?_, _, Bool.eq_false_iff.2 hrefused⟩
      -- Whether the caller is told of the loss or not, no body ran.
      split
      · exact hhanded.append (.of_record _ rfl _)
      · exact hhanded

/-- An asynchronous keyword joins what waits, and is done when it is picked. -/
theorem dispatched_of_async (context : Context) {c : KeywordCall Ability}
    (hasync : c.keyword.isAsync = true) (s : Simulation) :
    ∃ deeds lost, Dispatched sched context [c] deeds lost s
      ((afterKeyword sched context s c).pause sched) := by
  obtain ⟨deeds, hdone⟩ := drained_pause sched (afterKeyword sched context s c)
  have hpending : (afterKeyword sched context s c).pending.map Act.task =
      s.pending.map Act.task ++ [Act.ofCall context c] := by
    rw [pending_afterKeyword, if_pos hasync, List.map_append]
    rfl
  have hspawn : Course [] s (afterKeyword sched context s c) := by
    rw [afterKeyword, if_pos hasync]
    exact (Course.of_record .spawned rfl _).of_start rfl rfl rfl
  have hsynchronous : Ability.synchronous [c] = [] := by simp [Ability.synchronous, hasync]
  have hasynchronous : Ability.asynchronous [c] = [c] := by simp [Ability.asynchronous, hasync]
  refine ⟨deeds, [], hspawn.append hdone.course, ?_, fun _ => rfl, ?_, ?_, ?_⟩
  · rw [List.map_nil, List.append_nil]
    exact hpending ▸ hdone.accounted
  · intro _
    rw [hsynchronous]
    exact List.nil_sublist _
  · intro horder hwaiting
    have hall : deeds.map Deed.act ++ ((afterKeyword sched context s c).pause sched).pending.map
        Act.task = s.pending.map Act.task ++ [Act.ofCall context c] :=
      (hdone.inOrder horder).trans hpending
    -- What is done was waiting or is this keyword, so nothing of it is filtered out.
    have hasyncs : (deeds.map Deed.act).filter Act.isAsync = deeds.map Deed.act := by
      apply hdone.filter_isAsync
      intro act hact
      rw [hpending] at hact
      rcases List.mem_append.1 hact with hold | hnew
      · exact hwaiting act hold
      · obtain rfl := List.mem_singleton.1 hnew
        exact hasync
    rw [hasyncs, hasynchronous]
    exact hall
  · intro _ hpicks hnone
    have hpaused : ((afterKeyword sched context s c).pause sched).pending = [] := by
      apply Command.pending_pause_of_prompt hpicks
      rw [pending_afterKeyword, if_pos hasync, hnone]
      exact le_refl 1
    have hperm := hdone.accounted
    rw [hpending, hpaused, hnone, List.map_nil, List.append_nil] at hperm
    exact ⟨List.perm_singleton.1 hperm, hpaused⟩

/-- A synchronous keyword is done or lost, and only then comes what waits. -/
theorem dispatched_of_sync (context : Context) {c : KeywordCall Ability}
    (hsync : c.keyword.isAsync = false) (s : Simulation) :
    ∃ deeds lost, Dispatched sched context [c] deeds lost s
      ((afterKeyword sched context s c).pause sched) := by
  obtain ⟨deeds, hdone⟩ := drained_pause sched (afterKeyword sched context s c)
  have hpending : (afterKeyword sched context s c).pending = s.pending := by
    rw [pending_afterKeyword, hsync]
    rfl
  have hsynchronous : Ability.synchronous [c] = [c] := by simp [Ability.synchronous, hsync]
  have hasynchronous : Ability.asynchronous [c] = [] := by simp [Ability.asynchronous, hsync]
  have haccounted := hpending ▸ hdone.accounted
  have hqueued (horder : sched.InOrder) (hwaiting : ∀ act ∈ s.pending.map Act.task,
      act.isAsync = true) : (deeds.map Deed.act).filter Act.isAsync ++
        ((afterKeyword sched context s c).pause sched).pending.map Act.task =
      s.pending.map Act.task ++ (Ability.asynchronous [c]).map (Act.ofCall context) := by
    have hall := hpending ▸ hdone.inOrder horder
    have hasyncs := hdone.filter_isAsync (hpending.symm ▸ hwaiting)
    rw [hasyncs, hasynchronous, List.map_nil, List.append_nil]
    exact hall
  rcases course_afterKeyword_of_sync sched context hsync s with
    ⟨thread, hran⟩ | ⟨hlost, n, hrefused⟩
  · refine ⟨_, [], hran.append hdone.course, ?_, fun _ => rfl, ?_, ?_, ?_⟩
    · have hfront : (Act.ofCall context c :: (deeds.map Deed.act ++
          ((afterKeyword sched context s c).pause sched).pending.map Act.task)).Perm
          (s.pending.map Act.task ++ [Act.ofCall context c]) :=
        (haccounted.cons _).trans (List.perm_append_singleton _ _).symm
      simpa using hfront
    · intro _
      rw [hsynchronous]
      exact (List.nil_sublist _).cons_cons _
    -- The keyword itself is filtered out of its deeds, and the others are those of the pause.
    · intro horder hwaiting
      have hown : (Act.ofCall context c).isAsync = false := hsync
      rw [List.map_append, List.filter_append, List.map_singleton, List.filter_singleton, hown]
      exact hqueued horder hwaiting
    · intro _ _ hnone
      obtain ⟨hdeeds, hrest⟩ := hdone.nothing (hpending.trans hnone)
      exact ⟨congrArg (_ :: ·) hdeeds, hrest⟩
  · refine ⟨_, [c], hlost.append hdone.course, ?_, ?_, ?_, hqueued, ?_⟩
    · rw [List.append_assoc]
      refine (List.perm_append_comm.append_left _).trans ?_
      rw [← List.append_assoc]
      exact haccounted.append_right _
    · intro haccepts
      rw [haccepts n] at hrefused
      cases hrefused
    · intro hnone
      cases hnone
    · intro hnone
      cases hnone

theorem dispatched_dispatchAll (sched : Scheduler) (context : Context)
    (calls : List (KeywordCall Ability)) (done : Execution)
    (s : Simulation) :
    ∃ deeds lost, Dispatched sched context calls deeds lost s
      (dispatchAll sched context calls done s).2 := by
  rw [dispatchAll_eq]
  -- One keyword at a time, with the pause that comes after it.
  induction calls generalizing s with
  | nil => exact ⟨[], [], .refl sched context s⟩
  | cons c calls ih =>
    obtain ⟨deeds, lost, hfirst⟩ : ∃ deeds lost, Dispatched sched context [c] deeds lost s
        ((afterKeyword sched context s c).pause sched) := by
      cases hasync : c.keyword.isAsync with
      | true => exact dispatched_of_async context hasync s
      | false => exact dispatched_of_sync context hasync s
    obtain ⟨deeds', lost', hlater⟩ := ih ((afterKeyword sched context s c).pause sched)
    exact ⟨_, _, hfirst.append hlater⟩

/-- The three ways in which an attempt to run an ability ends, and the deeds that it takes: none
where a subject is lacking, the tests up to the first false answer, or all tests and then what the
keywords do. -/
inductive Ending (e : Engine) (a : Ability) (context : Context) (s : Simulation) :
    List Deed → Except Refusal Execution → Simulation → Prop
  | incompatible {refusal} (lacking : incompatibility? e.strict a context.capabilities = some refusal) :
      Ending e a context s [] (.error refusal) s
  | closed (compatible : incompatibility? e.strict a context.capabilities = none)
      {before call tests s'}
      (first : FirstFalse e.scheduler.callerThread context a.conditions before call s s')
      (course : Course tests s s')
      (tested : tests.map Deed.act = (before ++ [call]).map (.test · context)) :
      Ending e a context s tests (.error (.conditionFailed a.name call.condition.name)) s'
  | opened (compatible : incompatibility? e.strict a context.capabilities = none)
      {tests s₁ deeds lost s₂}
      (hold : HoldInTurn e.scheduler.callerThread context a.conditions s s₁)
      (course : Course tests s s₁)
      (tested : tests.map Deed.act = a.conditions.map (.test · context))
      (dispatched : Dispatched e.scheduler context a.keywords deeds lost s₁ s₂) :
      Ending e a context s (tests ++ deeds) (.ok ((⟨a.name, 0, 0⟩ : Execution).tally a.keywords))
        (s₂.note e.scheduler.callerThread (.executed a.name
          (0 + (Ability.synchronous a.keywords).length)
          (0 + (Ability.asynchronous a.keywords).length)))

theorem ending_run (e : Engine) (a : Ability) (context : Context) (s : Simulation) :
    ∃ deeds, Ending e a context s deeds (e.run a context s).1 (e.run a context s).2 := by
  rw [run]
  split
  case h_1 refusal hlacking => exact ⟨[], .incompatible hlacking⟩
  case h_2 hcompatible =>
    split
    case h_1 name s' hgate =>
      obtain ⟨before, call, hfirst, rfl⟩ := (failedCondition?_eq_some_iff _ _ _ _).1 hgate
      obtain ⟨tests, hcourse, htested⟩ := hfirst.course
      exact ⟨tests, .closed hcompatible hfirst hcourse htested⟩
    case h_2 s₁ hgate =>
      have hhold := (failedCondition?_eq_none_iff _ _ _).1 hgate
      obtain ⟨tests, hcourse, htested⟩ := hhold.course
      obtain ⟨deeds, lost, hdispatched⟩ :=
        dispatched_dispatchAll e.scheduler context a.keywords ⟨a.name, 0, 0⟩ s₁
      rcases hdone : dispatchAll e.scheduler context a.keywords ⟨a.name, 0, 0⟩ s₁ with ⟨done, s₂⟩
      have hreport : done = (⟨a.name, 0, 0⟩ : Execution).tally a.keywords := by
        rw [dispatchAll_eq] at hdone
        exact (congrArg Prod.fst hdone).symm
      rw [hdone] at hdispatched
      subst hreport
      exact ⟨tests ++ deeds, .opened hcompatible hhold hcourse htested hdispatched⟩

theorem Ending.course {e : Engine} {a : Ability} {deeds : List Deed}
    {result : Except Refusal Execution} (h : Ending e a context s deeds result s') :
    Course deeds s s' := by
  cases h with
  | incompatible => exact .refl s
  | closed _ _ course => exact course
  | @opened _ tests _ done _ s₂ _ course _ dispatched =>
    have hnote := Course.of_record (.noticed (.executed a.name
      (0 + (Ability.synchronous a.keywords).length)
      (0 + (Ability.asynchronous a.keywords).length)) e.scheduler.callerThread) rfl s₂
    have hall := (course.append dispatched.course).append hnote
    rwa [List.append_nil] at hall

/-- An execution that is not refused tests each condition once, and does each keyword once, unless
that is lost or waits. -/
theorem Ending.accounted {e : Engine} {a : Ability} {deeds : List Deed} {done : Execution}
    (h : Ending e a context s deeds (.ok done) s') :
    ∃ lost : List (KeywordCall Ability), ((∀ n, e.scheduler.accepts n = true) → lost = []) ∧
      (deeds.map Deed.act ++ lost.map (Act.ofCall context) ++ s'.pending.map Act.task).Perm
        (s.pending.map Act.task ++
          (a.conditions.map (Act.test · context) ++ a.keywords.map (Act.ofCall context))) := by
  cases h with
  | @opened _ tests s₁ deeds lost s₂ hold _ tested dispatched =>
    refine ⟨lost, dispatched.accepted, ?_⟩
    have hkeywords := dispatched.accounted
    rw [hold.ran.pending] at hkeywords
    have hall := (hkeywords.append_left (tests.map Deed.act)).trans
      (List.perm_append_comm_assoc _ _ _)
    rw [tested] at hall
    rw [List.map_append, tested, List.append_assoc, List.append_assoc]
    rwa [List.append_assoc] at hall

end Engine

inductive Ability.Makes (a : Ability) (context : Context) : Act → Prop
  | test {c} (listed : c ∈ a.conditions) : Makes a context (.test c context)
  | call {c} (listed : c ∈ a.keywords) : Makes a context (.task (.call c context))

namespace Engine

open Simulation

/-- An execution consists of acts of its ability, and of work that had waited. What it leaves
waiting is of the same two kinds. -/
theorem Ending.makes {e : Engine} {a : Ability} {context : Context} {s s' : Simulation}
    {deeds : List Deed} {result : Except Refusal Execution}
    (h : Ending e a context s deeds result s') :
    (∀ d ∈ deeds, a.Makes context d.act ∨ ∃ task ∈ s.pending, d.act = .task task) ∧
      ∀ task ∈ s'.pending, a.Makes context (.task task) ∨ task ∈ s.pending := by
  have htests {calls : List (ConditionCall Ability)} {tests : List Deed}
      (hacts : tests.map Deed.act = calls.map (.test · context)) (hlisted : calls ⊆ a.conditions) :
      ∀ d ∈ tests, a.Makes context d.act := by
    intro d hd
    have hact : d.act ∈ calls.map (Act.test · context) := hacts ▸ List.mem_map_of_mem hd
    obtain ⟨c, hc, hdc⟩ := List.mem_map.1 hact
    exact hdc ▸ .test (hlisted hc)
  cases h with
  | incompatible => exact ⟨by simp, fun task htask => .inr htask⟩
  | closed _ first _ tested =>
    refine ⟨fun d hd => .inl (htests tested first.listed.subset d hd), ?_⟩
    rw [first.ran.pending]
    exact fun task htask => .inr htask
  | @opened _ _ _ done lost s₂ hold _ tested dispatched =>
    -- Whatever is done or waits afterwards was waiting before or is a keyword of the ability.
    have hsource : ∀ act ∈ done.map Deed.act ++ lost.map (Act.ofCall context) ++
        s₂.pending.map Act.task, a.Makes context act ∨ ∃ task ∈ s.pending, act = .task task := by
      intro act hact
      rcases List.mem_append.1 (dispatched.accounted.mem_iff.1 hact) with hwaited | hcall
      · rw [hold.ran.pending] at hwaited
        obtain ⟨task, htask, rfl⟩ := List.mem_map.1 hwaited
        exact .inr ⟨task, htask, rfl⟩
      · obtain ⟨c, hc, rfl⟩ := List.mem_map.1 hcall
        exact .inl (.call hc)
    constructor
    · intro d hd
      rcases List.mem_append.1 hd with htest | hdone
      · exact .inl (htests tested (fun _ hc => hc) d htest)
      · exact hsource _ (List.mem_append_left _ (List.mem_append_left _ (List.mem_map_of_mem hdone)))
    · intro task htask
      rcases hsource (.task task) (List.mem_append_right _ (List.mem_map_of_mem htask)) with
        hmade | ⟨waited, hwaited, heq⟩
      · exact .inl hmade
      · cases heq
        exact .inr hwaited

theorem course_run (e : Engine) (a : Ability) (context : Context) (s : Simulation) :
    ∃ deeds, Course deeds s (e.run a context s).2 ∧
      (∀ d ∈ deeds, a.Makes context d.act ∨ ∃ task ∈ s.pending, d.act = .task task) ∧
      ∀ task ∈ (e.run a context s).2.pending, a.Makes context (.task task) ∨ task ∈ s.pending := by
  obtain ⟨deeds, hending⟩ := ending_run e a context s
  exact ⟨deeds, hending.course, hending.makes⟩

end Engine

end AbilityScript
