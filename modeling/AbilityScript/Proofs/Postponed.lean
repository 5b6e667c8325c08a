import AbilityScript.Proofs.Builtin.Footprint
import AbilityScript.Proofs.Dispatch
import AbilityScript.Proofs.Transcript

/-!
Work that was put off. A state in which messages wait is judged by the scene that it comes to once
they are delivered in order. A keyword does the same to that scene whether it runs before them or
after them, and deliveries out of order change no more than the order within an inbox.
-/
namespace AbilityScript

namespace Task

def onScene : Task → Scene → Scene
  | call c context, scene => Effect.inTurn (c.keyword.body context c.arguments scene) scene
  | mark _ _, scene => scene

def IsBuiltin (task : Task) : Prop :=
  ∃ c context, task = .call c context ∧ c.keyword ∈ Builtin.keywords

def IsMessage (task : Task) : Prop :=
  ∃ a context, task = .call ⟨Builtin.message, a⟩ context

def inTurn (tasks : List Task) (scene : Scene) : Scene :=
  tasks.foldl (fun scene task => task.onScene scene) scene

variable {task task' : Task} {tasks : List Task} {scene scene' : Scene}

theorem IsMessage.isBuiltin (h : task.IsMessage) : task.IsBuiltin := by
  obtain ⟨a, context, rfl⟩ := h
  exact ⟨_, context, rfl, by simp [Builtin.keywords]⟩

/-- A message is one delivery, whatever the scene, or does nothing to any. -/
theorem IsMessage.onScene_eq (h : task.IsMessage) :
    (∃ id text, ∀ scene, task.onScene scene = scene.deliver id text) ∨
      ∀ scene, task.onScene scene = scene := by
  obtain ⟨a, context, rfl⟩ := h
  rcases Builtin.body_message context a with ⟨id, text, hbody⟩ | hnotices
  · refine .inl ⟨id, text, fun scene => ?_⟩
    show Effect.inTurn (Builtin.message.body context a scene) scene = scene.deliver id text
    rw [hbody]
    rfl
  · exact .inr fun scene => Effect.inTurn_of_notices (hnotices scene) scene

theorem IsMessage.withoutInboxes_onScene (h : task.IsMessage) (scene : Scene) :
    (task.onScene scene).withoutInboxes = scene.withoutInboxes := by
  rcases h.onScene_eq with ⟨id, text, hdeliver⟩ | hnothing
  · rw [hdeliver, Scene.withoutInboxes_deliver]
  · rw [hnothing]

/-- Two messages may change places up to the order within an inbox. -/
theorem IsMessage.onScene_comm (h : task.IsMessage) (h' : task'.IsMessage) (scene : Scene) :
    (task'.onScene (task.onScene scene)).SameUpToInboxOrder
      (task.onScene (task'.onScene scene)) := by
  rcases h.onScene_eq with ⟨id, text, hdeliver⟩ | hnothing
  · rcases h'.onScene_eq with ⟨id', text', hdeliver'⟩ | hnothing'
    · simp only [hdeliver, hdeliver']
      exact Scene.deliver_comm id id' text text' scene
    · simp only [hnothing']
      exact .refl _
  · simp only [hnothing]
    exact .refl _

/-- A message may come before quiet effects or after them. -/
theorem IsMessage.onScene_quiet (h : task.IsMessage) {effects : List (Effect Ability)}
    (hquiet : ∀ effect ∈ effects, effect.IsQuiet) (scene : Scene) :
    Effect.inTurn effects (task.onScene scene) = task.onScene (Effect.inTurn effects scene) := by
  rcases h.onScene_eq with ⟨id, text, hdeliver⟩ | hnothing
  · simp only [hdeliver]
    exact Effect.inTurn_deliver hquiet id text scene
  · simp only [hnothing]

/-- Built-in work carries likeness up to the order of inboxes on, since it reads none of them. -/
theorem IsBuiltin.onScene_sameUpToInboxOrder (h : task.IsBuiltin)
    (hscene : scene.SameUpToInboxOrder scene') :
    (task.onScene scene).SameUpToInboxOrder (task.onScene scene') := by
  obtain ⟨c, context, rfl, hk⟩ := h
  have hbody : c.keyword.body context c.arguments scene =
      c.keyword.body context c.arguments scene' := by
    rw [← Builtin.body_withoutInboxes hk, hscene.withoutInboxes_eq,
      Builtin.body_withoutInboxes hk]
  show (Effect.inTurn (c.keyword.body context c.arguments scene) scene).SameUpToInboxOrder
    (Effect.inTurn (c.keyword.body context c.arguments scene') scene')
  rw [hbody]
  exact Effect.inTurn_sameUpToInboxOrder _ hscene

theorem inTurn_sameUpToInboxOrder (htasks : ∀ task ∈ tasks, task.IsBuiltin)
    (hscene : scene.SameUpToInboxOrder scene') :
    (inTurn tasks scene).SameUpToInboxOrder (inTurn tasks scene') := by
  induction tasks generalizing scene scene' with
  | nil => exact hscene
  | cons task tasks ih =>
    have hlater : ∀ other ∈ tasks, other.IsBuiltin := fun other hother =>
      htasks other (List.mem_cons_of_mem _ hother)
    exact ih hlater ((htasks task List.mem_cons_self).onScene_sameUpToInboxOrder hscene)

section Messages

variable (hmessages : ∀ task ∈ tasks, task.IsMessage)
include hmessages

theorem withoutInboxes_inTurn (scene : Scene) :
    (inTurn tasks scene).withoutInboxes = scene.withoutInboxes := by
  induction tasks generalizing scene with
  | nil => rfl
  | cons task tasks ih =>
    have hlater := ih (fun other hother => hmessages other (List.mem_cons_of_mem _ hother))
      (task.onScene scene)
    have htask := (hmessages task List.mem_cons_self).withoutInboxes_onScene scene
    exact hlater.trans htask

/-- All that waits may come before quiet effects or after them. -/
theorem inTurn_quiet {effects : List (Effect Ability)}
    (hquiet : ∀ effect ∈ effects, effect.IsQuiet) (scene : Scene) :
    Effect.inTurn effects (inTurn tasks scene) = inTurn tasks (Effect.inTurn effects scene) := by
  induction tasks generalizing scene with
  | nil => rfl
  | cons task tasks ih =>
    have htask := (hmessages task List.mem_cons_self).onScene_quiet hquiet scene
    calc Effect.inTurn effects (inTurn tasks (task.onScene scene))
        = inTurn tasks (Effect.inTurn effects (task.onScene scene)) :=
          ih (fun other hother => hmessages other (List.mem_cons_of_mem _ hother)) _
      _ = inTurn tasks (task.onScene (Effect.inTurn effects scene)) := by rw [htask]

/-- Any of the messages may come first, up to the order within an inbox. -/
theorem inTurn_eraseIdx {i : Nat} (hi : tasks[i]? = some task) (scene : Scene) :
    (inTurn tasks scene).SameUpToInboxOrder
      (inTurn (tasks.eraseIdx i) (task.onScene scene)) := by
  -- The message moves over those before it, one at a time.
  induction tasks generalizing i scene with
  | nil => simp at hi
  | cons head tasks ih =>
    have hlater : ∀ other ∈ tasks, other.IsMessage := fun other hother =>
      hmessages other (List.mem_cons_of_mem _ hother)
    cases i with
    | zero =>
      obtain rfl : head = task := by simpa using hi
      exact .refl _
    | succ i =>
      have hat : tasks[i]? = some task := by simpa using hi
      have hhead := hmessages head List.mem_cons_self
      have htask := hlater task (List.mem_of_getElem? hat)
      have hrest : ∀ other ∈ tasks.eraseIdx i, other.IsBuiltin := fun other hother =>
        (hlater other (List.mem_of_mem_eraseIdx hother)).isBuiltin
      have hmoved : (inTurn tasks (head.onScene scene)).SameUpToInboxOrder
          (inTurn (tasks.eraseIdx i) (task.onScene (head.onScene scene))) :=
        ih hlater hat (head.onScene scene)
      exact hmoved.trans (inTurn_sameUpToInboxOrder hrest (hhead.onScene_comm htask scene))

end Messages

end Task

def Scheduler.InOrder (sched : Scheduler) : Prop :=
  ∀ n, ∀ i ∈ sched.picks n, i = 0

namespace Simulation

def settled (s : Simulation) : Scene :=
  Task.inTurn s.pending s.scene

theorem scene_applyEffects (thread : Thread) (effects : List (Effect Ability)) (s : Simulation) :
    (s.applyEffects thread effects).scene = Effect.inTurn effects s.scene := by
  induction effects generalizing s with
  | nil => rfl
  | cons effect effects ih =>
    have heffect : (s.applyEffect thread effect).scene = effect.onScene s.scene := by
      cases effect <;> rfl
    calc ((s.applyEffect thread effect).applyEffects thread effects).scene
        = Effect.inTurn effects (s.applyEffect thread effect).scene := ih _
      _ = Effect.inTurn effects (effect.onScene s.scene) := by rw [heffect]

theorem pending_runTask (thread : Thread) (task : Task) (s : Simulation) :
    (s.runTask thread task).pending = s.pending := by
  cases task with
  | call c context => exact (ran_runKeyword thread c context s).pending
  | mark isAsync tag => rfl

theorem pending_handOver (sched : Scheduler) (task : Task) (s : Simulation) :
    (s.handOver sched task).pending = s.pending := by
  rw [handOver]
  split
  · exact pending_runTask _ _ _
  · split <;> rfl

/-- Of all keywords, the asynchronous ones alone are put off. -/
theorem pending_afterKeyword (sched : Scheduler) (context : Context) (s : Simulation)
    (c : KeywordCall Ability) :
    (Engine.afterKeyword sched context s c).pending =
      if c.keyword.isAsync then s.pending ++ [.call c context] else s.pending := by
  rw [Engine.afterKeyword]
  split
  · rfl
  · split
    · exact pending_runTask _ (.call c context) _
    · exact pending_handOver _ _ _

/-- Only a replacement of the abilities in force changes them. -/
theorem cache_applyEffects {thread : Thread} {effects : List (Effect Ability)}
    (h : ∀ abilities, Effect.reload abilities ∉ effects) (s : Simulation) :
    (s.applyEffects thread effects).cache = s.cache := by
  induction effects generalizing s with
  | nil => rfl
  | cons effect effects ih =>
    have hlater := ih (fun abilities hmem => h abilities (List.mem_cons_of_mem _ hmem))
      (s.applyEffect thread effect)
    have heffect : (s.applyEffect thread effect).cache = s.cache := by
      cases effect with
      | reload abilities => exact absurd List.mem_cons_self (h abilities)
      | _ => rfl
    exact hlater.trans heffect

theorem scene_runTask (thread : Thread) (task : Task) (s : Simulation) :
    (s.runTask thread task).scene = task.onScene s.scene := by
  cases task with
  | call c context => exact scene_applyEffects thread _ _
  | mark isAsync tag => rfl

theorem cache_runTask (thread : Thread) {task : Task} (h : task.IsBuiltin) (s : Simulation) :
    (s.runTask thread task).cache = s.cache := by
  obtain ⟨c, context, rfl, hk⟩ := h
  exact cache_applyEffects (Builtin.reload_notMem_body hk context c.arguments s.scene) _

/-- A state in which all that waits is run comes to its settled scene. -/
theorem scene_flush (sched : Scheduler) (s : Simulation) : (s.flush sched).scene = s.settled := by
  have hrun : ∀ (tasks : List Task) (t : Simulation),
      (tasks.foldl (fun t task => t.runTask sched.workerThread task) t).scene =
        Task.inTurn tasks t.scene := by
    intro tasks
    induction tasks with
    | nil =>
      intro t
      rfl
    | cons task tasks ih =>
      intro t
      calc (tasks.foldl (fun t task => t.runTask sched.workerThread task)
              (t.runTask sched.workerThread task)).scene
          = Task.inTurn tasks (t.runTask sched.workerThread task).scene := ih _
        _ = Task.inTurn tasks (task.onScene t.scene) := by rw [scene_runTask]
  exact hrun s.pending { s with pending := [] }

/-- From `s` to `s'`, what is settled went through `f`: exactly if everything was delivered in
order, and otherwise up to the order of inboxes. Nothing but messages waits in the end. -/
structure Settles (inOrder : Prop) (f : Scene → Scene) (s s' : Simulation) : Prop where
  cache : s'.cache = s.cache
  messages : ∀ task ∈ s'.pending, task.IsMessage
  alike : (f s.settled).SameUpToInboxOrder s'.settled
  exact : inOrder → f s.settled = s'.settled

namespace Settles

variable {inOrder : Prop} {f g : Scene → Scene} {s s' s'' : Simulation}

theorem of_eq (hcache : s'.cache = s.cache) (hmessages : ∀ task ∈ s'.pending, task.IsMessage)
    (h : f s.settled = s'.settled) : Settles inOrder f s s' :=
  ⟨hcache, hmessages, h ▸ .refl _, fun _ => h⟩

theorem refl (hmessages : ∀ task ∈ s.pending, task.IsMessage) : Settles inOrder id s s :=
  of_eq rfl hmessages rfl

theorem of_start {t : Simulation} (h : Settles inOrder f t s') (hcache : t.cache = s.cache)
    (hsettled : t.settled = s.settled) : Settles inOrder f s s' where
  cache := h.cache.trans hcache
  messages := h.messages
  alike := hsettled ▸ h.alike
  exact := hsettled ▸ h.exact

theorem imp {inOrder' : Prop} (h : Settles inOrder f s s') (himp : inOrder' → inOrder) :
    Settles inOrder' f s s' :=
  ⟨h.cache, h.messages, h.alike, fun hin => h.exact (himp hin)⟩

theorem trans (h : Settles inOrder f s s') (h' : Settles inOrder g s' s'')
    (hg : ∀ scene scene', scene.SameUpToInboxOrder scene' →
      (g scene).SameUpToInboxOrder (g scene')) :
    Settles inOrder (fun scene => g (f scene)) s s'' where
  cache := h'.cache.trans h.cache
  messages := h'.messages
  alike := (hg _ _ h.alike).trans h'.alike
  exact hin := by
    rw [h.exact hin]
    exact h'.exact hin

end Settles

section Steps

variable {inOrder : Prop} {sched : Scheduler} {s : Simulation}

/-- A synchronous keyword that runs before the messages that wait might as well run after them. -/
theorem settles_runTask (thread : Thread) {c : KeywordCall Ability} {context : Context}
    (hk : c.keyword ∈ Builtin.keywords) (hsync : c.keyword.isAsync = false)
    (hmessages : ∀ task ∈ s.pending, task.IsMessage) :
    Settles inOrder (Task.call c context).onScene s (s.runTask thread (.call c context)) := by
  refine .of_eq (cache_runTask thread ⟨c, context, rfl, hk⟩ s) ?_ ?_
  · rw [pending_runTask]
    exact hmessages
  -- The body finds the same but for inboxes, and what it does then moves over the deliveries.
  · have hbody : c.keyword.body context c.arguments s.settled =
        c.keyword.body context c.arguments s.scene := by
      rw [← Builtin.body_withoutInboxes hk, settled, Task.withoutInboxes_inTurn hmessages,
        Builtin.body_withoutInboxes hk]
    have hquiet := Builtin.isQuiet_of_sync hk hsync context c.arguments s.scene
    calc (Task.call c context).onScene s.settled
        = Effect.inTurn (c.keyword.body context c.arguments s.settled) s.settled := rfl
      _ = Effect.inTurn (c.keyword.body context c.arguments s.scene) s.settled := by rw [hbody]
      _ = Task.inTurn s.pending ((Task.call c context).onScene s.scene) :=
          Task.inTurn_quiet hmessages hquiet s.scene
      _ = (s.runTask thread (.call c context)).settled := by
          rw [settled, pending_runTask, scene_runTask]

/-- Work that is handed over counts as done. -/
theorem settles_spawn {task : Task} (htask : task.IsMessage)
    (hmessages : ∀ task ∈ s.pending, task.IsMessage) :
    Settles inOrder task.onScene s (s.spawn task) := by
  refine .of_eq rfl ?_ ?_
  · intro other hother
    rcases List.mem_append.1 hother with hold | hnew
    · exact hmessages other hold
    · obtain rfl := List.mem_singleton.1 hnew
      exact htask
  · show task.onScene (Task.inTurn s.pending s.scene) = Task.inTurn (s.pending ++ [task]) s.scene
    rw [Task.inTurn, Task.inTurn, List.foldl_append]
    rfl

/-- Whichever message runs, what is settled stays, but for the order of inboxes unless it was the
first that ran. -/
theorem settles_runPending (i : Nat) (hmessages : ∀ task ∈ s.pending, task.IsMessage) :
    Settles (i = 0) id s (s.runPending sched i) := by
  cases hi : s.pending[i]? with
  | none =>
    simp only [runPending, hi]
    exact .refl hmessages
  | some task =>
    have htask := hmessages task (List.mem_of_getElem? hi)
    have hpending : (s.runPending sched i).pending = s.pending.eraseIdx i := by
      simp only [runPending, hi, pending_runTask]
    have hsettled : (s.runPending sched i).settled =
        Task.inTurn (s.pending.eraseIdx i) (task.onScene s.scene) := by
      simp only [settled, runPending, hi, pending_runTask, scene_runTask]
    refine ⟨?_, ?_, ?_, ?_⟩
    · simp only [runPending, hi]
      exact cache_runTask _ htask.isBuiltin _
    · rw [hpending]
      exact fun other hother => hmessages other (List.mem_of_mem_eraseIdx hother)
    · rw [hsettled]
      exact Task.inTurn_eraseIdx hmessages hi s.scene
    · rintro rfl
      rw [hsettled]
      show Task.inTurn s.pending s.scene = _
      cases hlist : s.pending with
      | nil => simp [hlist] at hi
      | cons head rest =>
        obtain rfl : head = task := by simpa [hlist] using hi
        rfl

/-- A pause settles nothing new. -/
theorem settles_pause (hmessages : ∀ task ∈ s.pending, task.IsMessage) :
    Settles sched.InOrder id s (s.pause sched) := by
  have hpicks : ∀ (picks : List Nat) (t : Simulation), (∀ task ∈ t.pending, task.IsMessage) →
      Settles (∀ i ∈ picks, i = 0) id t (picks.foldl (runPending sched) t) := by
    intro picks
    induction picks with
    | nil =>
      intro t ht
      exact .refl ht
    | cons i picks ih =>
      intro t ht
      have hfirst : Settles (i = 0) id t (t.runPending sched i) := settles_runPending i ht
      have hlater := ih (t.runPending sched i) hfirst.messages
      exact (hfirst.imp fun h => h i List.mem_cons_self).trans
        (hlater.imp fun h j hj => h j (List.mem_cons_of_mem _ hj)) fun _ _ h => h
  have hpause := hpicks (sched.picks s.pauses) { s with pauses := s.pauses + 1 } hmessages
  exact .of_start (hpause.imp fun (h : sched.InOrder) => h s.pauses) rfl rfl

variable (haccepts : ∀ n, sched.accepts n = true)
include haccepts

/-- A built-in keyword does to the settled scene what its body does, on whatever thread and in
whatever order with the messages it runs. -/
theorem settles_afterKeyword {c : KeywordCall Ability} {context : Context}
    (hk : c.keyword ∈ Builtin.keywords) (hmessages : ∀ task ∈ s.pending, task.IsMessage) :
    Settles inOrder (Task.call c context).onScene s (Engine.afterKeyword sched context s c) := by
  by_cases hasync : c.keyword.isAsync = true
  · have htask : (Task.call c context).IsMessage := by
      obtain ⟨k, a⟩ := c
      obtain rfl : k = Builtin.message := Builtin.eq_message_of_async hk hasync
      exact ⟨a, context, rfl⟩
    rw [Engine.afterKeyword, if_pos hasync]
    exact settles_spawn htask hmessages
  · have hsync : c.keyword.isAsync = false := Bool.eq_false_iff.2 hasync
    rw [Engine.afterKeyword, if_neg hasync]
    split
    · have hran : Settles inOrder (Task.call c context).onScene (s.ask sched).2 _ :=
        settles_runTask sched.callerThread hk hsync hmessages
      exact hran.of_start rfl rfl
    -- The work is accepted, so it runs on the other thread before the handover returns.
    · have hhanded : (s.ask sched).2.handOver sched (.call c context) =
          ({ (s.ask sched).2 with handovers := s.handovers + 1 }.record .handedOver).runTask
            sched.primaryThread (.call c context) := by
        rw [handOver, if_pos (haccepts _)]
        rfl
      have hran : Settles inOrder (Task.call c context).onScene
          ({ (s.ask sched).2 with handovers := s.handovers + 1 }.record .handedOver) _ :=
        settles_runTask sched.primaryThread hk hsync hmessages
      rw [hhanded]
      exact hran.of_start rfl rfl

/-- A dispatch does to the settled scene what the bodies of the keywords do, in order. -/
theorem settles_dispatchAll {calls : List (KeywordCall Ability)} {context : Context}
    (hk : ∀ c ∈ calls, c.keyword ∈ Builtin.keywords) (done : Execution)
    (hmessages : ∀ task ∈ s.pending, task.IsMessage) :
    Settles sched.InOrder (Task.inTurn (calls.map fun c => .call c context)) s
      (Engine.dispatchAll sched context calls done s).2 := by
  rw [Engine.dispatchAll_eq]
  induction calls generalizing s with
  | nil => exact .refl hmessages
  | cons c calls ih =>
    have hlater : ∀ other ∈ calls, other.keyword ∈ Builtin.keywords := fun other hother =>
      hk other (List.mem_cons_of_mem _ hother)
    have hbuiltin : ∀ task ∈ calls.map fun c => Task.call c context, task.IsBuiltin := by
      intro task htask
      obtain ⟨other, hother, rfl⟩ := List.mem_map.1 htask
      exact ⟨other, context, rfl, hlater other hother⟩
    have hkeyword : Settles sched.InOrder (Task.call c context).onScene s
        (Engine.afterKeyword sched context s c) :=
      settles_afterKeyword haccepts (hk c List.mem_cons_self) hmessages
    have hpaused : Settles sched.InOrder (Task.call c context).onScene s
        ((Engine.afterKeyword sched context s c).pause sched) :=
      hkeyword.trans (settles_pause hkeyword.messages) fun _ _ h => h
    exact hpaused.trans (ih hlater hpaused.messages) fun _ _ h =>
      Task.inTurn_sameUpToInboxOrder hbuiltin h

end Steps

end Simulation

end AbilityScript
