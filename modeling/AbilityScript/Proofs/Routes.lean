import AbilityScript.Proofs.Deferral
import AbilityScript.Proofs.EventSubjects
import AbilityScript.Proofs.InStep

namespace AbilityScript

structure Context.SameSubjects (context context' : Context) : Prop where
  capabilities : context'.capabilities = context.capabilities
  entity? : ∀ t, context'.entity? t = context.entity? t
  location? : ∀ scene t, context'.location? scene t = context.location? scene t

/-- An event whose trigger promises the player alone offers what its player offers without it. -/
theorem Event.sameSubjects_of_player {event : Event}
    (hplayer : event.trigger.targeters = .singleton .player) (name : String) :
    (event.context name).SameSubjects ⟨name, .unbound, event.player, .base⟩ := by
  have hkind : event.contextKind.capabilities = .singleton .player :=
    event.capabilities_contextKind.trans hplayer
  have hnone : event.contextKind.entity? = none ∧ event.contextKind.block? = none := by
    cases hcase : event.contextKind with
    | base => exact ⟨rfl, rfl⟩
    | interact click hand => exact ⟨rfl, rfl⟩
    -- A context of any other kind has a subject besides the player.
    | _ =>
      rw [hcase] at hkind
      cases hkind
  refine ⟨hkind.symm, fun t => ?_, fun scene t => ?_⟩
  · cases t with
    | player => rfl
    | entity => exact hnone.1.symm
    | block => rfl
  · cases t with
    | player => rfl
    | entity => exact congrArg (Option.map fun id => (scene.entity id).location) hnone.1.symm
    | block => exact congrArg (Option.map Block.location) hnone.2.symm

namespace Builtin

variable {context context' : Context} (h : context.SameSubjects context') {a : Arguments}
include h

theorem target_of_sameSubjects (name : String) :
    (target name a context').1 = (target name a context).1 := by
  simp only [target]
  split
  · rfl
  case h_2 t ht =>
    rw [h.entity? t]
    cases context.entity? t <;> rfl

/-- A keyword with a living subject looks at the subject alone. A notice that there is none may tell
of other triggers, but does nothing to a scene. -/
theorem inTurn_onTarget_of_sameSubjects (name : String) (others : List Schema)
    (change : Arguments → Entity → Option EntityChange) (scene : Scene) :
    Effect.inTurn ((onTarget name others change).body context' a scene) scene =
      Effect.inTurn ((onTarget name others change).body context a scene) scene := by
  have htarget := target_of_sameSubjects h (a := a) name
  rcases hc : target name a context with ⟨found, notices⟩
  rcases hc' : target name a context' with ⟨found', notices'⟩
  obtain rfl : found' = found := by rwa [hc, hc'] at htarget
  cases found' with
  | none =>
    have hnotices (notices : List Notice) :
        Effect.inTurn (notices.map (Effect.notice (α := Ability))) scene = scene :=
      Effect.inTurn_of_notices (by simp) scene
    simp only [onTarget, hc, hc', hnotices]
  | some id => simp only [onTarget, hc, hc']

theorem inTurn_lightning_of_sameSubjects (scene : Scene) :
    Effect.inTurn (lightning.body context' a scene) scene =
      Effect.inTurn (lightning.body context a scene) scene := by
  simp only [lightning]
  split
  · rfl
  case h_2 t ht =>
    rw [h.location? scene t]
    cases context.location? scene t <;> rfl

/-- A built-in keyword does the same to a scene wherever the subjects are the same. -/
theorem inTurn_of_sameSubjects {k : Keyword Ability} (hk : k ∈ keywords) (scene : Scene) :
    Effect.inTurn (k.body context' a scene) scene =
      Effect.inTurn (k.body context a scene) scene := by
  rcases exists_changesSubject hk with rfl | ⟨change, hchanges⟩
  · exact inTurn_lightning_of_sameSubjects h scene
  · obtain ⟨label, others, hbody⟩ := hchanges.body
    rw [hbody]
    exact inTurn_onTarget_of_sameSubjects h label others change scene

theorem answer_ofTarget_of_sameSubjects (name : String) (others : List Schema)
    (holds : Arguments → Entity → Bool) (scene : Scene) :
    ((ofTarget name others holds).body context' a scene).1 =
      ((ofTarget name others holds).body context a scene).1 := by
  have htarget := target_of_sameSubjects h (a := a) name
  rcases hc : target name a context with ⟨found, notices⟩
  rcases hc' : target name a context' with ⟨found', notices'⟩
  obtain rfl : found' = found := by rwa [hc, hc'] at htarget
  cases found' with
  | none => simp only [ofTarget, hc, hc']
  | some id => simp only [ofTarget, hc, hc']

/-- A built-in condition gives the same answer wherever the subjects are the same. -/
theorem answer_of_sameSubjects {k : Condition Ability} (hk : k ∈ conditions) (scene : Scene) :
    (k.body context' a scene).1 = (k.body context a scene).1 := by
  simp only [conditions, List.mem_cons, List.not_mem_nil, or_false] at hk
  rcases hk with rfl | rfl | rfl
  · rfl
  · exact answer_ofTarget_of_sameSubjects h _ _ _ scene
  · exact answer_ofTarget_of_sameSubjects h _ _ _ scene

end Builtin

/-- An ability of built-in functions agrees with itself call by call in contexts with the same
subjects. -/
theorem Ability.OfBuiltins.sameOnScenes {a : Ability} (ha : a.OfBuiltins)
    {context context' : Context} (h : context.SameSubjects context') :
    a.SameOnScenes context context' a where
  name := rfl
  incompatibility strict := by rw [h.capabilities]
  conditions := List.forall₂_same.2 fun c hc => by
    have heffects (context : Context) (scene : Scene) :
        Effect.inTurn (c.condition.body context c.arguments scene).2 scene = scene :=
      Effect.inTurn_of_notices (Builtin.effects_of_conditions (ha.conditions c hc) _ _ _) scene
    refine ⟨rfl, Builtin.answer_of_sameSubjects h (ha.conditions c hc), fun scene => ?_⟩
    rw [heffects, heffects]
  keywords := List.forall₂_same.2 fun c hc =>
    ⟨rfl, Builtin.inTurn_of_sameSubjects h (ha.keywords c hc)⟩

/-- Two executions come to the same: to one result, and to one state of the entities and the world,
at once, after any number of pauses, and when all that was put off has run. -/
structure SameOutcome (sched : Scheduler) (x y : Except Refusal Execution × Simulation) : Prop where
  result : y.1 = x.1
  scene : ∀ n, ((Simulation.pause sched)^[n] y.2).scene = ((Simulation.pause sched)^[n] x.2).scene
  settled : (y.2.flush sched).scene = (x.2.flush sched).scene

structure SameSettled (sched sched' : Scheduler)
    (x y : Except Refusal Execution × Simulation) : Prop where
  result : y.1 = x.1
  settled : (x.2.flush sched).scene.SameUpToInboxOrder (y.2.flush sched').scene
  exact : sched.InOrder → sched'.InOrder → (y.2.flush sched').scene = (x.2.flush sched).scene

namespace Engine

variable {name : String} {a : Ability} {s : Simulation}

theorem executeByName_of_missing (hfound : s.cache.set.get? name = none) (e : Engine)
    (player : EntityId) : e.executeByName name player s = (.error (.abilityNotFound name), s) := by
  rw [executeByName, hfound]

theorem executeByName_of_found (hfound : s.cache.set.get? name = some a) (e : Engine)
    (player : EntityId) :
    e.executeByName name player s = e.run a ⟨name, .unbound, player, .base⟩ s := by
  rw [executeByName, hfound]

end Engine

/-- The routes agree. A name under which nothing is in force is refused on both. An ability of
built-in functions whose trigger promises the player alone comes to the same for an event that fires
that trigger as under its name for the event's player, whatever the strictness, the state and the
scheduler, and even on two schedulers that run what they are given. -/
theorem routes_agree (event : Event) (name : String) (e : Engine) (s : Simulation) :
    (s.cache.set.get? name = none →
      e.dispatch event name s = (.error (.abilityNotFound name), s) ∧
      e.executeByName name event.player s = (.error (.abilityNotFound name), s)) ∧
    ∀ a, s.cache.set.get? name = some a → a.OfBuiltins → a.trigger = event.trigger →
      a.trigger.targeters = .singleton .player →
      SameOutcome e.scheduler (e.dispatch event name s) (e.executeByName name event.player s) ∧
      ∀ sched : Scheduler, (∀ n, e.scheduler.accepts n = true) → (∀ n, sched.accepts n = true) →
        (∀ task ∈ s.pending, task.IsMessage) → s.cache.set.OfBuiltins →
        SameSettled e.scheduler sched (e.dispatch event name s)
          (Engine.executeByName ⟨e.strict, sched⟩ name event.player s) := by
  refine ⟨fun hmissing => ?_, fun a hfound ha htrigger hplayer => ?_⟩
  · exact ⟨Engine.dispatch_of_missing hmissing, Engine.executeByName_of_missing hmissing e _⟩
  have hsubjects : (event.context name).SameSubjects ⟨name, .unbound, event.player, .base⟩ :=
    Event.sameSubjects_of_player (htrigger ▸ hplayer) name
  have hagrees := ha.sameOnScenes hsubjects
  rw [Engine.dispatch_of_trigger hfound htrigger]
  refine ⟨?_, fun sched haccepts haccepts' hmessages hset => ?_⟩
  · rw [Engine.executeByName_of_found hfound]
    obtain ⟨hresult, hstates⟩ := Engine.run_inStep e hagrees (.refl s)
    exact ⟨hresult, fun n => (hstates.pauses_iterate e.scheduler n).scene,
      hstates.scene_flush e.scheduler⟩
  -- On the other scheduler the event would come to the same up to the order of inboxes, and there
  -- the two routes are in step.
  · rw [Engine.executeByName_of_found hfound]
    have hstart : Simulation.Alike (e.scheduler.InOrder ∧ sched.InOrder) s s :=
      ⟨rfl, hset, hmessages, hmessages, .refl _, fun _ => rfl⟩
    obtain ⟨hresult, halike⟩ := Engine.run_alike haccepts haccepts' id e.strict ha
      (event.context name) hstart
    obtain ⟨hresult', hstates⟩ := Engine.run_inStep ⟨e.strict, sched⟩ hagrees (.refl s)
    refine ⟨hresult'.trans hresult.symm, ?_, fun hin hin' => ?_⟩
    · rw [hstates.scene_flush, Simulation.scene_flush, Simulation.scene_flush]
      exact halike.settled
    · rw [hstates.scene_flush, Simulation.scene_flush, Simulation.scene_flush]
      exact (halike.exact ⟨hin, hin'⟩).symm

def signal : Ability where
  name := "signal"
  trigger := .rightClick
  keywords := [⟨Builtin.lightning, ⟨[.targeter .player]⟩⟩,
    ⟨Builtin.message, ⟨[.targeter .player, .string "Marked"]⟩⟩]
  conditions := [⟨Builtin.isTime, ⟨[.member (TimeOfDay.enumeration.value .day)]⟩⟩]
  timer := none

/-- A click on a block that is not there, and the same ability under its name on another
scheduler. -/
theorem routes_agree_signal :
    let event : Event := .interact 0 .rightBlock .main none
    let e : Engine := ⟨true, .inline⟩
    let s : Simulation := { Simulation.new (.ofList [.player "Alex" .origin] (.new "")) with
      cache := ⟨.ofAbilities [signal], 1⟩ }
    Registry.withBuiltins.registry.Produces signal ∧
    (e.dispatch event "signal" s).1 = .ok ⟨"signal", 1, 1⟩ ∧
    SameOutcome .inline (e.dispatch event "signal" s) (e.executeByName "signal" 0 s) ∧
    SameSettled .inline Command.belated (e.dispatch event "signal" s)
      (Engine.executeByName ⟨true, Command.belated⟩ "signal" 0 s) := by
  intro event e s
  have hproduced : Registry.withBuiltins.registry.Produces signal :=
    .inr ⟨"signal", ⟨"right-click", ["lightning(?player)", "message(?player, Marked)"],
      ["istime(day)"], none⟩, _,
      (Registry.compile_eq_ok_iff _ _ _ _).2 ⟨.rightClick, none, by decide, rfl, rfl⟩, rfl⟩
  have hsignal : signal.OfBuiltins := Ability.ofBuiltins_of_produces hproduced
  have hset : s.cache.set.OfBuiltins := by
    intro a ha
    obtain rfl : a = signal := List.mem_singleton.1 ha
    exact hsignal
  obtain ⟨-, hroutes⟩ := routes_agree event "signal" e s
  obtain ⟨hsame, hother⟩ := hroutes signal rfl hsignal rfl rfl
  exact ⟨hproduced, by decide +kernel, hsame, hother Command.belated (fun _ => rfl) (fun _ => rfl)
    (fun task htask => absurd htask List.not_mem_nil) hset⟩

end AbilityScript
