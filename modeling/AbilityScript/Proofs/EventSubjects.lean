import AbilityScript.Event
import AbilityScript.Proofs.RefusalDecision

namespace AbilityScript

namespace Event

def other? : Event → Option EntityId
  | interactEntity _ entity _ => some entity
  | damageDealt _ victim => some victim
  | damageTaken _ damager => some damager
  | _ => none

def block? : Event → Option Block
  | interact _ _ _ block => block
  | blockBreak _ block => some block
  | _ => none

/-- The context tells of the event and offers the subjects that the event's trigger promises, no
more and no less, each as the event has it. -/
structure Supplies (event : Event) (context : Context) : Prop where
  trigger : context.trigger = event.trigger
  player : context.player = event.player
  capabilities : context.capabilities = event.trigger.targeters
  playerResolves : context.entity? .player = some event.player ∧
    ∀ scene, context.location? scene .player = some (scene.entity event.player).location
  entityResolves : .entity ∈ event.trigger.targeters →
    ∃ id, event.other? = some id ∧ context.entity? .entity = some id ∧
      ∀ scene, context.location? scene .entity = some (scene.entity id).location
  blockResolves : .block ∈ event.trigger.targeters →
    ∃ block, event.block? = some block ∧
      ∀ scene, context.location? scene .block = some block.location

variable (event : Event) (name : String)

/-- The kind of an event's context supplies what the event's trigger promises. -/
theorem capabilities_contextKind : event.contextKind.capabilities = event.trigger.targeters := by
  cases event with
  -- A click is one on a block only if it says so and has the block.
  | interact player click hand block => cases click <;> cases block <;> rfl
  | interactEntity player entity isRight => cases isRight <;> rfl
  | _ => rfl

theorem entity?_contextKind : event.contextKind.entity? = event.other? := by
  cases event with
  | interact player click hand block => cases click <;> cases block <;> rfl
  | _ => rfl

/-- A block that the kind of the context has is the event's own. -/
theorem block?_of_contextKind {block : Block} (h : event.contextKind.block? = some block) :
    event.block? = some block := by
  cases event with
  | interact player click hand own =>
    cases own with
    | none => cases click <;> cases h
    | some own => cases click <;> cases h <;> rfl
  | blockBreak player own => exact h
  | _ => cases h

theorem supplies_context : event.Supplies (event.context name) where
  trigger := rfl
  player := rfl
  capabilities := event.capabilities_contextKind
  playerResolves := ⟨rfl, fun _ => rfl⟩
  entityResolves hpromised := by
    have hsupplied : Targeter.entity ∈ event.contextKind.capabilities :=
      event.capabilities_contextKind ▸ hpromised
    have hliving : ((event.context name).entity? .entity).isSome :=
      Context.entity?_isSome hsupplied (by decide)
    obtain ⟨id, hid⟩ := Option.isSome_iff_exists.1 hliving
    have hkind : event.contextKind.entity? = some id := hid
    refine ⟨id, event.entity?_contextKind ▸ hkind, hid, fun scene => ?_⟩
    show event.contextKind.entity?.map (fun id => (scene.entity id).location) = _
    rw [hkind, Option.map_some]
  blockResolves hpromised := by
    have hsupplied : Targeter.block ∈ event.contextKind.capabilities :=
      event.capabilities_contextKind ▸ hpromised
    have hplace (scene : Scene) : (event.contextKind.block?.map Block.location).isSome :=
      ((event.context name).mem_capabilities_iff .block scene).1 hsupplied
    obtain ⟨block, hblock⟩ := Option.isSome_iff_exists.1
      (Option.isSome_map.symm.trans (hplace (.ofList [] (.new ""))))
    refine ⟨block, event.block?_of_contextKind hblock, fun scene => ?_⟩
    show event.contextKind.block?.map Block.location = _
    rw [hblock, Option.map_some]

end Event

namespace Engine

variable {e : Engine} {event : Event} {name : String} {a : Ability} {s : Simulation}

theorem dispatch_of_missing (hfound : s.cache.set.get? name = none) :
    e.dispatch event name s = (.error (.abilityNotFound name), s) := by
  rw [dispatch, hfound]

/-- Fired by its own trigger, an ability is run: the context of the event passes the check that an
attempt makes of it. -/
theorem dispatch_of_trigger (hfound : s.cache.set.get? name = some a)
    (htrigger : a.trigger = event.trigger) :
    e.dispatch event name s = e.run a (event.context name) s := by
  have hagrees : (event.context name).trigger = a.trigger := htrigger.symm
  rw [dispatch, hfound]
  simp only [tryExecute, if_pos hagrees]
  exact if_pos htrigger

theorem dispatch_of_other_trigger (hfound : s.cache.set.get? name = some a)
    (htrigger : a.trigger ≠ event.trigger) :
    e.dispatch event name s = (.error (.triggerMismatch name a.trigger event.trigger), s) := by
  rw [dispatch, hfound]
  exact if_neg htrigger

/-- Fired by its own trigger, an ability lacks no subject, however strict the engine is. -/
theorem not_lacks_of_trigger (strict : Bool) (htrigger : a.trigger = event.trigger) :
    ¬ Lacks strict a (event.context name).capabilities := by
  rw [(event.supplies_context name).capabilities, ← htrigger]
  rintro (hnone | ⟨-, t, hpromised, hmissing⟩)
  · exact hnone .player a.trigger.player_mem_targeters a.trigger.player_mem_targeters
  · exact hmissing hpromised

/-- The refusals of a dispatch: nothing is found, what is found has another trigger, or it has the
event's and is refused for a reference to what this does not promise, or for a false condition. -/
inductive RefusedDispatch (e : Engine) (event : Event) (name : String) (s : Simulation) :
    Refusal → Simulation → Prop
  | notFound (found : s.cache.set.get? name = none) :
      RefusedDispatch e event name s (.abilityNotFound name) s
  | otherTrigger {a : Ability} (found : s.cache.set.get? name = some a)
      (differs : a.trigger ≠ event.trigger) :
      RefusedDispatch e event name s (.triggerMismatch name a.trigger event.trigger) s
  | unsupported {a : Ability} {unsupported : Capabilities}
      (found : s.cache.set.get? name = some a) (agrees : a.trigger = event.trigger)
      (strict : e.strict = true) :
      RefusedDispatch e event name s (.unsupportedTargeter a.name a.trigger unsupported) s
  | conditionFailed {a : Ability} {before call s'} (found : s.cache.set.get? name = some a)
      (agrees : a.trigger = event.trigger)
      (first : FirstFalse e.scheduler.callerThread (event.context name) a.conditions before call
        s s') :
      RefusedDispatch e event name s (.conditionFailed a.name call.condition.name) s'

theorem refused_of_dispatch {refusal : Refusal} {s' : Simulation}
    (h : e.dispatch event name s = (.error refusal, s')) :
    RefusedDispatch e event name s refusal s' := by
  cases hfound : s.cache.set.get? name with
  | none =>
    rw [dispatch_of_missing hfound] at h
    cases h
    exact .notFound hfound
  | some a =>
    by_cases htrigger : a.trigger = event.trigger
    · have hagrees : (event.context name).trigger = a.trigger := htrigger.symm
      have hattempt : e.tryExecute a (event.context name) s = (.error refusal, s') := by
        rw [tryExecute, if_pos hagrees, ← dispatch_of_trigger hfound htrigger, h]
      cases (tryExecute_eq_iff e a (event.context name) s _ s').1 hattempt with
      | triggerMismatch differs => exact absurd hagrees differs
      | missingCapability _ lacks => exact absurd lacks (not_lacks_of_trigger e.strict htrigger)
      | unsupportedTargeter _ _ strays => exact .unsupported hfound htrigger strays.1
      | conditionFailed _ _ _ first => exact .conditionFailed hfound htrigger first
    · rw [dispatch_of_other_trigger hfound htrigger] at h
      cases h
      exact .otherTrigger hfound htrigger

end Engine

/-- Every event comes with the subjects that its trigger promises. So no dispatch is refused for
want of a subject; one is refused for its trigger just if the ability in force has another, and then
by the first comparison, since an ability with that trigger is run; and a lenient engine refuses
such an ability for the first of its conditions that is false, and for nothing else. -/
theorem events_bring_their_subjects (event : Event) (name : String) :
    event.Supplies (event.context name) ∧
    ∀ (e : Engine) (s : Simulation),
      (∀ ability trigger missing,
        (e.dispatch event name s).1 ≠ .error (.missingCapability ability trigger missing)) ∧
      (∀ ability expected actual s',
        e.dispatch event name s = (.error (.triggerMismatch ability expected actual), s') ↔
          ∃ a, s.cache.set.get? name = some a ∧ a.trigger ≠ event.trigger ∧
            ability = name ∧ expected = a.trigger ∧ actual = event.trigger ∧ s' = s) ∧
      ∀ a, s.cache.set.get? name = some a → a.trigger = event.trigger →
        e.dispatch event name s = e.run a (event.context name) s ∧
        (e.strict = false → ∀ refusal s', e.dispatch event name s = (.error refusal, s') →
          ∃ before call, refusal = .conditionFailed a.name call.condition.name ∧
            Engine.FirstFalse e.scheduler.callerThread (event.context name) a.conditions before call
              s s') := by
  refine ⟨event.supplies_context name, fun e s => ⟨?_, ?_, fun a hfound htrigger => ⟨?_, ?_⟩⟩⟩
  · intro ability trigger missing h
    cases Engine.refused_of_dispatch (Prod.ext h rfl)
  · intro ability expected actual s'
    constructor
    · intro h
      cases Engine.refused_of_dispatch h with
      | otherTrigger found differs => exact ⟨_, found, differs, rfl, rfl, rfl, rfl⟩
    · rintro ⟨a, hfound, htrigger, rfl, rfl, rfl, rfl⟩
      exact Engine.dispatch_of_other_trigger hfound htrigger
  · exact Engine.dispatch_of_trigger hfound htrigger
  · intro hlenient refusal s' h
    cases Engine.refused_of_dispatch h with
    | notFound missing =>
      rw [hfound] at missing
      cases missing
    | otherTrigger found differs =>
      obtain rfl := Option.some.inj (hfound.symm.trans found)
      exact absurd htrigger differs
    | unsupported _ _ strict => exact absurd (strict.symm.trans hlenient) (by decide)
    | conditionFailed found _ first =>
      obtain rfl := Option.some.inj (hfound.symm.trans found)
      exact ⟨_, _, rfl, first⟩

def douse : Ability where
  name := "douse"
  trigger := .rightClick
  keywords := [⟨Builtin.kindle, ⟨[.targeter .player, .whole .integer ⟨0, by decide⟩]⟩⟩]
  conditions := [⟨Builtin.isBurning, ⟨[.targeter .player]⟩⟩]
  timer := none

/-- A click on a block that is not there counts as one in the air, and a player who does not burn is
not put out. -/
theorem events_bring_their_subjects_douse :
    let event : Event := .interact 0 .rightBlock .main none
    let e : Engine := ⟨false, .inline⟩
    let s : Simulation := { Simulation.new (.ofList [.player "Alex" .origin] (.new "")) with
      cache := ⟨.ofAbilities [douse], 1⟩ }
    s.cache.set.get? "douse" = some douse ∧ douse.trigger = event.trigger ∧
    event.Supplies (event.context "douse") ∧
    (e.dispatch event "douse" s).1 = .error (.conditionFailed "douse" "isburning") ∧
    ∃ before call, Refusal.conditionFailed "douse" "isburning" =
        .conditionFailed "douse" call.condition.name ∧
      Engine.FirstFalse .caller (event.context "douse") douse.conditions before call s
        (e.dispatch event "douse" s).2 := by
  intro event e s
  have hfound : s.cache.set.get? "douse" = some douse := rfl
  have htrigger : douse.trigger = event.trigger := rfl
  have hrefused : (e.dispatch event "douse" s).1 = .error (.conditionFailed "douse" "isburning") :=
    rfl
  obtain ⟨hsupplies, hdispatch⟩ := events_bring_their_subjects event "douse"
  obtain ⟨-, -, hbound⟩ := hdispatch e s
  exact ⟨hfound, htrigger, hsupplies, hrefused,
    (hbound douse hfound htrigger).2 rfl _ _ (Prod.ext hrefused rfl)⟩

end AbilityScript
