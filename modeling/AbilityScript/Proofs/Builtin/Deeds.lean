import AbilityScript.Proofs.Builtin.CompiledCalls
import AbilityScript.Proofs.ExecutionCourse

namespace AbilityScript

namespace Builtin

variable {context : Context} {a : Arguments} {scene : Scene}

/-- A keyword that does not find its subject leaves no more than notices. -/
theorem notices_onTarget {k : Keyword Ability} {name : String} {others : List Schema}
    {change : Arguments → Entity → Option EntityChange}
    (hbody : k.body = (onTarget name others change).body) (hname : k.name ≠ lightning.name)
    (h : ¬ Reaches context scene k a) :
    ∀ effect ∈ k.body context a scene, ∃ n, effect = .notice n := by
  intro effect heffect
  simp only [hbody, onTarget] at heffect
  split at heffect
  case h_1 notices htarget =>
    obtain ⟨n, -, rfl⟩ := List.mem_map.1 heffect
    exact ⟨n, rfl⟩
  case h_2 id notices htarget =>
    -- An entity that is found is one that the first argument names.
    refine absurd ?_ h
    unfold target at htarget
    split at htarget
    case h_1 hnone => cases htarget
    case h_2 t ht =>
      refine ⟨t, ht, ?_⟩
      rw [if_neg hname]
      split at htarget
      case h_1 found hfound =>
        rw [hfound]
        rfl
      case h_2 hmissing => cases htarget

theorem notices_lightning (h : ¬ Reaches context scene lightning a) :
    ∀ effect ∈ lightning.body context a scene, ∃ n, effect = .notice n := by
  intro effect heffect
  simp only [lightning] at heffect
  split at heffect
  case h_1 hnone => cases heffect
  case h_2 t ht =>
    split at heffect
    case h_1 location hlocation =>
      refine absurd ⟨t, ht, ?_⟩ h
      rw [if_pos rfl, hlocation]
      rfl
    case h_2 hmissing =>
      obtain rfl := List.mem_singleton.1 heffect
      exact ⟨_, rfl⟩

theorem notices_of_not_reaches {k : Keyword Ability} (hk : k ∈ keywords)
    (h : ¬ Reaches context scene k a) :
    ∀ effect ∈ k.body context a scene, ∃ n, effect = .notice n := by
  rcases exists_changesSubject hk with rfl | ⟨change, hchanges⟩
  · exact notices_lightning h
  · obtain ⟨label, others, hbody⟩ := hchanges.body
    exact notices_onTarget hbody hchanges.name h

end Builtin

open Builtin

namespace Act

inductive OfBuiltin : Act → Prop
  | keyword {c context} (builtin : c.keyword ∈ keywords) (sound : SoundKeyword c) :
      OfBuiltin (.task (.call c context))
  | mark {isAsync tag} : OfBuiltin (.task (.mark isAsync tag))
  | condition {c context} (builtin : c.condition ∈ conditions) : OfBuiltin (.test c context)

/-- All acts of a compiled ability with built-in functions are calls of these. -/
theorem ofBuiltin_of_makes {a : Ability} (h : Registry.withBuiltins.registry.Produces a)
    {context : Context} {act : Act} (hmakes : a.Makes context act) : act.OfBuiltin := by
  have hbuiltins := Ability.ofBuiltins_of_produces h
  cases hmakes with
  | test hlisted => exact .condition (hbuiltins.conditions _ hlisted)
  | call hlisted =>
    have hk := hbuiltins.keywords _ hlisted
    exact .keyword hk (soundKeyword_of_typed hk (h.typed.1 _ hlisted))

end Act

namespace Deed

variable {d : Deed}

inductive Outcome (d : Deed) : Prop
  | performed {c context} (act : d.act = .task (.call c context)) (sound : SoundKeyword c)
      (performs : Performs context d.found c.keyword c.arguments.values d.left)
  | nothing (left : d.left = d.found)
      (idle : ∀ c context, d.act = .task (.call c context) →
        ¬ Reaches context d.found c.keyword c.arguments)

theorem outcome (h : d.act.OfBuiltin) : d.Outcome := by
  obtain ⟨act, thread, found⟩ := d
  cases h with
  | @keyword c context hk hsound =>
    by_cases hreach : Reaches context found c.keyword c.arguments
    -- The operation is what the call makes of a simulation of this scene.
    · obtain ⟨scene, hperforms, hrun⟩ := hsound.performs thread context (Simulation.new found) hreach
      have hleft : Effect.inTurn (c.keyword.body context c.arguments found) found = scene := by
        have hscene := congrArg Simulation.scene hrun
        rwa [Simulation.runKeyword, Simulation.scene_applyEffects] at hscene
      rw [← hleft] at hperforms
      exact .performed rfl hsound hperforms
    · refine .nothing (Effect.inTurn_of_notices (notices_of_not_reaches hk hreach) found) ?_
      intro c' context' hact
      cases hact
      exact hreach
  | mark => exact .nothing rfl (fun c context hact => by cases hact)
  | @condition c context hc =>
    refine .nothing (Effect.inTurn_of_notices (effects_of_conditions hc context _ found) found) ?_
    intro c' context' hact
    cases hact

/-- No built-in function puts other abilities in force. -/
theorem reloads_eq_nil (h : d.act.OfBuiltin) : d.reloads = [] := by
  have hnone : ∀ effect ∈ d.effects, effect.reloaded? = none := by
    obtain ⟨act, thread, found⟩ := d
    intro effect heffect
    cases h with
    | @keyword c context hk hsound =>
      cases effect with
      | reload abilities => exact absurd heffect (reload_notMem_body hk context _ found abilities)
      | _ => rfl
    | mark => cases heffect
    | @condition c context hc =>
      obtain ⟨n, rfl⟩ := effects_of_conditions hc context _ found effect heffect
      rfl
  exact List.filterMap_eq_nil_iff.2 hnone

end Deed

end AbilityScript
