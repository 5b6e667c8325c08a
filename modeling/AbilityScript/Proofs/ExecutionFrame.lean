import AbilityScript.Proofs.Builtin.Deeds

/-!
The frame of an execution. An ability of built-in functions changes no entity but those that its
keywords refer to, and of these only what it may: inboxes and the lightning that has struck grow at
the end, and whoever an entity is, where it is and how much health it may have stays.
-/
namespace AbilityScript

structure Entity.Grows (e e' : Entity) : Prop where
  kind : e'.kind = e.kind
  location : e'.location = e.location
  maxHealth : e'.maxHealth = e.maxHealth
  inbox : e.inbox <+: e'.inbox
  mob : e.isPlayer = false → e'.inbox = e.inbox

namespace Entity.Grows

variable {e e' e'' : Entity}

theorem refl (e : Entity) : e.Grows e :=
  ⟨rfl, rfl, rfl, List.prefix_refl _, fun _ => rfl⟩

theorem trans (h : e.Grows e') (h' : e'.Grows e'') : e.Grows e'' where
  kind := h'.kind.trans h.kind
  location := h'.location.trans h.location
  maxHealth := h'.maxHealth.trans h.maxHealth
  inbox := h.inbox.trans h'.inbox
  mob hmob := by
    have hmob' : e'.isPlayer = false := by
      rw [isPlayer, h.kind]
      exact hmob
    exact (h'.mob hmob').trans (h.mob hmob)

theorem sendMessage (text : String) (e : Entity) : e.Grows (e.sendMessage text) := by
  unfold Entity.sendMessage
  split
  case isTrue hplayer =>
    refine ⟨rfl, rfl, rfl, List.prefix_append _ _, ?_⟩
    intro hmob
    rw [hplayer] at hmob
    cases hmob
  case isFalse => exact .refl e

end Entity.Grows

/-- From one scene to the other only the entities that may change did, and these as entities may;
the lightning that has struck grew at the end, and the clock stood still. -/
structure Scene.Framed (may : EntityId → Prop) (before after : Scene) : Prop where
  untouched : ∀ id, ¬ may id → after.entity id = before.entity id
  grows : ∀ id, (before.entity id).Grows (after.entity id)
  name : after.world.name = before.world.name
  fullTime : after.world.fullTime = before.world.fullTime
  strikes : before.world.strikes <+: after.world.strikes

namespace Scene.Framed

variable {may may' : EntityId → Prop} {scene scene' scene'' : Scene}

theorem refl (may : EntityId → Prop) (scene : Scene) : Framed may scene scene :=
  ⟨fun _ _ => rfl, fun _ => .refl _, rfl, rfl, List.prefix_refl _⟩

theorem trans (h : Framed may scene scene') (h' : Framed may scene' scene'') :
    Framed may scene scene'' where
  untouched id hid := (h'.untouched id hid).trans (h.untouched id hid)
  grows id := (h.grows id).trans (h'.grows id)
  name := h'.name.trans h.name
  fullTime := h'.fullTime.trans h.fullTime
  strikes := h.strikes.trans h'.strikes

theorem mono (h : Framed may scene scene') (hmay : ∀ id, may id → may' id) :
    Framed may' scene scene' where
  untouched id hid := h.untouched id fun hmayid => hid (hmay id hmayid)
  grows := h.grows
  name := h.name
  fullTime := h.fullTime
  strikes := h.strikes

theorem modifyEntity (scene : Scene) {id : EntityId} {f : Entity → Entity} (hid : may id)
    (hf : ∀ e : Entity, e.Grows (f e)) : Framed may scene (scene.modifyEntity id f) := by
  refine ⟨?_, ?_, rfl, rfl, List.prefix_refl _⟩
  · intro other hother
    have hne : other ≠ id := fun heq => hother (heq ▸ hid)
    rw [Scene.entity_modifyEntity, if_neg hne]
  · intro other
    rw [Scene.entity_modifyEntity]
    split
    · exact hf _
    · exact .refl _

theorem strike (may : EntityId → Prop) (scene : Scene) (location : Location) :
    Framed may scene (scene.modifyWorld (World.strike location)) :=
  ⟨fun _ _ => rfl, fun _ => .refl _, rfl, rfl, List.prefix_append _ _⟩

end Scene.Framed

namespace Builtin

variable {context : Context} {scene scene' : Scene} {k : Keyword Ability} {values : List Value}

/-- The operation of a keyword changes no entity but the one that its targeter names. -/
theorem Performs.framed (h : Performs context scene k values scene') :
    Scene.Framed (fun id => ∃ t, .targeter t ∈ values ∧ context.entity? t = some id) scene
      scene' := by
  have hother {e e' : Entity} (hkind : e'.kind = e.kind) (hlocation : e'.location = e.location)
      (hmax : e'.maxHealth = e.maxHealth) (hinbox : e'.inbox = e.inbox) : e.Grows e' :=
    ⟨hkind, hlocation, hmax, hinbox ▸ List.prefix_refl _, fun _ => hinbox⟩
  cases h with
  | lightning => exact .strike _ scene _
  | message hid =>
    exact .modifyEntity scene ⟨_, List.mem_cons_self, hid⟩ (Entity.Grows.sendMessage _)
  | kindle hid =>
    exact .modifyEntity scene ⟨_, List.mem_cons_self, hid⟩ fun _ => hother rfl rfl rfl rfl
  | effect hid =>
    exact .modifyEntity scene ⟨_, List.mem_cons_self, hid⟩ fun _ => hother rfl rfl rfl rfl
  | damage hid | heal hid | setHealth hid | healPercent hid | damagePercent hid | feed hid =>
    exact .modifyEntity scene ⟨_, List.mem_cons_self, hid⟩ fun _ => hother rfl rfl rfl rfl

end Builtin

open Builtin

namespace Deed

def strike? (d : Deed) : Option Location :=
  match d.act with
  | .task (.call c context) =>
    if c.keyword.name = lightning.name then
      (c.arguments.targeter? 0).bind (context.location? d.found)
    else none
  | _ => none

variable {d : Deed}

theorem strike?_eq_none {k : Keyword Ability} {a : Arguments} {context : Context}
    (hact : d.act = .task (.call ⟨k, a⟩ context)) (hname : k.name ≠ lightning.name) :
    d.strike? = none := by
  simp only [strike?, hact, if_neg hname]

/-- Lightning strikes where a deed calls for it, and nowhere else. -/
theorem strikes_eq (h : d.act.OfBuiltin) :
    d.left.world.strikes = d.found.world.strikes ++ d.strike?.toList := by
  cases outcome h with
  | nothing hleft hidle =>
    have hnone : d.strike? = none := by
      unfold strike?
      split
      case h_1 c context hact =>
        split
        case isTrue hname =>
          -- A place for the lightning would be a subject that the call reaches.
          cases hplace : (c.arguments.targeter? 0).bind (context.location? d.found) with
          | none => rfl
          | some location =>
            obtain ⟨t, ht, hlocation⟩ := Option.bind_eq_some_iff.1 hplace
            refine absurd ⟨t, ht, ?_⟩ (hidle c context hact)
            rw [if_pos hname, hlocation]
            rfl
        case isFalse => rfl
      case h_2 => rfl
    rw [hleft, hnone, Option.toList_none, List.append_nil]
  | @performed c context hact hsound hperforms =>
    obtain ⟨k, ⟨values⟩⟩ := c
    generalize d.left = after at hperforms ⊢
    dsimp only at hperforms
    cases hperforms with
    | @lightning t location hlocation =>
      have hstrike : d.strike? = some location := by
        simp only [strike?, hact, if_true]
        exact hlocation
      rw [hstrike]
      rfl
    | _ =>
      rw [strike?_eq_none hact (by decide)]
      exact (List.append_nil _).symm

end Deed

namespace Ability

def KeywordsReferTo (a : Ability) (t : Targeter) : Prop :=
  ∃ c ∈ a.keywords, .targeter t ∈ c.arguments.values

/-- The entities that the ability may change in a context: the player and the entity of the context,
each if the keywords refer to it. -/
inductive MayChange (a : Ability) (context : Context) : EntityId → Prop
  | player (referred : a.KeywordsReferTo .player) : MayChange a context context.player
  | entity {id} (referred : a.KeywordsReferTo .entity) (present : context.kind.entity? = some id) :
      MayChange a context id

theorem mayChange_of_referred {a : Ability} {context : Context} {t : Targeter} {id : EntityId}
    (h : a.KeywordsReferTo t) (hid : context.entity? t = some id) : a.MayChange context id := by
  cases t with
  | player =>
    obtain rfl : context.player = id := Option.some.inj hid
    exact .player h
  | entity => exact .entity h hid
  | block => cases hid

end Ability

structure Deed.KeepsFrame (d : Deed) (a : Ability) (context : Context) : Prop where
  framed : Scene.Framed (a.MayChange context) d.found d.left
  strikes : d.left.world.strikes = d.found.world.strikes ++ d.strike?.toList
  reloads : d.reloads = []

/-- Every deed of a compiled ability, in whatever scene, keeps to its frame. -/
theorem Deed.keepsFrame {a : Ability} (h : Registry.withBuiltins.registry.Produces a)
    {context : Context} {d : Deed} (hmakes : a.Makes context d.act) : d.KeepsFrame a context := by
  have hbuiltin := Act.ofBuiltin_of_makes h hmakes
  refine ⟨?_, strikes_eq hbuiltin, reloads_eq_nil hbuiltin⟩
  cases outcome hbuiltin with
  | nothing hleft _ => exact hleft ▸ .refl _ _
  | @performed c context' hact hsound hperforms =>
    generalize d.act = act at hact hmakes
    cases hmakes with
    | test => cases hact
    | call hlisted =>
      cases hact
      refine hperforms.framed.mono ?_
      rintro id ⟨t, ht, hid⟩
      exact Ability.mayChange_of_referred ⟨c, hlisted, ht⟩ hid

namespace Simulation

/-- Between two states with deeds of the ability alone, the frame of the ability is kept. -/
theorem Course.framed {a : Ability} {context : Context} {deeds : List Deed} {s s' : Simulation}
    (h : Course deeds s s') (hkeeps : ∀ d ∈ deeds, d.KeepsFrame a context) :
    Scene.Framed (a.MayChange context) s.scene s'.scene ∧
      s'.scene.world.strikes = s.scene.world.strikes ++ deeds.filterMap Deed.strike? ∧
      s'.cache = s.cache := by
  refine ⟨?_, ?_, ?_⟩
  · have hall := h.scene.invariant (P := fun scene => Scene.Framed (a.MayChange context) s.scene scene)
      (fun d hd hframed => hframed.trans (hkeeps d hd).framed) (.refl _ _)
    exact hall.1
  · have hscene := h.scene
    generalize s.scene = scene at hscene
    generalize s'.scene = scene' at hscene
    clear h
    -- Each deed adds its own strike to those that it found.
    induction hscene with
    | nil scene => exact (List.append_nil _).symm
    | @cons d deeds scene scene' found _ ih =>
      obtain ⟨hnow, hlater⟩ := List.forall_mem_cons.1 hkeeps
      rw [ih hlater, hnow.strikes, found, List.append_assoc]
      cases hstrike : d.strike? with
      | none => rw [List.filterMap_cons_none hstrike]; rfl
      | some location => rw [List.filterMap_cons_some hstrike]; rfl
  · have hnone : deeds.flatMap Deed.reloads = [] :=
      List.flatMap_eq_nil_iff.2 fun d hd => (hkeeps d hd).reloads
    rw [h.cache, hnone]
    rfl

end Simulation

/-- An execution of a compiled ability with built-in functions, whatever the scheduler and the state,
consists of deeds of the ability, which all keep to its frame wherever and whenever they are done,
and of work that had waited. Where none had waited, the whole execution keeps to the frame, with the
work that it puts off or without. -/
theorem execution_keeps_frame (e : Engine) (a : Ability)
    (hproduced : Registry.withBuiltins.registry.Produces a) (context : Context) (s : Simulation) :
    let s' := (e.run a context s).2
    (∀ d : Deed, a.Makes context d.act → d.KeepsFrame a context) ∧
    (∃ deeds, Simulation.Course deeds s s' ∧
      ∀ d ∈ deeds, a.Makes context d.act ∨ ∃ task ∈ s.pending, d.act = .task task) ∧
    (∀ task ∈ s'.pending, a.Makes context (.task task) ∨ task ∈ s.pending) ∧
    (s.pending = [] → ∀ s'' ∈ [s', s'.flush e.scheduler],
      Scene.Framed (a.MayChange context) s.scene s''.scene ∧ s''.cache = s.cache ∧
      ∃ deeds, Simulation.Course deeds s s'' ∧ (∀ d ∈ deeds, a.Makes context d.act) ∧
        s''.scene.world.strikes = s.scene.world.strikes ++ deeds.filterMap Deed.strike?) := by
  intro s'
  have hkeeps : ∀ d : Deed, a.Makes context d.act → d.KeepsFrame a context := fun d hmakes =>
    Deed.keepsFrame hproduced hmakes
  obtain ⟨deeds, hcourse, hdone, hleft⟩ := Engine.course_run e a context s
  refine ⟨hkeeps, ⟨deeds, hcourse, hdone⟩, hleft, ?_⟩
  intro hnone
  -- Where nothing waited, all that is done and all that is put off is the ability's own.
  have hmade : ∀ d ∈ deeds, a.Makes context d.act := by
    intro d hd
    rcases hdone d hd with hmakes | ⟨task, htask, -⟩
    · exact hmakes
    · rw [hnone] at htask
      cases htask
  have hpending : ∀ task ∈ s'.pending, a.Makes context (.task task) := by
    intro task htask
    rcases hleft task htask with hmakes | hwaited
    · exact hmakes
    · rw [hnone] at hwaited
      cases hwaited
  obtain ⟨later, hlater, hacts⟩ := Simulation.course_flush e.scheduler s'
  have hmade' : ∀ d ∈ deeds ++ later, a.Makes context d.act := by
    intro d hd
    rcases List.mem_append.1 hd with hnow | hput
    · exact hmade d hnow
    · have hact : d.act ∈ s'.pending.map Act.task := hacts ▸ List.mem_map_of_mem hput
      obtain ⟨task, htask, heq⟩ := List.mem_map.1 hact
      exact heq ▸ hpending task htask
  have hall {deeds : List Deed} {s'' : Simulation} (hcourse : Simulation.Course deeds s s'')
      (hmade : ∀ d ∈ deeds, a.Makes context d.act) :
      Scene.Framed (a.MayChange context) s.scene s''.scene ∧ s''.cache = s.cache ∧
      ∃ deeds, Simulation.Course deeds s s'' ∧ (∀ d ∈ deeds, a.Makes context d.act) ∧
        s''.scene.world.strikes = s.scene.world.strikes ++ deeds.filterMap Deed.strike? := by
    obtain ⟨hframed, hstrikes, hcache⟩ := hcourse.framed fun d hd => hkeeps d (hmade d hd)
    exact ⟨hframed, hcache, deeds, hcourse, hmade, hstrikes⟩
  intro s'' hs''
  rcases List.mem_cons.1 hs'' with rfl | hflush
  · exact hall hcourse hmade
  · obtain rfl := List.mem_singleton.1 hflush
    exact hall (hcourse.append hlater) hmade'

def quarry : Ability where
  name := "quarry"
  trigger := .blockBreak
  keywords := Compile.calls
    (["message(?player, Boom)", "lightning(?block)", "kindle(?player, 40)"].map
      (Compile.keywordLine Registry.withBuiltins.registry))
  conditions := Compile.calls
    (["istime(day)"].map (Compile.conditionLine Registry.withBuiltins.registry))
  timer := none

/-- A block is broken where the scheduler lets the message wait to the end, and a mob looks on. -/
theorem execution_keeps_frame_quarry :
    let sched : Scheduler := { Scheduler.inline with picks := fun _ => [] }
    let block : Block := ⟨"stone", ⟨8, 64, 8⟩⟩
    let s := Simulation.new (.ofList [.player "Alex" .origin, .mob "zombie" 20 .origin] (.new ""))
    let s' := (Engine.run ⟨true, sched⟩ quarry ⟨"quarry", .blockBreak, 0, .block block⟩ s).2
    Registry.withBuiltins.registry.Produces quarry ∧ s.pending = [] ∧
    (s'.flush sched).scene.world.strikes = [block.location] ∧
    (s'.flush sched).scene.entity 0 =
      { s.scene.entity 0 with fireTicks := 40, inbox := ["Boom"] } ∧
    (s'.flush sched).scene.entity 1 = s.scene.entity 1 ∧
    (s'.flush sched).cache = s.cache := by
  intro sched block s s'
  have hproduced : Registry.withBuiltins.registry.Produces quarry :=
    .inr ⟨"quarry", ⟨"block-break", ["message(?player, Boom)", "lightning(?block)",
        "kindle(?player, 40)"], ["istime(day)"], none⟩, _,
      (Registry.compile_eq_ok_iff _ _ _ _).2 ⟨.blockBreak, none, by decide, rfl, rfl⟩, rfl⟩
  obtain ⟨-, -, -, hframe⟩ := execution_keeps_frame ⟨true, sched⟩ quarry hproduced
    ⟨"quarry", .blockBreak, 0, .block block⟩ s
  obtain ⟨hframed, hcache, -⟩ := hframe rfl (s'.flush sched)
    (List.mem_cons_of_mem _ List.mem_cons_self)
  refine ⟨hproduced, rfl, by decide +kernel, by decide +kernel, hframed.untouched 1 ?_, hcache⟩
  rintro ⟨⟩
  case entity present => cases present

end AbilityScript
