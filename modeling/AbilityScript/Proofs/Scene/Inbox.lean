import AbilityScript.Ability

namespace AbilityScript

namespace Entity

def withoutInbox (e : Entity) : Entity :=
  { e with inbox := [] }

structure SameUpToInboxOrder (e e' : Entity) : Prop where
  fields : e.withoutInbox = e'.withoutInbox
  inbox : e.inbox.Perm e'.inbox

theorem withoutInbox_sendMessage (text : String) (e : Entity) :
    (e.sendMessage text).withoutInbox = e.withoutInbox := by
  unfold sendMessage
  split <;> rfl

theorem isPlayer_sendMessage (text : String) (e : Entity) :
    (e.sendMessage text).isPlayer = e.isPlayer := by
  unfold sendMessage
  split <;> rfl

theorem inbox_sendMessage (text : String) (e : Entity) :
    (e.sendMessage text).inbox = if e.isPlayer then e.inbox ++ [text] else e.inbox := by
  unfold sendMessage
  split <;> rfl

namespace SameUpToInboxOrder

variable {e e' e'' : Entity}

theorem refl (e : Entity) : e.SameUpToInboxOrder e :=
  ⟨rfl, .refl _⟩

theorem symm (h : e.SameUpToInboxOrder e') : e'.SameUpToInboxOrder e :=
  ⟨h.fields.symm, h.inbox.symm⟩

theorem trans (h : e.SameUpToInboxOrder e') (h' : e'.SameUpToInboxOrder e'') :
    e.SameUpToInboxOrder e'' :=
  ⟨h.fields.trans h'.fields, h.inbox.trans h'.inbox⟩

theorem isPlayer_eq (h : e.SameUpToInboxOrder e') : e.isPlayer = e'.isPlayer := by
  show e.withoutInbox.isPlayer = e'.withoutInbox.isPlayer
  rw [h.fields]

theorem sendMessage (h : e.SameUpToInboxOrder e') (text : String) :
    (e.sendMessage text).SameUpToInboxOrder (e'.sendMessage text) := by
  refine ⟨?_, ?_⟩
  · rw [withoutInbox_sendMessage, withoutInbox_sendMessage]
    exact h.fields
  · rw [inbox_sendMessage, inbox_sendMessage, h.isPlayer_eq]
    split
    · exact h.inbox.append_right [text]
    · exact h.inbox

end SameUpToInboxOrder

/-- The order of two deliveries to one entity shows in its inbox alone. -/
theorem sendMessage_comm (first second : String) (e : Entity) :
    ((e.sendMessage first).sendMessage second).SameUpToInboxOrder
      ((e.sendMessage second).sendMessage first) := by
  refine ⟨?_, ?_⟩
  · simp only [withoutInbox_sendMessage]
  · simp only [inbox_sendMessage, isPlayer_sendMessage]
    split
    · rw [List.append_assoc, List.append_assoc]
      have hswap : ([first] ++ [second]).Perm ([second] ++ [first]) := List.perm_append_comm
      exact hswap.append_left e.inbox
    · exact .refl _

end Entity

namespace EntityChange

def IsDelivery (change : EntityChange) : Prop :=
  ∃ text, change = .sendMessage text

variable {change : EntityChange} {e e' : Entity}

/-- What a change makes of the other fields does not depend on the inbox. -/
theorem withoutInbox_apply (change : EntityChange) (e : Entity) :
    (change.apply e).withoutInbox = (change.apply e.withoutInbox).withoutInbox := by
  cases change with
  | sendMessage text =>
    show (e.sendMessage text).withoutInbox = (e.withoutInbox.sendMessage text).withoutInbox
    rw [Entity.withoutInbox_sendMessage, Entity.withoutInbox_sendMessage]
    rfl
  | _ => rfl

theorem inbox_apply (h : ¬ change.IsDelivery) (e : Entity) : (change.apply e).inbox = e.inbox := by
  cases change with
  | sendMessage text => exact absurd ⟨text, rfl⟩ h
  | _ => rfl

/-- A change that is no delivery may come before a delivery or after it. -/
theorem apply_sendMessage (h : ¬ change.IsDelivery) (text : String) (e : Entity) :
    change.apply (e.sendMessage text) = (change.apply e).sendMessage text := by
  unfold Entity.sendMessage
  by_cases he : e.isPlayer = true
  -- Who an entity is does not change, so the message is delivered in both orders or in neither.
  · have hafter : (change.apply e).isPlayer = true := by
      cases change with
      | sendMessage other => exact absurd ⟨other, rfl⟩ h
      | _ => exact he
    rw [if_pos he, if_pos hafter]
    cases change with
    | sendMessage other => exact absurd ⟨other, rfl⟩ h
    | _ => rfl
  · have hafter : ¬ (change.apply e).isPlayer = true := by
      cases change with
      | sendMessage other => exact absurd ⟨other, rfl⟩ h
      | _ => exact he
    rw [if_neg he, if_neg hafter]

/-- A change carries likeness up to the order of inboxes on. -/
theorem apply_sameUpToInboxOrder (change : EntityChange) (h : e.SameUpToInboxOrder e') :
    (change.apply e).SameUpToInboxOrder (change.apply e') := by
  by_cases hdelivery : change.IsDelivery
  · obtain ⟨text, rfl⟩ := hdelivery
    exact h.sendMessage text
  · refine ⟨?_, ?_⟩
    · rw [withoutInbox_apply change e, withoutInbox_apply change e', h.fields]
    · rw [inbox_apply hdelivery, inbox_apply hdelivery]
      exact h.inbox

end EntityChange

namespace Scene

def withoutInboxes (s : Scene) : Scene :=
  { s with entity := fun id => (s.entity id).withoutInbox }

structure SameUpToInboxOrder (s s' : Scene) : Prop where
  world : s.world = s'.world
  entity : ∀ id, (s.entity id).SameUpToInboxOrder (s'.entity id)

def deliver (id : EntityId) (text : String) (s : Scene) : Scene :=
  s.modifyEntity id (Entity.sendMessage text)

theorem ext_of_entity {s s' : Scene} (hworld : s.world = s'.world)
    (hentity : ∀ id, s.entity id = s'.entity id) : s = s' := by
  cases s
  cases s'
  simp only [mk.injEq]
  exact ⟨funext hentity, hworld⟩

theorem withoutInboxes_deliver (id : EntityId) (text : String) (s : Scene) :
    (s.deliver id text).withoutInboxes = s.withoutInboxes := by
  refine ext_of_entity rfl fun other => ?_
  show (if other = id then (s.entity other).sendMessage text else s.entity other).withoutInbox =
    (s.entity other).withoutInbox
  split
  · exact Entity.withoutInbox_sendMessage text _
  · rfl

namespace SameUpToInboxOrder

variable {s s' s'' : Scene}

theorem refl (s : Scene) : s.SameUpToInboxOrder s :=
  ⟨rfl, fun _ => .refl _⟩

theorem symm (h : s.SameUpToInboxOrder s') : s'.SameUpToInboxOrder s :=
  ⟨h.world.symm, fun id => (h.entity id).symm⟩

theorem trans (h : s.SameUpToInboxOrder s') (h' : s'.SameUpToInboxOrder s'') :
    s.SameUpToInboxOrder s'' :=
  ⟨h.world.trans h'.world, fun id => (h.entity id).trans (h'.entity id)⟩

theorem withoutInboxes_eq (h : s.SameUpToInboxOrder s') : s.withoutInboxes = s'.withoutInboxes :=
  ext_of_entity h.world fun id => (h.entity id).fields

end SameUpToInboxOrder

/-- Two deliveries may change places up to the order within an inbox. -/
theorem deliver_comm (i j : EntityId) (first second : String) (s : Scene) :
    ((s.deliver i first).deliver j second).SameUpToInboxOrder
      ((s.deliver j second).deliver i first) := by
  refine ⟨rfl, fun id => ?_⟩
  simp only [deliver, entity_modifyEntity]
  -- Only where both go to one entity is there an order to speak of.
  by_cases hi : id = i
  · by_cases hj : id = j
    · simp only [if_pos hi, if_pos hj]
      exact Entity.sendMessage_comm first second _
    · simp only [if_pos hi, if_neg hj]
      exact .refl _
  · simp only [if_neg hi]
    exact .refl _

end Scene

namespace Effect

variable {α : Type}

def onScene : Effect α → Scene → Scene
  | onEntity id change, s => s.modifyEntity id change.apply
  | onWorld change, s => s.modifyWorld change.apply
  | notice _, s => s
  | reload _, s => s

inductive IsQuiet : Effect α → Prop
  | onEntity {id change} (h : ¬ change.IsDelivery) : IsQuiet (.onEntity id change)
  | onWorld {change} : IsQuiet (.onWorld change)
  | notice {n} : IsQuiet (.notice n)

/-- A quiet effect may come before a delivery or after it. -/
theorem onScene_deliver {effect : Effect α} (h : effect.IsQuiet) (id : EntityId) (text : String)
    (s : Scene) : effect.onScene (s.deliver id text) = (effect.onScene s).deliver id text := by
  cases h with
  | @onEntity other change hchange =>
    refine Scene.ext_of_entity rfl fun it => ?_
    simp only [onScene, Scene.deliver, Scene.entity_modifyEntity]
    by_cases hother : it = other
    · by_cases hid : it = id
      · simp only [if_pos hother, if_pos hid]
        exact change.apply_sendMessage hchange text _
      · simp only [if_pos hother, if_neg hid]
    · simp only [if_neg hother]
  | onWorld => rfl
  | notice => rfl

/-- An effect carries likeness up to the order of inboxes on. -/
theorem onScene_sameUpToInboxOrder (effect : Effect α) {s s' : Scene}
    (h : s.SameUpToInboxOrder s') : (effect.onScene s).SameUpToInboxOrder (effect.onScene s') := by
  cases effect with
  | onEntity id change =>
    refine ⟨h.world, fun it => ?_⟩
    simp only [onScene, Scene.entity_modifyEntity]
    split
    · exact change.apply_sameUpToInboxOrder (h.entity it)
    · exact h.entity it
  | onWorld change => exact ⟨congrArg change.apply h.world, h.entity⟩
  | notice n => exact h
  | reload abilities => exact h

def inTurn (effects : List (Effect α)) (s : Scene) : Scene :=
  effects.foldl (fun s effect => effect.onScene s) s

theorem inTurn_of_notices {effects : List (Effect α)}
    (h : ∀ effect ∈ effects, ∃ n, effect = .notice n) (s : Scene) : inTurn effects s = s := by
  induction effects with
  | nil => rfl
  | cons effect effects ih =>
    obtain ⟨n, rfl⟩ := h effect List.mem_cons_self
    exact ih fun other hother => h other (List.mem_cons_of_mem _ hother)

theorem inTurn_deliver {effects : List (Effect α)} (h : ∀ effect ∈ effects, effect.IsQuiet)
    (id : EntityId) (text : String) (s : Scene) :
    inTurn effects (s.deliver id text) = (inTurn effects s).deliver id text := by
  induction effects generalizing s with
  | nil => rfl
  | cons effect effects ih =>
    have hlater : ∀ other ∈ effects, other.IsQuiet := fun other hother =>
      h other (List.mem_cons_of_mem _ hother)
    show inTurn effects (effect.onScene (s.deliver id text)) =
      (inTurn effects (effect.onScene s)).deliver id text
    rw [onScene_deliver (h effect List.mem_cons_self), ih hlater]

theorem inTurn_sameUpToInboxOrder (effects : List (Effect α)) {s s' : Scene}
    (h : s.SameUpToInboxOrder s') : (inTurn effects s).SameUpToInboxOrder (inTurn effects s') := by
  induction effects generalizing s s' with
  | nil => exact h
  | cons effect effects ih => exact ih (effect.onScene_sameUpToInboxOrder h)

end Effect

end AbilityScript
