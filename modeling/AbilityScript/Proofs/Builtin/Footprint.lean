import AbilityScript.Builtin.Conditions
import AbilityScript.Proofs.Scene.Inbox

namespace AbilityScript.Builtin

variable {context : Context} {a : Arguments} {scene : Scene}

section Makes

structure ChangesSubject (k : Keyword Ability)
    (change : Arguments → Entity → Option EntityChange) : Prop where
  name : k.name ≠ lightning.name
  body : ∃ label others, k.body = (onTarget label others change).body
  reads : ∀ a (e : Entity), change a e.withoutInbox = change a e
  quiet : k.isAsync = false → ∀ a e text, change a e ≠ some (.sendMessage text)

/-- Every built-in keyword but the one for lightning changes its living subject. -/
theorem exists_changesSubject {k : Keyword Ability} (hk : k ∈ keywords) :
    k = lightning ∨ ∃ change, ChangesSubject k change := by
  simp only [keywords, List.mem_cons, List.not_mem_nil, or_false] at hk
  rcases hk with rfl | rfl | rfl | rfl | rfl | rfl | rfl | rfl | rfl | rfl
  · exact .inr ⟨_, by decide, ⟨_, _, rfl⟩, fun _ _ => rfl, by simp⟩
  · exact .inr ⟨_, by decide, ⟨_, _, rfl⟩, fun _ _ => rfl, by simp⟩
  · exact .inr ⟨_, by decide, ⟨_, _, rfl⟩, fun _ _ => rfl, by simp⟩
  -- Hundredths are taken of the maximum health, which is no part of an inbox either.
  · exact .inr ⟨_, by decide, ⟨_, _, rfl⟩, fun _ _ => rfl, by simp⟩
  · exact .inr ⟨_, by decide, ⟨_, _, rfl⟩, fun _ _ => rfl, by simp⟩
  · exact .inr ⟨_, by decide, ⟨_, _, rfl⟩, fun _ _ => rfl, by simp [Option.bind_eq_some_iff]⟩
  -- Food has its own schemas and a message its own thread; their bodies are of the same make.
  · exact .inr ⟨_, by decide, ⟨_, _, by dsimp only [feed]⟩, fun _ _ => rfl,
      by simp [Option.bind_eq_some_iff]⟩
  · exact .inr ⟨_, by decide, ⟨_, _, rfl⟩, fun _ _ => rfl, by simp [Option.bind_eq_some_iff]⟩
  · exact .inl rfl
  · exact .inr ⟨_, by decide, ⟨_, _, by dsimp only [message]⟩, fun _ _ => rfl, nofun⟩

end Makes

section Reads

theorem body_onTarget_withoutInboxes {name : String} {others : List Schema}
    {change : Arguments → Entity → Option EntityChange}
    (hreads : ∀ e : Entity, change a e.withoutInbox = change a e) :
    (onTarget name others change).body context a scene.withoutInboxes =
      (onTarget name others change).body context a scene := by
  simp only [onTarget]
  split
  · rfl
  case h_2 id notices htarget =>
    show ((change a (scene.entity id).withoutInbox).map (Effect.onEntity id)).toList = _
    rw [hreads]

theorem body_ofTarget_withoutInboxes {name : String} {others : List Schema}
    {holds : Arguments → Entity → Bool} (h : ∀ e : Entity, holds a e.withoutInbox = holds a e) :
    (ofTarget name others holds).body context a scene.withoutInboxes =
      (ofTarget name others holds).body context a scene := by
  simp only [ofTarget]
  split
  · rfl
  case h_2 id notices htarget =>
    show (holds a (scene.entity id).withoutInbox, []) = _
    rw [h]

theorem location?_withoutInboxes (context : Context) (scene : Scene) (t : Targeter) :
    context.location? scene.withoutInboxes t = context.location? scene t := by
  cases t <;> rfl

/-- No built-in keyword reads an inbox. -/
theorem body_withoutInboxes {k : Keyword Ability} (hk : k ∈ keywords) (context : Context)
    (a : Arguments) (scene : Scene) :
    k.body context a scene.withoutInboxes = k.body context a scene := by
  rcases exists_changesSubject hk with rfl | ⟨change, hchanges⟩
  · simp only [lightning, location?_withoutInboxes]
  · obtain ⟨label, others, hbody⟩ := hchanges.body
    rw [hbody]
    exact body_onTarget_withoutInboxes (hchanges.reads a)

/-- No built-in condition reads an inbox. -/
theorem answer_withoutInboxes {k : Condition Ability} (hk : k ∈ conditions) (context : Context)
    (a : Arguments) (scene : Scene) :
    k.body context a scene.withoutInboxes = k.body context a scene := by
  simp only [conditions, List.mem_cons, List.not_mem_nil, or_false] at hk
  rcases hk with rfl | rfl | rfl
  · rfl
  all_goals
    refine body_ofTarget_withoutInboxes ?_
    intro e
    rfl

end Reads

section Writes

/-- A keyword with a living subject changes that subject or leaves notices. -/
theorem effects_onTarget {name : String} {others : List Schema}
    {change : Arguments → Entity → Option EntityChange} {effect : Effect Ability}
    (h : effect ∈ (onTarget name others change).body context a scene) :
    (∃ n, effect = .notice n) ∨
      ∃ id c, change a (scene.entity id) = some c ∧ effect = .onEntity id c := by
  simp only [onTarget] at h
  split at h
  · obtain ⟨n, -, rfl⟩ := List.mem_map.1 h
    exact .inl ⟨n, rfl⟩
  case h_2 id notices htarget =>
    obtain ⟨c, hc, rfl⟩ := Option.map_eq_some_iff.1 (Option.mem_toList.1 h)
    exact .inr ⟨id, c, hc, rfl⟩

theorem isQuiet_onTarget {name : String} {others : List Schema}
    {change : Arguments → Entity → Option EntityChange}
    (hchange : ∀ e text, change a e ≠ some (.sendMessage text)) :
    ∀ effect ∈ (onTarget name others change).body context a scene, effect.IsQuiet := by
  intro effect heffect
  rcases effects_onTarget heffect with ⟨n, rfl⟩ | ⟨id, c, hc, rfl⟩
  · exact .notice
  · refine .onEntity ?_
    rintro ⟨text, rfl⟩
    exact hchange _ text hc

theorem isQuiet_lightning :
    ∀ effect ∈ lightning.body context a scene, effect.IsQuiet := by
  intro effect heffect
  simp only [lightning] at heffect
  split at heffect
  · cases heffect
  · split at heffect
    · obtain rfl := List.mem_singleton.1 heffect
      exact .onWorld
    · obtain rfl := List.mem_singleton.1 heffect
      exact .notice

/-- A synchronous built-in keyword delivers no message and puts no abilities in force. -/
theorem isQuiet_of_sync {k : Keyword Ability} (hk : k ∈ keywords) (hsync : k.isAsync = false)
    (context : Context) (a : Arguments) (scene : Scene) :
    ∀ effect ∈ k.body context a scene, effect.IsQuiet := by
  rcases exists_changesSubject hk with rfl | ⟨change, hchanges⟩
  · exact isQuiet_lightning
  · obtain ⟨label, others, hbody⟩ := hchanges.body
    rw [hbody]
    exact isQuiet_onTarget (hchanges.quiet hsync a)

/-- The one asynchronous built-in keyword is that for messages. -/
theorem eq_message_of_async {k : Keyword Ability} (hk : k ∈ keywords) (hasync : k.isAsync = true) :
    k = message := by
  simp only [keywords, List.mem_cons, List.not_mem_nil, or_false] at hk
  rcases hk with rfl | rfl | rfl | rfl | rfl | rfl | rfl | rfl | rfl | rfl
  all_goals first
    | rfl
    | cases hasync

/-- A message is one delivery, which does not depend on the scene, or no more than notices. -/
theorem body_message (context : Context) (a : Arguments) :
    (∃ id text, ∀ scene, message.body context a scene = [.onEntity id (.sendMessage text)]) ∨
      ∀ scene, ∀ effect ∈ message.body context a scene, ∃ n, effect = .notice n := by
  rcases htarget : target "message" a context with ⟨_ | id, notices⟩
  · refine .inr fun scene effect heffect => ?_
    simp only [message, onTarget, htarget, List.mem_map] at heffect
    obtain ⟨n, -, rfl⟩ := heffect
    exact ⟨n, rfl⟩
  · cases htext : a.string? 1 with
    | none =>
      refine .inr fun scene effect heffect => ?_
      simp [message, onTarget, htarget, htext] at heffect
    | some text =>
      refine .inl ⟨id, text, fun scene => ?_⟩
      simp [message, onTarget, htarget, htext]

/-- No built-in keyword replaces the abilities in force. -/
theorem reload_notMem_body {k : Keyword Ability} (hk : k ∈ keywords) (context : Context)
    (a : Arguments) (scene : Scene) (abilities : List Ability) :
    Effect.reload abilities ∉ k.body context a scene := by
  intro hmem
  by_cases hasync : k.isAsync = true
  · obtain rfl := eq_message_of_async hk hasync
    rcases body_message context a with ⟨id, text, hbody⟩ | hnotices
    · rw [hbody] at hmem
      cases List.mem_singleton.1 hmem
    · obtain ⟨n, hn⟩ := hnotices scene _ hmem
      cases hn
  · cases isQuiet_of_sync hk (Bool.eq_false_iff.2 hasync) context a scene _ hmem

end Writes

end AbilityScript.Builtin
