import AbilityScript.Builtin

namespace AbilityScript

open Text

namespace NameMap

variable {α : Type}

theorem find?_eq_some_of_mem {entries : List (String × α)}
    (hsorted : entries.Pairwise fun a b => a.1 < b.1) {entry : String × α}
    (hentry : entry ∈ entries) : entries.find? (fun e => e.1 == entry.1) = some entry := by
  induction entries with
  | nil => cases hentry
  | cons head tail ih =>
    obtain ⟨hhead, htail⟩ := List.pairwise_cons.1 hsorted
    rcases List.mem_cons.1 hentry with rfl | hmem
    · simp
    -- The names increase, so no earlier entry has the name of a later one.
    · have hne : head.1 ≠ entry.1 := fun heq => String.lt_irrefl _ (heq ▸ hhead entry hmem)
      rw [List.find?_cons_of_neg (by simpa using hne)]
      exact ih htail hmem

/-- A name finds an item just when the item is entered under it. -/
theorem get?_eq_some_iff (m : NameMap α) (name : String) (item : α) :
    m.get? name = some item ↔ (name, item) ∈ m.entries := by
  constructor
  · intro h
    obtain ⟨⟨key, value⟩, hfind, rfl⟩ := Option.map_eq_some_iff.1 h
    obtain rfl : key = name := by simpa using List.find?_some hfind
    exact List.mem_of_find?_eq_some hfind
  · intro h
    rw [get?, find?_eq_some_of_mem m.sorted h]
    rfl

theorem mem_items_insert {m : NameMap α} {name : String} {item new : α}
    (h : item ∈ (m.insert name new).items) : item = new ∨ item ∈ m.items := by
  obtain ⟨entry, hentry, rfl⟩ := List.mem_map.1 h
  rcases mem_insertEntry hentry with rfl | hold
  · exact .inl rfl
  · exact .inr (List.mem_map_of_mem hold)

theorem mem_items_of_get? {m : NameMap α} {name : String} {item : α}
    (h : m.get? name = some item) : item ∈ m.items :=
  List.mem_map.2 ⟨_, (get?_eq_some_iff m name item).1 h, rfl⟩

def KeyedBy (m : NameMap α) (nameOf : α → String) : Prop :=
  ∀ entry ∈ m.entries, entry.1 = lower (nameOf entry.2)

theorem KeyedBy.insert {m : NameMap α} {nameOf : α → String} (h : m.KeyedBy nameOf) (item : α) :
    (m.insert (lower (nameOf item)) item).KeyedBy nameOf := by
  intro entry hentry
  rcases mem_insertEntry hentry with rfl | hentry
  · rfl
  · exact h entry hentry

/-- In such a map a name finds the item whose name it is up to case. -/
theorem KeyedBy.get?_lower_iff {m : NameMap α} {nameOf : α → String} (h : m.KeyedBy nameOf)
    (name : String) (item : α) :
    m.get? (lower name) = some item ↔
      item ∈ m.items ∧ sameLetters (nameOf item) name = true := by
  rw [get?_eq_some_iff, sameLetters_iff, items, List.mem_map]
  constructor
  · intro hentry
    exact ⟨⟨_, hentry, rfl⟩, (h _ hentry).symm⟩
  · rintro ⟨⟨⟨key, item⟩, hentry, rfl⟩, hname⟩
    have hkey : key = lower name := (h _ hentry).trans hname
    exact hkey ▸ hentry

end NameMap

namespace Registry

inductive Reachable : Registry → Prop
  | empty : Reachable empty
  | register {r r' : Registry} {f : Function} (earlier : Reachable r)
      (registered : r.register f = .ok r') : Reachable r'

theorem Reachable.registerAll {r : Registry} (h : r.Reachable) (functions : List Function) :
    (r.registerAll functions).registry.Reachable := by
  induction functions generalizing r with
  | nil => exact h
  | cons f functions ih =>
    cases hf : r.register f with
    | error e => simpa [Registry.registerAll, hf] using h
    | ok r' => simpa [Registry.registerAll, hf] using ih (h.register hf)

theorem reachable_withBuiltins : withBuiltins.registry.Reachable := by
  simp only [withBuiltins]
  exact Reachable.empty.registerAll Builtin.functions

/-- A registration brings no function into the tables but the one that is registered. -/
theorem mem_of_register {r r' : Registry} {f : Function} (registered : r.register f = .ok r') :
    (∀ k ∈ r'.keywords.items, k ∈ r.keywords.items ∨ f = .keyword k) ∧
      ∀ c ∈ r'.conditions.items, c ∈ r.conditions.items ∨ f = .condition c := by
  unfold Registry.register at registered
  split at registered
  case isTrue => cases registered
  case isFalse =>
    cases f with
    | keyword new =>
      cases registered
      refine ⟨fun k hk => ?_, fun c hc => .inl hc⟩
      exact (NameMap.mem_items_insert hk).elim (fun h => .inr (h ▸ rfl)) .inl
    | condition new =>
      cases registered
      refine ⟨fun k hk => .inl hk, fun c hc => ?_⟩
      exact (NameMap.mem_items_insert hc).elim (fun h => .inr (h ▸ rfl)) .inl

theorem mem_of_registerAll (r : Registry) (functions : List Function) :
    (∀ k ∈ (r.registerAll functions).registry.keywords.items,
      k ∈ r.keywords.items ∨ .keyword k ∈ functions) ∧
    ∀ c ∈ (r.registerAll functions).registry.conditions.items,
      c ∈ r.conditions.items ∨ .condition c ∈ functions := by
  induction functions generalizing r with
  | nil => exact ⟨fun k hk => .inl hk, fun c hc => .inl hc⟩
  | cons f functions ih =>
    cases hf : r.register f with
    | error e =>
      simp only [Registry.registerAll, hf]
      exact ⟨fun k hk => .inl hk, fun c hc => .inl hc⟩
    | ok r' =>
      simp only [Registry.registerAll, hf]
      obtain ⟨hkeyword, hcondition⟩ := mem_of_register hf
      refine ⟨fun k hk => ?_, fun c hc => ?_⟩
      -- What is not of the later registrations is of this one or was there before.
      · rcases (ih r').1 k hk with hold | hlater
        · exact (hkeyword k hold).imp_right fun h => by rw [h]; exact List.mem_cons_self
        · exact .inr (List.mem_cons_of_mem _ hlater)
      · rcases (ih r').2 c hc with hold | hlater
        · exact (hcondition c hold).imp_right fun h => by rw [h]; exact List.mem_cons_self
        · exact .inr (List.mem_cons_of_mem _ hlater)

/-- The functions of the built-in registry are the built-in ones. -/
theorem mem_withBuiltins :
    (∀ k ∈ withBuiltins.registry.keywords.items, k ∈ Builtin.keywords) ∧
      ∀ c ∈ withBuiltins.registry.conditions.items, c ∈ Builtin.conditions := by
  have hfunctions := mem_of_registerAll empty Builtin.functions
  refine ⟨fun k hk => ?_, fun c hc => ?_⟩
  · rcases hfunctions.1 k hk with hnone | hmem
    · cases hnone
    · simpa [Builtin.functions] using hmem
  · rcases hfunctions.2 c hc with hnone | hmem
    · cases hnone
    · simpa [Builtin.functions] using hmem

structure Keyed (r : Registry) : Prop where
  keywords : r.keywords.KeyedBy Keyword.name
  conditions : r.conditions.KeyedBy Condition.name

theorem Keyed.register {r r' : Registry} {f : Function} (h : r.Keyed)
    (registered : r.register f = .ok r') : r'.Keyed := by
  unfold Registry.register at registered
  split at registered
  case isTrue => cases registered
  case isFalse =>
    cases f with
    | keyword k =>
      cases registered
      exact ⟨h.keywords.insert k, h.conditions⟩
    | condition c =>
      cases registered
      exact ⟨h.keywords, h.conditions.insert c⟩

theorem Reachable.keyed {r : Registry} (h : r.Reachable) : r.Keyed := by
  induction h with
  | empty => exact ⟨by rintro entry ⟨⟩, by rintro entry ⟨⟩⟩
  | register _ registered ih => exact ih.register registered

/-- A name finds the registered keyword that has it, in any case of letters. -/
theorem Reachable.keyword?_eq_some_iff {r : Registry} (h : r.Reachable) (name : String)
    (k : Keyword Ability) :
    r.keyword? name = some k ↔ k ∈ r.keywords.items ∧ sameLetters k.name name = true :=
  h.keyed.keywords.get?_lower_iff name k

/-- A name finds the registered condition that has it, in any case of letters. -/
theorem Reachable.condition?_eq_some_iff {r : Registry} (h : r.Reachable) (name : String)
    (c : Condition Ability) :
    r.condition? name = some c ↔ c ∈ r.conditions.items ∧ sameLetters c.name name = true :=
  h.keyed.conditions.get?_lower_iff name c

end Registry

end AbilityScript
