import AbilityScript.Proofs.RegistryHistory
import AbilityScript.Proofs.Text.ByteOrder

namespace AbilityScript

open Text

namespace NameMap

variable {α : Type}

theorem isSome_get?_iff (m : NameMap α) (name : String) :
    (m.get? name).isSome ↔ name ∈ m.names := by
  simp [Option.isSome_iff_exists, get?_eq_some_iff, names]

theorem length_insertEntry {name : String} (item : α) {l : List (String × α)}
    (h : name ∉ l.map Prod.fst) : (insertEntry name item l).length = l.length + 1 := by
  induction l with
  | nil => rfl
  | cons head tail ih =>
    rw [List.map_cons, List.mem_cons, not_or] at h
    rw [insertEntry, if_neg h.1]
    split
    · rfl
    · rw [List.length_cons, ih h.2, List.length_cons]

/-- The map says of a name, in any case of letters, what the list of items says: the first item that
has it is found. Its own names are those of the items in small letters, in the order of bytes, and
there are as many as items. -/
structure Lists (m : NameMap α) (nameOf : α → String) (items : List α) : Prop where
  get? : ∀ name, m.get? (lower name) = items.find? fun item => sameLetters (nameOf item) name
  mem_names : ∀ name, name ∈ m.names ↔ ∃ item ∈ items, name = lower (nameOf item)
  names_sorted : m.names.Pairwise fun a b => bytes a < bytes b
  length_names : m.names.length = m.size
  size : m.size = items.length

theorem lists_empty (nameOf : α → String) : (empty : NameMap α).Lists nameOf [] :=
  ⟨fun _ => rfl, by simp [names, empty], .nil, rfl, rfl⟩

theorem Lists.taken_iff {m : NameMap α} {nameOf : α → String} {items : List α}
    (h : m.Lists nameOf items) (name : String) :
    (m.get? (lower name)).isSome ↔ ∃ item ∈ items, sameLetters (nameOf item) name = true := by
  rw [h.get?, List.find?_isSome]

/-- A new name is found from now on, and all others are found as before. -/
theorem Lists.insert {m : NameMap α} {nameOf : α → String} {items : List α}
    (h : m.Lists nameOf items) {item : α} (hnew : m.get? (lower (nameOf item)) = none) :
    (m.insert (lower (nameOf item)) item).Lists nameOf (items ++ [item]) where
  get? name := by
    rw [get?_insert, List.find?_append, ← h.get? name]
    by_cases hname : lower (nameOf item) = lower name
    · rw [if_pos hname, ← hname, hnew]
      simp [(sameLetters_iff _ _).2 hname]
    · simp [hname, sameLetters]
  mem_names name := by
    rw [← isSome_get?_iff, get?_insert]
    by_cases hname : lower (nameOf item) = name
    · simp [hname]
    · simp [hname, isSome_get?_iff, h.mem_names, Ne.symm hname]
  names_sorted := (NameMap.names_sorted _).imp fun hlt => (lt_iff_bytes _ _).1 hlt
  length_names := List.length_map _
  size := by
    have hfresh : lower (nameOf item) ∉ m.names := by
      rw [← isSome_get?_iff, hnew]
      simp
    rw [List.length_append, ← h.size]
    exact length_insertEntry item hfresh

theorem Lists.get?_of_append {m m' : NameMap α} {nameOf : α → String} {items more : List α}
    (h : m.Lists nameOf items) (h' : m'.Lists nameOf (items ++ more)) {name : String} {item : α}
    (hfound : m.get? (lower name) = some item) : m'.get? (lower name) = some item := by
  rw [h'.get?, List.find?_append, ← h.get?, hfound]
  rfl

end NameMap

namespace Function

def Clashes (f g : Function) : Prop :=
  f.kind = g.kind ∧ sameLetters f.name g.name = true

instance (f g : Function) : Decidable (f.Clashes g) :=
  inferInstanceAs (Decidable (_ ∧ _))

def keyword? : Function → Option (Keyword Ability)
  | keyword k => some k
  | condition _ => none

def condition? : Function → Option (Condition Ability)
  | keyword _ => none
  | condition c => some c

@[simp] theorem keyword?_eq_some_iff (f : Function) (k : Keyword Ability) :
    f.keyword? = some k ↔ f = .keyword k := by
  cases f <;> simp [keyword?]

@[simp] theorem condition?_eq_some_iff (f : Function) (c : Condition Ability) :
    f.condition? = some c ↔ f = .condition c := by
  cases f <;> simp [condition?]

theorem clashes_keyword_iff (f : Function) (k : Keyword Ability) :
    f.Clashes (.keyword k) ↔ ∃ k', f = .keyword k' ∧ sameLetters k'.name k.name = true := by
  cases f <;> simp [Clashes, kind, name]

theorem clashes_condition_iff (f : Function) (c : Condition Ability) :
    f.Clashes (.condition c) ↔ ∃ c', f = .condition c' ∧ sameLetters c'.name c.name = true := by
  cases f <;> simp [Clashes, kind, name]

end Function

inductive Enrolment where
  | one (f : Function)
  | builtins

namespace Enrolment

def functions : Enrolment → List Function
  | one f => [f]
  | builtins => Builtin.functions

/-- Of functions that come in turn, those that are let in beside a roll: the ones before the first
that clashes with an earlier one. -/
def admitted (roll : List Function) : List Function → List Function
  | [] => []
  | f :: rest => if ∃ g ∈ roll, g.Clashes f then [] else f :: admitted (roll ++ [f]) rest

def roll (history : List Enrolment) : List Function :=
  history.foldl (fun earlier e => earlier ++ admitted earlier e.functions) []

theorem roll_concat (history : List Enrolment) (e : Enrolment) :
    roll (history ++ [e]) = roll history ++ admitted (roll history) e.functions := by
  simp [roll]

theorem exists_roll_append (history later : List Enrolment) :
    ∃ more, roll (history ++ later) = roll history ++ more := by
  rw [roll, List.foldl_append, ← roll]
  -- The roll on which the later functions come may be any.
  generalize roll history = earlier
  induction later generalizing earlier with
  | nil => exact ⟨[], (List.append_nil _).symm⟩
  | cons e later ih =>
    obtain ⟨more, hmore⟩ := ih (earlier ++ admitted earlier e.functions)
    exact ⟨admitted earlier e.functions ++ more, by rw [List.foldl_cons, hmore, List.append_assoc]⟩

/-- Functions come in turn to a roll on which no two clash. Either no function clashes with an
earlier one and all enter, or those enter that come before the first that does, and the error is
about this one. -/
inductive Admits (roll : List Function) :
    List Function → List Function → Option RegistryError → Prop
  | all {functions} (fresh : (roll ++ functions).Pairwise fun f g => ¬ f.Clashes g) :
      Admits roll functions functions none
  | upTo {entered f g rest} (fresh : (roll ++ entered).Pairwise fun f g => ¬ f.Clashes g)
      (taken : g ∈ roll ++ entered) (clash : g.Clashes f) :
      Admits roll (entered ++ f :: rest) entered (some ⟨f.kind, lower f.name⟩)

theorem Admits.cons {roll rest entered : List Function} {f : Function}
    {error : Option RegistryError} (h : Admits (roll ++ [f]) rest entered error) :
    Admits roll (f :: rest) (f :: entered) error := by
  cases h with
  | all fresh =>
    rw [List.append_assoc] at fresh
    exact .all fresh
  | @upTo _ f' g rest fresh taken clash =>
    rw [List.append_assoc] at fresh taken
    have hadmits : Admits roll ((f :: entered) ++ f' :: rest) (f :: entered)
        (some ⟨f'.kind, lower f'.name⟩) := .upTo fresh taken clash
    exact hadmits

end Enrolment

namespace Registry

open Enrolment

def enrolAll (history : List Enrolment) : Registry :=
  history.foldl (fun r e => (r.registerAll e.functions).registry) empty

structure Enrols (r : Registry) (roll : List Function) : Prop where
  distinct : roll.Pairwise fun f g => ¬ f.Clashes g
  keywords : r.keywords.Lists Keyword.name (roll.filterMap Function.keyword?)
  conditions : r.conditions.Lists Condition.name (roll.filterMap Function.condition?)

theorem enrols_empty : empty.Enrols [] :=
  ⟨.nil, NameMap.lists_empty _, NameMap.lists_empty _⟩

namespace Enrols

variable {r : Registry} {roll : List Function} (h : r.Enrols roll)
include h

theorem contains_iff (f : Function) :
    r.contains f.kind f.name = true ↔ ∃ g ∈ roll, g.Clashes f := by
  cases f with
  | keyword k =>
    have htaken := h.keywords.taken_iff k.name
    show (r.keywords.get? (lower k.name)).isSome ↔ _
    simpa [Function.clashes_keyword_iff] using htaken
  | condition c =>
    have htaken := h.conditions.taken_iff c.name
    show (r.conditions.get? (lower c.name)).isSome ↔ _
    simpa [Function.clashes_condition_iff] using htaken

theorem register_of_clash {f : Function} (hf : ∃ g ∈ roll, g.Clashes f) :
    r.register f = .error ⟨f.kind, lower f.name⟩ := by
  unfold Registry.register
  rw [if_pos ((h.contains_iff f).2 hf)]

theorem register_of_new {f : Function} (hf : ¬ ∃ g ∈ roll, g.Clashes f) :
    ∃ r', r.register f = .ok r' ∧ r'.Enrols (roll ++ [f]) := by
  have hfree : ¬ r.contains f.kind f.name = true := mt (h.contains_iff f).1 hf
  have hdistinct : (roll ++ [f]).Pairwise fun f g => ¬ f.Clashes g := by
    refine List.pairwise_append.2 ⟨h.distinct, List.pairwise_singleton _ _, ?_⟩
    intro g hg f' hf' hclash
    obtain rfl := List.mem_singleton.1 hf'
    exact hf ⟨g, hg, hclash⟩
  unfold Registry.register
  rw [if_neg hfree]
  cases f with
  | keyword k =>
    have hnew : r.keywords.get? (lower k.name) = none := by
      simpa [Registry.contains, Function.kind, Function.name, NameMap.contains] using hfree
    refine ⟨_, rfl, hdistinct, ?_, ?_⟩
    · rw [List.filterMap_append]
      exact h.keywords.insert hnew
    · rw [List.filterMap_append]
      exact (List.append_nil _).symm ▸ h.conditions
  | condition c =>
    have hnew : r.conditions.get? (lower c.name) = none := by
      simpa [Registry.contains, Function.kind, Function.name, NameMap.contains] using hfree
    refine ⟨_, rfl, hdistinct, ?_, ?_⟩
    · rw [List.filterMap_append]
      exact (List.append_nil _).symm ▸ h.keywords
    · rw [List.filterMap_append]
      exact h.conditions.insert hnew

/-- Functions that come in turn are let in up to the first that clashes with an earlier one. -/
theorem registerAll (functions : List Function) :
    Admits roll functions (admitted roll functions) (r.registerAll functions).error ∧
      (r.registerAll functions).registry.Enrols (roll ++ admitted roll functions) := by
  induction functions generalizing r roll with
  | nil =>
    rw [admitted, List.append_nil]
    exact ⟨.all (by simpa using h.distinct), h⟩
  | cons f functions ih =>
    by_cases hf : ∃ g ∈ roll, g.Clashes f
    · -- The first that clashes ends it: nothing is let in, and the roll stays.
      have hregister := h.register_of_clash hf
      simp only [Registry.registerAll, hregister, admitted, if_pos hf, List.append_nil]
      obtain ⟨g, hg, hclash⟩ := hf
      have hdistinct : (roll ++ []).Pairwise fun (f g : Function) => ¬ f.Clashes g := by
        simpa using h.distinct
      exact ⟨.upTo hdistinct (List.mem_append_left _ hg) hclash, h⟩
    · -- The rest comes to the roll that ends with `f`.
      obtain ⟨r', hregister, h'⟩ := h.register_of_new hf
      obtain ⟨hadmits, henrols⟩ := ih h'
      simp only [Registry.registerAll, hregister, admitted, if_neg hf]
      rw [List.append_assoc] at henrols
      exact ⟨hadmits.cons, henrols⟩

end Enrols

theorem enrols_enrolAll (history : List Enrolment) : (enrolAll history).Enrols (roll history) := by
  have hfold {r : Registry} {earlier : List Function} (h : r.Enrols earlier) :
      (history.foldl (fun r e => (r.registerAll e.functions).registry) r).Enrols
        (history.foldl (fun earlier e => earlier ++ admitted earlier e.functions) earlier) := by
    induction history generalizing r earlier with
    | nil => exact h
    | cons e history ih => exact ih (h.registerAll e.functions).2
  exact hfold enrols_empty

/-- What a name finds after a history it still finds after a longer one. -/
theorem finds_of_append (history later : List Enrolment) (name : String) :
    (∀ k, (enrolAll history).keyword? name = some k →
      (enrolAll (history ++ later)).keyword? name = some k) ∧
    ∀ c, (enrolAll history).condition? name = some c →
      (enrolAll (history ++ later)).condition? name = some c := by
  have hnow := enrols_enrolAll history
  have hlater := enrols_enrolAll (history ++ later)
  obtain ⟨more, hmore⟩ := exists_roll_append history later
  have hkeywords := hlater.keywords
  have hconditions := hlater.conditions
  rw [hmore, List.filterMap_append] at hkeywords hconditions
  exact ⟨fun k => hnow.keywords.get?_of_append hkeywords,
    fun c => hnow.conditions.get?_of_append hconditions⟩

theorem Enrols.registerAll_one {r : Registry} {roll : List Function} (h : r.Enrols roll)
    (f : Function) :
    (∃ g ∈ roll, g.Clashes f) ∧ r.registerAll [f] = ⟨r, [], some ⟨f.kind, lower f.name⟩⟩ ∨
      (∀ g ∈ roll, ¬ g.Clashes f) ∧ (r.registerAll [f]).error = none := by
  by_cases hf : ∃ g ∈ roll, g.Clashes f
  · refine .inl ⟨hf, ?_⟩
    simp only [Registry.registerAll, h.register_of_clash hf]
  · obtain ⟨r', hregister, -⟩ := h.register_of_new hf
    refine .inr ⟨fun g hg hclash => hf ⟨g, hg, hclash⟩, ?_⟩
    simp only [Registry.registerAll, hregister]

/-- Whatever becomes of a function, the table of the other kind stays as it is. -/
theorem others_registerAll (r : Registry) (f : Function) :
    (f.kind = .keywords → (r.registerAll [f]).registry.conditions = r.conditions) ∧
      (f.kind = .conditions → (r.registerAll [f]).registry.keywords = r.keywords) := by
  cases hregister : r.register f with
  | error e => simp only [Registry.registerAll, hregister, implies_true, and_self]
  | ok r' =>
    simp only [Registry.registerAll, hregister]
    unfold Registry.register at hregister
    split at hregister
    case isTrue => cases hregister
    case isFalse =>
      cases f with
      | keyword k =>
        cases hregister
        refine ⟨fun _ => rfl, fun hkind => ?_⟩
        cases hkind
      | condition c =>
        cases hregister
        refine ⟨fun hkind => ?_, fun _ => rfl⟩
        cases hkind

end Registry

/-- After any history of enrolments a name finds the first function of its kind that was let in
with that name, in any case of letters, and it goes on finding it whatever is enrolled later. A
function is turned away just if one of its kind and its name is on the roll; the error bears the
name in small letters, and nothing changes. The built-in functions are let in up to the first that
is turned away. The names that a registry lists are those of the roll in small letters, and
functions of one kind are no matter to those of the other. -/
theorem names_go_to_first_comers (history : List Enrolment) :
    let r := Registry.enrolAll history
    let roll := Enrolment.roll history
    r.Enrols roll ∧
    (∀ name, r.keyword? name =
      (roll.filterMap Function.keyword?).find? fun k => sameLetters k.name name) ∧
    (∀ name, r.condition? name =
      (roll.filterMap Function.condition?).find? fun c => sameLetters c.name name) ∧
    (∀ name, r.contains .keywords name = (r.keyword? name).isSome ∧
      r.contains .conditions name = (r.condition? name).isSome) ∧
    (∀ f, (∃ g ∈ roll, g.Clashes f) ∧
        r.registerAll [f] = ⟨r, [], some ⟨f.kind, lower f.name⟩⟩ ∨
      (∀ g ∈ roll, ¬ g.Clashes f) ∧ (r.registerAll [f]).error = none) ∧
    (∀ e, ∃ entered, Enrolment.Admits roll e.functions entered (r.registerAll e.functions).error ∧
      Enrolment.roll (history ++ [e]) = roll ++ entered ∧
      Registry.enrolAll (history ++ [e]) = (r.registerAll e.functions).registry) ∧
    (∀ later name k, r.keyword? name = some k →
      (Registry.enrolAll (history ++ later)).keyword? name = some k) ∧
    (∀ later name c, r.condition? name = some c →
      (Registry.enrolAll (history ++ later)).condition? name = some c) ∧
    (∀ k, (r.registerAll [.keyword k]).registry.conditions = r.conditions) ∧
    ∀ c, (r.registerAll [.condition c]).registry.keywords = r.keywords := by
  intro r roll
  have henrols : r.Enrols roll := Registry.enrols_enrolAll history
  refine ⟨henrols, henrols.keywords.get?, henrols.conditions.get?, fun name => ⟨rfl, rfl⟩,
    henrols.registerAll_one, ?_, fun later name => (Registry.finds_of_append history later name).1,
    fun later name => (Registry.finds_of_append history later name).2, ?_, ?_⟩
  · intro e
    refine ⟨_, (henrols.registerAll e.functions).1, Enrolment.roll_concat history e, ?_⟩
    simp [Registry.enrolAll, r]
  · intro k
    exact (Registry.others_registerAll r (.keyword k)).1 rfl
  · intro c
    exact (Registry.others_registerAll r (.condition c)).2 rfl

/-- A custom keyword comes before the built-in one of its name, which is turned away with all that
would come after it. -/
theorem names_go_to_first_comers_smite :
    let smite : Keyword Ability := ⟨"LightNing", [], false, fun _ _ _ => []⟩
    let history : List Enrolment := [.one (.keyword smite)]
    let later : List Enrolment :=
      [.builtins, .one (.condition ⟨"message", [], fun _ _ _ => (true, [])⟩)]
    (Registry.enrolAll history).keyword? "lightning" = some smite ∧
      (Registry.enrolAll (history ++ later)).keyword? "lightning" = some smite ∧
      (Registry.enrolAll (history ++ later)).keywords.names = ["damage", "damagepercent", "effect",
        "feed", "heal", "healpercent", "kindle", "lightning", "sethealth"] ∧
      (Registry.enrolAll (history ++ later)).conditions.names = ["message"] := by
  intro smite history later
  obtain ⟨-, hkeyword, -, -, -, -, hkeeps, -⟩ := names_go_to_first_comers history
  have hroll : Enrolment.roll history = [.keyword smite] := by
    simp [history, Enrolment.roll, Enrolment.admitted, Enrolment.functions]
  have hname : sameLetters smite.name "lightning" = true := by decide
  have hfound : (Registry.enrolAll history).keyword? "lightning" = some smite := by
    rw [hkeyword, hroll]
    exact List.find?_cons_of_pos hname
  exact ⟨hfound, hkeeps later "lightning" smite hfound, by decide +kernel, by decide +kernel⟩

end AbilityScript
