import AbilityScript.Ability

namespace AbilityScript

structure TimerTable where
  entries : List (String × Nat)
  sorted : entries.Pairwise fun a b => a.1 < b.1
  positive : ∀ entry ∈ entries, 0 < entry.2

namespace TimerTable

def periodOf? (a : Ability) : Option Nat :=
  if a.trigger == .timer then a.timer.filter (0 < ·) else none

def scheduled? (named : String × Ability) : Option (String × Nat) :=
  (periodOf? named.2).map fun p => (named.1, p)

theorem positive_of_periodOf? {a : Ability} {p : Nat} (h : periodOf? a = some p) : 0 < p := by
  unfold periodOf? at h
  split at h
  · simp only [Option.filter_eq_some_iff, decide_eq_true_eq] at h
    exact h.2
  · cases h

theorem scheduled?_eq_some_iff {named : String × Ability} {e : String × Nat} :
    scheduled? named = some e ↔ named.1 = e.1 ∧ periodOf? named.2 = some e.2 := by
  simp only [scheduled?, Option.map_eq_some_iff]
  constructor
  · rintro ⟨p, hp, rfl⟩
    exact ⟨rfl, hp⟩
  · rintro ⟨hn, hp⟩
    exact ⟨e.2, hp, by rw [hn]⟩

def ofSet (s : AbilitySet) : TimerTable where
  entries := s.entries.filterMap scheduled?
  sorted := by
    refine List.pairwise_filterMap.2 (s.sorted.imp fun {a b} h c hc d hd => ?_)
    rw [← (scheduled?_eq_some_iff.1 hc).1, ← (scheduled?_eq_some_iff.1 hd).1]
    exact h
  positive := by
    intro e he
    obtain ⟨named, -, h⟩ := List.mem_filterMap.1 he
    exact positive_of_periodOf? (scheduled?_eq_some_iff.1 h).2

def empty : TimerTable := ⟨[], .nil, by simp⟩

def due (t : TimerTable) (tick : Nat) : List String :=
  if tick = 0 then []
  else (t.entries.filter fun entry => tick % entry.2 == 0).map Prod.fst

def period? (t : TimerTable) (name : String) : Option Nat :=
  (t.entries.find? fun entry => entry.1 == name).map Prod.snd

def size (t : TimerTable) : Nat :=
  t.entries.length

def isEmpty (t : TimerTable) : Bool :=
  t.entries.isEmpty

end TimerTable

end AbilityScript
