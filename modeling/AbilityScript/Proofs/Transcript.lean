import AbilityScript.Simulation

namespace AbilityScript

namespace Happening

def run? : Happening → Option BodyRun
  | ran run => some run
  | _ => none

def LeftOn (thread : Thread) : Happening → Prop
  | ran run => run.thread = thread
  | noticed _ t => t = thread
  | _ => False

end Happening

def ConditionCall.run (thread : Thread) (context : Context) (call : ConditionCall Ability) :
    BodyRun :=
  ⟨.conditions, call.condition.name, call.arguments, context, thread⟩

def KeywordCall.run (thread : Thread) (context : Context) (call : KeywordCall Ability) : BodyRun :=
  ⟨.keywords, call.keyword.name, call.arguments, context, thread⟩

namespace Simulation

/-- Between two states just the listed bodies ran, in order and on one thread, and the scheduler
was not called. -/
structure Ran (thread : Thread) (runs : List BodyRun) (s s' : Simulation) : Prop where
  pending : s'.pending = s.pending
  questions : s'.questions = s.questions
  handovers : s'.handovers = s.handovers
  pauses : s'.pauses = s.pauses
  transcript : ∃ entries, s'.transcript = s.transcript ++ entries ∧
    entries.filterMap Happening.run? = runs ∧ ∀ entry ∈ entries, entry.LeftOn thread

namespace Ran

variable {thread : Thread} {runs runs' : List BodyRun} {s s' s'' : Simulation}

theorem refl (thread : Thread) (s : Simulation) : Ran thread [] s s :=
  ⟨rfl, rfl, rfl, rfl, [], (List.append_nil _).symm, rfl, by simp⟩

theorem trans (h : Ran thread runs s s') (h' : Ran thread runs' s' s'') :
    Ran thread (runs ++ runs') s s'' := by
  obtain ⟨entries, happend, hruns, hleft⟩ := h.transcript
  obtain ⟨entries', happend', hruns', hleft'⟩ := h'.transcript
  refine ⟨h'.pending.trans h.pending, h'.questions.trans h.questions,
    h'.handovers.trans h.handovers, h'.pauses.trans h.pauses, entries ++ entries', ?_, ?_, ?_⟩
  · rw [happend', happend, List.append_assoc]
  · rw [List.filterMap_append, hruns, hruns']
  · intro entry hentry
    exact (List.mem_append.1 hentry).elim (hleft entry) (hleft' entry)

end Ran

/-- The entry of a body that runs. -/
theorem ran_record (run : BodyRun) (s : Simulation) :
    Ran run.thread [run] s (s.record (.ran run)) :=
  ⟨rfl, rfl, rfl, rfl, [.ran run], rfl, rfl, by simp [Happening.LeftOn]⟩

/-- No effect of a body runs another body or calls the scheduler. -/
theorem ran_applyEffect (thread : Thread) (s : Simulation) (effect : Effect Ability) :
    Ran thread [] s (s.applyEffect thread effect) := by
  -- Changes leave no entry; a notice leaves one, and a reload the notice that it took place.
  cases effect with
  | onEntity id change => exact ⟨rfl, rfl, rfl, rfl, [], (List.append_nil _).symm, rfl, by simp⟩
  | onWorld change => exact ⟨rfl, rfl, rfl, rfl, [], (List.append_nil _).symm, rfl, by simp⟩
  | notice n =>
    exact ⟨rfl, rfl, rfl, rfl, [.noticed n thread], rfl, rfl, by simp [Happening.LeftOn]⟩
  | reload abilities =>
    exact ⟨rfl, rfl, rfl, rfl, [.noticed (.reloaded _) thread], rfl, rfl,
      by simp [Happening.LeftOn]⟩

theorem ran_applyEffects (thread : Thread) (effects : List (Effect Ability)) (s : Simulation) :
    Ran thread [] s (s.applyEffects thread effects) := by
  induction effects generalizing s with
  | nil => exact .refl thread s
  | cons effect effects ih => exact (ran_applyEffect thread s effect).trans (ih _)

theorem ran_testCondition {thread : Thread} {call : ConditionCall Ability} {context : Context}
    {s s' : Simulation} {answer : Bool} (h : s.testCondition thread call context = (answer, s')) :
    Ran thread [call.run thread context] s s' := by
  obtain rfl : _ = s' := congrArg Prod.snd h
  exact (ran_record (call.run thread context) s).trans (ran_applyEffects thread _ _)

theorem ran_runKeyword (thread : Thread) (call : KeywordCall Ability) (context : Context)
    (s : Simulation) : Ran thread [call.run thread context] s (s.runKeyword thread call context) :=
  (ran_record (call.run thread context) s).trans (ran_applyEffects thread _ _)

/-- Notices alone leave the scene and the abilities in force as they are. -/
theorem applyEffects_of_notices {thread : Thread} {effects : List (Effect Ability)}
    (h : ∀ effect ∈ effects, ∃ n, effect = .notice n) (s : Simulation) :
    (s.applyEffects thread effects).scene = s.scene ∧
      (s.applyEffects thread effects).cache = s.cache := by
  induction effects generalizing s with
  | nil => exact ⟨rfl, rfl⟩
  | cons effect effects ih =>
    obtain ⟨n, rfl⟩ := h effect List.mem_cons_self
    exact ih (fun other hother => h other (List.mem_cons_of_mem _ hother)) (s.note thread n)

end Simulation

end AbilityScript
