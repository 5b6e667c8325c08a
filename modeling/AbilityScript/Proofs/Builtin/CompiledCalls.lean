import AbilityScript.Builtin
import AbilityScript.Proofs.Builtin.Meaning
import AbilityScript.Proofs.CompiledLines
import AbilityScript.Proofs.RegistryHistory
import AbilityScript.Proofs.Transcript

namespace AbilityScript.Builtin

open Number

inductive KeywordValues : Keyword Ability → List Value → Prop
  | damage {t x} : t ≠ .block → x.isFinite = true → (0 : Binary64).le x = true →
      KeywordValues damage [.targeter t, .double x]
  | heal {t x} : t ≠ .block → x.isFinite = true → (0 : Binary64).le x = true →
      KeywordValues heal [.targeter t, .double x]
  | setHealth {t x} : t ≠ .block → x.isFinite = true →
      KeywordValues setHealth [.targeter t, .double x]
  | healPercent {t x} : t ≠ .block → x.isFinite = true →
      KeywordValues healPercent [.targeter t, .double x]
  | damagePercent {t x} : t ≠ .block → x.isFinite = true → (0 : Binary64).le x = true →
      KeywordValues damagePercent [.targeter t, .double x]
  | kindle {t} {ticks : Whole .integer} : t ≠ .block → 0 ≤ ticks.val →
      KeywordValues kindle [.targeter t, .whole .integer ticks]
  | feed {food : Whole .integer} {x} : x.isFinite = true →
      KeywordValues feed [.targeter .player, .whole .integer food, .double x]
  | effect {t} {kind : PotionKind} {duration level : Whole .integer} : t ≠ .block →
      0 ≤ duration.val → 0 ≤ level.val →
      KeywordValues effect [.targeter t, .member (PotionKind.enumeration.value kind),
        .whole .integer duration, .whole .integer level]
  | lightning {t} : KeywordValues lightning [.targeter t]
  | message {t text} : t ≠ .block → KeywordValues message [.targeter t, .string text]

inductive ConditionValues : Condition Ability → List Value → Prop
  | isTime {time : TimeOfDay} : ConditionValues isTime [.member (TimeOfDay.enumeration.value time)]
  | isBurning {t} : t ≠ .block → ConditionValues isBurning [.targeter t]
  | healthAbove {t x} : t ≠ .block → x.isFinite = true →
      ConditionValues healthAbove [.targeter t, .double x]

inductive Performs (context : Context) (scene : Scene) : Keyword Ability → List Value → Scene → Prop
  | damage {t id x} : context.entity? t = some id →
      Performs context scene damage [.targeter t, .double x]
        (scene.modifyEntity id (Entity.damage x))
  | heal {t id x} : context.entity? t = some id →
      Performs context scene heal [.targeter t, .double x] (scene.modifyEntity id (Entity.heal x))
  | setHealth {t id x} : context.entity? t = some id →
      Performs context scene setHealth [.targeter t, .double x]
        (scene.modifyEntity id (Entity.setHealth x))
  | healPercent {t id x} : context.entity? t = some id →
      Performs context scene healPercent [.targeter t, .double x]
        (scene.modifyEntity id fun e => e.setHealth (e.health + e.maxHealth * x / 100))
  | damagePercent {t id x} : context.entity? t = some id →
      Performs context scene damagePercent [.targeter t, .double x]
        (scene.modifyEntity id fun e => e.damage (e.maxHealth * x / 100))
  | kindle {t id} {ticks : Whole .integer} {count : UInt32} : context.entity? t = some id →
      (count.toNat : Int) = ticks.val →
      Performs context scene kindle [.targeter t, .whole .integer ticks]
        (scene.modifyEntity id (Entity.setFireTicks count))
  | feed {t id} {food : Whole .integer} {x} : context.entity? t = some id →
      Performs context scene feed [.targeter t, .whole .integer food, .double x]
        (scene.modifyEntity id (Entity.feed food.val x.convert))
  | effect {t id kind} {duration level : Whole .integer} {length amplifier : UInt32} :
      context.entity? t = some id → (length.toNat : Int) = duration.val →
      (amplifier.toNat : Int) = level.val →
      Performs context scene effect [.targeter t, .member (PotionKind.enumeration.value kind),
          .whole .integer duration, .whole .integer level]
        (scene.modifyEntity id (Entity.addEffect ⟨kind, length, amplifier⟩))
  | lightning {t location} : context.location? scene t = some location →
      Performs context scene lightning [.targeter t] (scene.modifyWorld (World.strike location))
  | message {t id text} : context.entity? t = some id →
      Performs context scene message [.targeter t, .string text]
        (scene.modifyEntity id (Entity.sendMessage text))

inductive Asks (context : Context) (scene : Scene) : Condition Ability → List Value → Prop → Prop
  | isTime {time : TimeOfDay} :
      Asks context scene isTime [.member (TimeOfDay.enumeration.value time)]
        (scene.world.timeOfDay = time)
  | isBurning {t id} : context.entity? t = some id →
      Asks context scene isBurning [.targeter t] (0 < (scene.entity id).fireTicks)
  | healthAbove {t id x} : context.entity? t = some id →
      Asks context scene healthAbove [.targeter t, .double x]
        (x.lt (scene.entity id).health = true)

def Reaches (context : Context) (scene : Scene) (k : Keyword Ability) (a : Arguments) : Prop :=
  ∃ t, a.targeter? 0 = some t ∧
    if k.name = lightning.name then (context.location? scene t).isSome
    else (context.entity? t).isSome

def Consults (context : Context) (a : Arguments) : Prop :=
  ∀ t, a.targeter? 0 = some t → (context.entity? t).isSome

section Stored

variable {values : List Value}

theorem ne_block_of_living {t : Targeter}
    (h : (Capabilities.ofList [.player, .entity]).has t = true) : t ≠ .block := by
  rintro rfl
  cases h

theorem isNonNegative_double (x : Binary64) :
    isNonNegative (.double x) = (0 : Binary64).le x := rfl

theorem zero_le_of_accepted {x : Binary64}
    (h : (some isNonNegative).all (· (.double x)) = true) : (0 : Binary64).le x = true := by
  simpa only [Option.all_some, isNonNegative_double] using h

theorem nonNegative_of_accepted {w : Width} {n : Whole w}
    (h : (some isNonNegative).all (· (.whole w n)) = true) : 0 ≤ n.val := by
  simpa only [Option.all_some, isNonNegative_whole, Binary.zero_le_ofInt_iff] using h

/-- The first value of typed arguments is of the first type, and the others are typed. -/
theorem typed_cons {s : Schema} {schemas : List Schema}
    (h : (⟨values⟩ : Arguments).Typed (s :: schemas)) :
    ∃ v rest, s.Declares v ∧ (⟨rest⟩ : Arguments).Typed schemas ∧ values = v :: rest :=
  List.forall₂_cons_left_iff.1 h

theorem typed_nil (h : (⟨values⟩ : Arguments).Typed []) : values = [] :=
  List.forall₂_nil_left_iff.1 h

/-- The arguments of a call on a living subject begin with the targeter of one. -/
theorem values_of_subject {others : List Schema}
    (h : (⟨values⟩ : Arguments).Typed (livingTarget :: others)) :
    ∃ t rest, t ≠ .block ∧ (⟨rest⟩ : Arguments).Typed others ∧ values = .targeter t :: rest := by
  obtain ⟨_, rest, ⟨t, ht, rfl⟩, hrest, rfl⟩ := typed_cons h
  exact ⟨t, rest, ne_block_of_living ht, hrest, rfl⟩

/-- A living subject and a number are stored as such. -/
theorem values_of_subject_and_number {accepts : Option (Value → Bool)} {label : Option String}
    (h : (⟨values⟩ : Arguments).Typed [livingTarget, .primitive .double accepts label]) :
    ∃ t x, t ≠ .block ∧ x.isFinite = true ∧ accepts.all (· (.double x)) = true ∧
      values = [.targeter t, .double x] := by
  obtain ⟨t, rest, ht, hrest, rfl⟩ := values_of_subject h
  obtain ⟨_, rest, ⟨⟨x, hx, rfl⟩, haccepts⟩, hnil, rfl⟩ := typed_cons hrest
  obtain rfl := typed_nil hnil
  exact ⟨t, x, ht, hx, haccepts, rfl⟩

/-- What the schemas of a built-in keyword admit is what its body reads. -/
theorem keywordValues_of_typed {k : Keyword Ability} (hk : k ∈ keywords)
    (h : (⟨values⟩ : Arguments).Typed k.schema) : KeywordValues k values := by
  simp only [keywords, List.mem_cons, List.not_mem_nil, or_false] at hk
  rcases hk with rfl | rfl | rfl | rfl | rfl | rfl | rfl | rfl | rfl | rfl
  · obtain ⟨t, x, ht, hx, haccepts, rfl⟩ := values_of_subject_and_number h
    exact .damage ht hx (zero_le_of_accepted haccepts)
  · obtain ⟨t, x, ht, hx, haccepts, rfl⟩ := values_of_subject_and_number h
    exact .heal ht hx (zero_le_of_accepted haccepts)
  · obtain ⟨t, x, ht, hx, -, rfl⟩ := values_of_subject_and_number h
    exact .setHealth ht hx
  · obtain ⟨t, x, ht, hx, -, rfl⟩ := values_of_subject_and_number h
    exact .healPercent ht hx
  · obtain ⟨t, x, ht, hx, haccepts, rfl⟩ := values_of_subject_and_number h
    exact .damagePercent ht hx (zero_le_of_accepted haccepts)
  · obtain ⟨t, _, ht, hrest, rfl⟩ := values_of_subject h
    obtain ⟨_, _, ⟨⟨ticks, rfl⟩, haccepts⟩, hnil, rfl⟩ := typed_cons hrest
    obtain rfl := typed_nil hnil
    exact .kindle ht (nonNegative_of_accepted haccepts)
  -- The player is the one subject that can be fed.
  · obtain ⟨_, _, ⟨t, ht, rfl⟩, hamounts, rfl⟩ := typed_cons h
    obtain ⟨_, _, ⟨⟨food, rfl⟩, -⟩, hsaturation, rfl⟩ := typed_cons hamounts
    obtain ⟨_, _, ⟨⟨x, hx, rfl⟩, -⟩, hnil, rfl⟩ := typed_cons hsaturation
    obtain rfl := typed_nil hnil
    cases t with
    | player => exact .feed hx
    | entity => cases ht
    | block => cases ht
  · obtain ⟨t, _, ht, hrest, rfl⟩ := values_of_subject h
    obtain ⟨_, _, ⟨text, _, hread, rfl⟩, hcounts, rfl⟩ := typed_cons hrest
    obtain ⟨_, _, ⟨⟨duration, rfl⟩, hduration⟩, hcount, rfl⟩ := typed_cons hcounts
    obtain ⟨_, _, ⟨⟨level, rfl⟩, hlevel⟩, hnil, rfl⟩ := typed_cons hcount
    obtain rfl := typed_nil hnil
    obtain ⟨kind, -, rfl⟩ := Enumeration.parse?_spellings hread
    exact .effect ht (nonNegative_of_accepted hduration) (nonNegative_of_accepted hlevel)
  · obtain ⟨_, _, ⟨t, -, rfl⟩, hnil, rfl⟩ := typed_cons h
    obtain rfl := typed_nil hnil
    exact .lightning
  · obtain ⟨t, _, ht, hrest, rfl⟩ := values_of_subject h
    obtain ⟨_, _, ⟨⟨text, rfl⟩, -⟩, hnil, rfl⟩ := typed_cons hrest
    obtain rfl := typed_nil hnil
    exact .message ht

end Stored

section Same

theorem same_of_isFinite {f : Format} {x : Binary f} (h : x.isFinite = true) :
    x.same x = true := by
  cases x with
  | nan => cases h
  | infinite negative => cases h
  | finite negative units fits => simp [Binary.same, Binary.rank]

theorem same_targeter (t : Targeter) : (Value.targeter t).same (.targeter t) = true :=
  beq_self_eq_true t

theorem same_whole {w : Width} (n : Whole w) : (Value.whole w n).same (.whole w n) = true := by
  simp [Value.same]

theorem same_double {x : Binary64} (h : x.isFinite = true) :
    (Value.double x).same (.double x) = true :=
  same_of_isFinite h

theorem same_string (text : String) : (Value.string text).same (.string text) = true :=
  beq_self_eq_true text

theorem same_member (v : EnumValue) : (Value.member v).same (.member v) = true :=
  beq_self_eq_true v

theorem same_values {values : List Value} (h : ∀ v ∈ values, v.same v = true) :
    (⟨values⟩ : Arguments).same ⟨values⟩ = true := by
  induction values with
  | nil => rfl
  | cons v rest ih =>
    obtain ⟨hhead, htail⟩ := List.forall_mem_cons.1 h
    simpa [Arguments.same, Arguments.size, hhead] using ih htail

theorem KeywordValues.same {k : Keyword Ability} {values : List Value}
    (h : KeywordValues k values) : ∀ v ∈ values, v.same v = true := by
  cases h <;>
    simp_all [same_targeter, same_whole, same_double, same_string, same_member]

theorem ConditionValues.same {k : Condition Ability} {values : List Value}
    (h : ConditionValues k values) : ∀ v ∈ values, v.same v = true := by
  cases h <;> simp_all [same_targeter, same_double, same_member]

end Same

section Effect

variable {context : Context} {thread : Thread} {s : Simulation}

/-- A change of one entity depends on no more than what it makes of that entity. -/
theorem modifyEntity_congr {f g : Entity → Entity} {id : EntityId} {scene : Scene}
    (h : f (scene.entity id) = g (scene.entity id)) :
    scene.modifyEntity id f = scene.modifyEntity id g := by
  simp only [Scene.modifyEntity, Scene.mk.injEq, and_true]
  funext other
  by_cases hother : other = id
  · subst hother
    simp [h]
  · simp [hother]

/-- A body that changes one entity makes that change and leaves no more than its own entry. -/
theorem runKeyword_of_onEntity {k : Keyword Ability} {a : Arguments} {id : EntityId}
    {change : EntityChange} {f : Entity → Entity}
    (hbody : k.body context a s.scene = [.onEntity id change])
    (hf : change.apply (s.scene.entity id) = f (s.scene.entity id)) :
    s.runKeyword thread ⟨k, a⟩ context =
      { s.record (.ran (KeywordCall.run thread context ⟨k, a⟩)) with
        scene := s.scene.modifyEntity id f } := by
  rw [← modifyEntity_congr hf]
  simp only [Simulation.runKeyword, hbody]
  rfl

/-- A body that changes the world makes that change and leaves no more than its own entry. -/
theorem runKeyword_of_onWorld {k : Keyword Ability} {a : Arguments} {change : WorldChange}
    (hbody : k.body context a s.scene = [.onWorld change]) :
    s.runKeyword thread ⟨k, a⟩ context =
      { s.record (.ran (KeywordCall.run thread context ⟨k, a⟩)) with
        scene := s.scene.modifyWorld change.apply } := by
  simp only [Simulation.runKeyword, hbody]
  rfl

/-- A condition that leaves no notice leaves no more than its own entry. -/
theorem testCondition_of_answer {k : Condition Ability} {a : Arguments} {answer : Bool}
    (hbody : k.body context a s.scene = (answer, [])) :
    s.testCondition thread ⟨k, a⟩ context =
      (answer, s.record (.ran (ConditionCall.run thread context ⟨k, a⟩))) := by
  simp only [Simulation.testCondition, hbody]
  rfl

theorem member?_potion (kind : PotionKind) (v : Value) (rest : List Value) :
    (⟨v :: .member (PotionKind.enumeration.value kind) :: rest⟩ : Arguments).member?
      PotionKind.enumeration 1 = some kind := by
  cases kind <;> rfl

theorem member?_time (time : TimeOfDay) (rest : List Value) :
    (⟨.member (TimeOfDay.enumeration.value time) :: rest⟩ : Arguments).member?
      TimeOfDay.enumeration 0 = some time := by
  cases time <;> rfl

/-- A whole number from zero on, as the integer width has them, is a count. -/
theorem count?_of_zero_le {n : Whole .integer} (h : 0 ≤ n.val) :
    ∃ count : UInt32, (count.toNat : Int) = n.val ∧ count? n.val = some count :=
  count?_of_nonNegative (by rwa [isNonNegative_whole, Binary.zero_le_ofInt_iff])

theorem subject_of_reaches {k : Keyword Ability} {t : Targeter} {rest : List Value} {scene : Scene}
    (h : Reaches context scene k ⟨.targeter t :: rest⟩) (hk : k.name ≠ lightning.name) :
    ∃ id, context.entity? t = some id := by
  obtain ⟨_, ⟨⟩, hresolved⟩ := h
  rw [if_neg hk] at hresolved
  exact Option.isSome_iff_exists.1 hresolved

variable (thread s) in
/-- A call that sets on fire does so for the number of ticks that it stores. -/
theorem runKeyword_kindle {t : Targeter} {id : EntityId} {ticks : Whole .integer}
    (hid : context.entity? t = some id) (hticks : 0 ≤ ticks.val) :
    ∃ count : UInt32, (count.toNat : Int) = ticks.val ∧
      s.runKeyword thread ⟨kindle, ⟨[.targeter t, .whole .integer ticks]⟩⟩ context =
        { s.record (.ran (KeywordCall.run thread context
            ⟨kindle, ⟨[.targeter t, .whole .integer ticks]⟩⟩)) with
          scene := s.scene.modifyEntity id (Entity.setFireTicks count) } := by
  obtain ⟨count, hcount, hread⟩ := count?_of_zero_le hticks
  have hchange := congrArg (Option.map EntityChange.setFireTicks) hread
  exact ⟨count, hcount, runKeyword_of_onEntity (body_onTarget ⟨_, rfl, hid⟩ hchange) rfl⟩

variable (thread s) in
/-- A call that gives an effect gives it with the numbers that it stores. -/
theorem runKeyword_effect {t : Targeter} {id : EntityId} (kind : PotionKind)
    {duration level : Whole .integer} (hid : context.entity? t = some id)
    (hduration : 0 ≤ duration.val) (hlevel : 0 ≤ level.val) :
    ∃ length amplifier : UInt32, (length.toNat : Int) = duration.val ∧
      (amplifier.toNat : Int) = level.val ∧
      s.runKeyword thread ⟨effect, ⟨[.targeter t, .member (PotionKind.enumeration.value kind),
          .whole .integer duration, .whole .integer level]⟩⟩ context =
        { s.record (.ran (KeywordCall.run thread context
            ⟨effect, ⟨[.targeter t, .member (PotionKind.enumeration.value kind),
              .whole .integer duration, .whole .integer level]⟩⟩)) with
          scene := s.scene.modifyEntity id (Entity.addEffect ⟨kind, length, amplifier⟩) } := by
  obtain ⟨length, hlength, hread⟩ := count?_of_zero_le hduration
  obtain ⟨amplifier, hamplifier, hread'⟩ := count?_of_zero_le hlevel
  have hbody : Builtin.effect.body context
      ⟨[.targeter t, .member (PotionKind.enumeration.value kind), .whole .integer duration,
        .whole .integer level]⟩ s.scene =
        [.onEntity id (.addEffect ⟨kind, length, amplifier⟩)] := by
    refine body_onTarget ⟨t, rfl, hid⟩ ?_
    simp [member?_potion, Arguments.whole?, Arguments.get?, Value.asWhole?, hread, hread']
  exact ⟨length, amplifier, hlength, hamplifier, runKeyword_of_onEntity hbody rfl⟩

/-- A call of a built-in keyword performs its operation wherever its subject is present. -/
theorem KeywordValues.performs {k : Keyword Ability} {values : List Value}
    (h : KeywordValues k values) (hreach : Reaches context s.scene k ⟨values⟩) :
    ∃ scene, Performs context s.scene k values scene ∧
      s.runKeyword thread ⟨k, ⟨values⟩⟩ context =
        { s.record (.ran (KeywordCall.run thread context ⟨k, ⟨values⟩⟩)) with scene := scene } := by
  cases h with
  | damage =>
    obtain ⟨id, hid⟩ := subject_of_reaches hreach (by decide)
    exact ⟨_, .damage hid, runKeyword_of_onEntity (body_onTarget ⟨_, rfl, hid⟩ rfl) rfl⟩
  | heal =>
    obtain ⟨id, hid⟩ := subject_of_reaches hreach (by decide)
    exact ⟨_, .heal hid, runKeyword_of_onEntity (body_onTarget ⟨_, rfl, hid⟩ rfl) rfl⟩
  | setHealth =>
    obtain ⟨id, hid⟩ := subject_of_reaches hreach (by decide)
    exact ⟨_, .setHealth hid, runKeyword_of_onEntity (body_onTarget ⟨_, rfl, hid⟩ rfl) rfl⟩
  | healPercent =>
    obtain ⟨id, hid⟩ := subject_of_reaches hreach (by decide)
    exact ⟨_, .healPercent hid, runKeyword_of_onEntity (body_onTarget ⟨_, rfl, hid⟩ rfl) rfl⟩
  | damagePercent =>
    obtain ⟨id, hid⟩ := subject_of_reaches hreach (by decide)
    exact ⟨_, .damagePercent hid, runKeyword_of_onEntity (body_onTarget ⟨_, rfl, hid⟩ rfl) rfl⟩
  | kindle _ hticks =>
    obtain ⟨id, hid⟩ := subject_of_reaches hreach (by decide)
    obtain ⟨count, hcount, hrun⟩ := runKeyword_kindle thread s hid hticks
    exact ⟨_, .kindle hid hcount, hrun⟩
  | @feed food x =>
    obtain ⟨id, hid⟩ := subject_of_reaches hreach (by decide)
    have hbody : Builtin.feed.body context
        ⟨[.targeter .player, .whole .integer food, .double x]⟩ s.scene =
          [.onEntity id (.feed food.val x.convert)] := by
      simp [Builtin.feed, onTarget, target, hid, food.property, Arguments.targeter?,
        Arguments.whole?, Arguments.double?, Arguments.get?, Value.asTargeter?, Value.asWhole?,
        Value.asDouble?]
    exact ⟨_, .feed hid, runKeyword_of_onEntity hbody rfl⟩
  | effect _ hduration hlevel =>
    obtain ⟨id, hid⟩ := subject_of_reaches hreach (by decide)
    obtain ⟨length, amplifier, hlength, hamplifier, hrun⟩ :=
      runKeyword_effect thread s _ hid hduration hlevel
    exact ⟨_, .effect hid hlength hamplifier, hrun⟩
  | @lightning t =>
    -- Any targeter will do here, so what is resolved is a place.
    obtain ⟨_, ⟨⟩, hresolved⟩ := hreach
    rw [if_pos rfl] at hresolved
    obtain ⟨location, hlocation⟩ := Option.isSome_iff_exists.1 hresolved
    have hbody : Builtin.lightning.body context ⟨[.targeter t]⟩ s.scene =
        [.onWorld (.strike location)] := by
      simp [Builtin.lightning, hlocation, Arguments.targeter?, Arguments.get?, Value.asTargeter?]
    exact ⟨_, .lightning hlocation, runKeyword_of_onWorld hbody⟩
  | @message t text =>
    obtain ⟨id, hid⟩ := subject_of_reaches hreach (by decide)
    have hbody : Builtin.message.body context ⟨[.targeter t, .string text]⟩ s.scene =
        [.onEntity id (.sendMessage text)] := by
      simp [Builtin.message, onTarget, target, hid, Arguments.targeter?, Arguments.string?,
        Arguments.get?, Value.asTargeter?, Value.asString?]
    exact ⟨_, .message hid, runKeyword_of_onEntity hbody rfl⟩

/-- A call of a built-in condition answers its question wherever its subject is present. -/
theorem ConditionValues.asks {k : Condition Ability} {values : List Value}
    (h : ConditionValues k values) (hpresent : Consults context ⟨values⟩) :
    ∃ question answer, Asks context s.scene k values question ∧ (answer = true ↔ question) ∧
      s.testCondition thread ⟨k, ⟨values⟩⟩ context =
        (answer, s.record (.ran (ConditionCall.run thread context ⟨k, ⟨values⟩⟩))) := by
  cases h with
  | @isTime time =>
    refine ⟨_, s.scene.world.timeOfDay == time, .isTime, beq_iff_eq, testCondition_of_answer ?_⟩
    simp [Builtin.isTime, member?_time]
  | isBurning =>
    obtain ⟨id, hid⟩ := Option.isSome_iff_exists.1 (hpresent _ rfl)
    exact ⟨_, _, .isBurning hid, decide_eq_true_iff,
      testCondition_of_answer (body_ofTarget ⟨_, rfl, hid⟩)⟩
  | healthAbove =>
    obtain ⟨id, hid⟩ := Option.isSome_iff_exists.1 (hpresent _ rfl)
    exact ⟨_, _, .healthAbove hid, Iff.rfl,
      testCondition_of_answer (body_ofTarget ⟨_, rfl, hid⟩)⟩

end Effect

structure SoundKeyword (call : KeywordCall Ability) : Prop where
  values : KeywordValues call.keyword call.arguments.values
  same : call.same call = true
  performs : ∀ thread context (s : Simulation),
    Reaches context s.scene call.keyword call.arguments →
      ∃ scene, Performs context s.scene call.keyword call.arguments.values scene ∧
        s.runKeyword thread call context =
          { s.record (.ran (call.run thread context)) with scene := scene }

theorem soundKeyword_of_typed {call : KeywordCall Ability} (hk : call.keyword ∈ keywords)
    (h : call.arguments.Typed call.keyword.schema) : SoundKeyword call := by
  have hvalues := keywordValues_of_typed hk h
  refine ⟨hvalues, ?_, fun thread context s hreach => hvalues.performs hreach⟩
  rw [KeywordCall.same, beq_self_eq_true, Bool.true_and]
  exact same_values hvalues.same

end AbilityScript.Builtin
