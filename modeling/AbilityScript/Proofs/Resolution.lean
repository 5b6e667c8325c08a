import AbilityScript.Arguments
import Mathlib.Data.List.Forall2

namespace AbilityScript

open Number

namespace Schema

def convert? : Schema → String → Option Value
  | primitive kind _ _, raw => kind.parse? raw
  | choice members _, raw => (members.parse? raw).map .member
  | targeter allowed, raw => ((Targeter.ofText? raw).filter allowed.has).map .targeter
  | values kind, raw => kind.parse? raw
  | manual _ read, raw => read raw

def refuses : Schema → Value → Bool
  | primitive _ (some accepts) _, v => !accepts v
  | _, _ => false

def Accepts (s : Schema) (raw : String) : Prop :=
  ∃ v, s.convert? raw = some v ∧ s.refuses v = false

/-- Reading is conversion followed by restriction, whatever the kind of schema. -/
theorem read_eq_convert (s : Schema) (raw : String) :
    s.read raw =
      match s.convert? raw with
      | none => .error .invalid
      | some v => if s.refuses v then .error .rejected else .ok v := by
  cases s with
  | primitive kind accepts label =>
    cases hp : kind.parse? raw with
    | none => simp [read, convert?, hp]
    | some v =>
      cases accepts with
      | none => simp [read, convert?, refuses, hp]
      | some accepts => by_cases ha : accepts v = true <;> simp [read, convert?, refuses, hp, ha]
  | choice members label => cases hp : members.parse? raw <;> simp [read, convert?, refuses, hp]
  | targeter allowed =>
    cases hp : (Targeter.ofText? raw).filter allowed.has <;> simp [read, convert?, refuses, hp]
  | values kind => cases hp : kind.parse? raw <;> simp [read, convert?, refuses, hp]
  | manual label f => cases hp : f raw <;> simp [read, convert?, refuses, hp]

theorem read_eq_ok_iff (s : Schema) (raw : String) (v : Value) :
    s.read raw = .ok v ↔ s.convert? raw = some v ∧ s.refuses v = false := by
  rw [read_eq_convert]
  cases hc : s.convert? raw with
  | none => simp
  | some w =>
    by_cases hr : s.refuses w = true
    · simp only [hr, if_true, reduceCtorEq, false_iff, Option.some.injEq, not_and]
      rintro rfl
      simp [hr]
    · simp only [hr, Bool.false_eq_true, if_false, Except.ok.injEq, Option.some.injEq]
      constructor
      · rintro rfl
        exact ⟨rfl, by simpa using hr⟩
      · exact fun h => h.1

/-- Only a converted value is rejected. -/
theorem read_eq_rejected_iff (s : Schema) (raw : String) :
    s.read raw = .error .rejected ↔ ∃ v, s.convert? raw = some v ∧ s.refuses v = true := by
  rw [read_eq_convert]
  cases hc : s.convert? raw with
  | none => simp
  | some w => by_cases hr : s.refuses w = true <;> simp [hr]

theorem read_eq_invalid_iff (s : Schema) (raw : String) :
    s.read raw = .error .invalid ↔ s.convert? raw = none := by
  rw [read_eq_convert]
  cases hc : s.convert? raw with
  | none => simp
  | some w => by_cases hr : s.refuses w = true <;> simp [hr]

theorem accepts_iff (s : Schema) (raw : String) : s.Accepts raw ↔ ∃ v, s.read raw = .ok v := by
  simp only [Accepts, read_eq_ok_iff]

theorem resolve_eq_ok_iff (s : Schema) (raw : String) (position : Nat) (v : Value) :
    s.resolve raw position = .ok v ↔ s.read raw = .ok v := by
  cases h : s.read raw <;> simp [resolve, h, Except.mapError]

theorem resolve_eq_error_iff (s : Schema) (raw : String) (position : Nat) (e : ArgumentError) :
    s.resolve raw position = .error e ↔
      ∃ fault, s.read raw = .error fault ∧ e = ⟨fault, position, raw, s.expected⟩ := by
  cases h : s.read raw <;> simp [resolve, h, Except.mapError, eq_comm]

end Schema

namespace Arguments

def AcceptedAt (schemas : List Schema) (tokens : List String) (i : Nat) : Prop :=
  ∃ s raw, schemas[i]? = some s ∧ tokens[i]? = some raw ∧ s.Accepts raw

structure FirstFault (schemas : List Schema) (tokens : List String) (i : Nat) (s : Schema)
    (raw : String) : Prop where
  schema : schemas[i]? = some s
  token : tokens[i]? = some raw
  refused : ¬ s.Accepts raw
  earlier : ∀ j < i, AcceptedAt schemas tokens j

theorem firstFault_zero (s t : Schema) (raw text : String) (schemas : List Schema)
    (tokens : List String) :
    FirstFault (s :: schemas) (raw :: tokens) 0 t text ↔ t = s ∧ text = raw ∧ ¬ s.Accepts raw := by
  constructor
  · rintro ⟨hs, hraw, hr, -⟩
    obtain rfl : s = t := by simpa using hs
    obtain rfl : raw = text := by simpa using hraw
    exact ⟨rfl, rfl, hr⟩
  · rintro ⟨rfl, rfl, hr⟩
    exact ⟨rfl, rfl, hr, fun j hj => absurd hj (Nat.not_lt_zero j)⟩

theorem firstFault_succ (s t : Schema) (raw text : String) (schemas : List Schema)
    (tokens : List String) (i : Nat) :
    FirstFault (s :: schemas) (raw :: tokens) (i + 1) t text ↔
      s.Accepts raw ∧ FirstFault schemas tokens i t text := by
  constructor
  · rintro ⟨hs, hraw, hr, hearlier⟩
    obtain ⟨s', raw', hs', hraw', haccepts⟩ := hearlier 0 (Nat.succ_pos i)
    obtain rfl : s = s' := by simpa using hs'
    obtain rfl : raw = raw' := by simpa using hraw'
    refine ⟨haccepts, by simpa using hs, by simpa using hraw, hr, fun j hj => ?_⟩
    simpa [AcceptedAt] using hearlier (j + 1) (by omega)
  · rintro ⟨haccepts, hs, hraw, hr, hearlier⟩
    refine ⟨by simpa using hs, by simpa using hraw, hr, fun j hj => ?_⟩
    cases j with
    | zero => exact ⟨s, raw, rfl, rfl, haccepts⟩
    | succ j => simpa [AcceptedAt] using hearlier j (by omega)

theorem resolveFrom_nil (position : Nat) (tokens : List String) :
    resolveFrom position [] tokens = .ok [] := by
  rw [resolveFrom]
  rintro s schemas raw rest ⟨⟩

theorem resolveFrom_cons_eq_ok_iff (position : Nat) (s : Schema) (raw : String)
    (schemas : List Schema) (tokens : List String) (values : List Value) :
    resolveFrom position (s :: schemas) (raw :: tokens) = .ok values ↔
      ∃ v rest, s.read raw = .ok v ∧ resolveFrom (position + 1) schemas tokens = .ok rest ∧
        values = v :: rest := by
  cases hv : s.read raw <;> cases hrest : resolveFrom (position + 1) schemas tokens <;>
    simp [resolveFrom, Schema.resolve, Except.mapError, Except.map, hv, hrest, eq_comm]

theorem resolveFrom_cons_eq_error_iff (position : Nat) (s : Schema) (raw : String)
    (schemas : List Schema) (tokens : List String) (e : ArgumentError) :
    resolveFrom position (s :: schemas) (raw :: tokens) = .error e ↔
      (∃ fault, s.read raw = .error fault ∧ e = ⟨fault, position, raw, s.expected⟩) ∨
        s.Accepts raw ∧ resolveFrom (position + 1) schemas tokens = .error e := by
  rw [Schema.accepts_iff]
  cases hv : s.read raw <;> cases hrest : resolveFrom (position + 1) schemas tokens <;>
    simp [resolveFrom, Schema.resolve, Except.mapError, Except.map, hv, hrest, eq_comm]

/-- Resolution succeeds just when each schema reads the token at its place, and then the values are
what the schemas read, as many as there are schemas. -/
theorem resolveFrom_eq_ok_iff (position : Nat) (schemas : List Schema) (tokens : List String)
    (values : List Value) (hlen : schemas.length = tokens.length) :
    resolveFrom position schemas tokens = .ok values ↔
      values.length = schemas.length ∧
        ∀ (i : Nat) (s : Schema) (raw : String), schemas[i]? = some s → tokens[i]? = some raw →
          ∃ v, values[i]? = some v ∧ s.read raw = .ok v := by
  -- The position is generalized, since each step of the recursion counts it on.
  induction schemas generalizing position tokens values with
  | nil => simp [resolveFrom, eq_comm]
  | cons s schemas ih =>
    obtain ⟨raw, tokens, rfl⟩ := List.exists_cons_of_length_eq_add_one hlen.symm
    have hlen' : schemas.length = tokens.length := by simpa using hlen
    rw [resolveFrom_cons_eq_ok_iff]
    constructor
    · rintro ⟨v, rest, hv, hrest, rfl⟩
      obtain ⟨hcount, hread⟩ := (ih (position + 1) tokens rest hlen').1 hrest
      refine ⟨by simp [hcount], fun i s' raw' hs hraw => ?_⟩
      cases i with
      | zero =>
        obtain rfl : s = s' := by simpa using hs
        obtain rfl : raw = raw' := by simpa using hraw
        exact ⟨v, rfl, hv⟩
      | succ i => simpa using hread i s' raw' (by simpa using hs) (by simpa using hraw)
    · rintro ⟨hcount, hread⟩
      obtain ⟨v, rest, rfl⟩ := List.exists_cons_of_length_eq_add_one hcount
      obtain ⟨w, hw, hv⟩ := hread 0 s raw rfl rfl
      obtain rfl : v = w := by simpa using hw
      refine ⟨v, rest, hv, (ih (position + 1) tokens rest hlen').2 ⟨by simpa using hcount, ?_⟩, rfl⟩
      intro i s' raw' hs hraw
      simpa using hread (i + 1) s' raw' (by simpa using hs) (by simpa using hraw)

/-- Resolution fails just when some token does, and it reports the first that does, with its place,
its text and what was expected of it. -/
theorem resolveFrom_eq_error_iff (position : Nat) (schemas : List Schema) (tokens : List String)
    (e : ArgumentError) :
    resolveFrom position schemas tokens = .error e ↔
      ∃ i s raw fault, FirstFault schemas tokens i s raw ∧ s.read raw = .error fault ∧
        e = ⟨fault, position + i, raw, s.expected⟩ := by
  induction schemas generalizing position tokens with
  | nil =>
    simp only [resolveFrom, reduceCtorEq, false_iff, not_exists, not_and]
    intro i s raw fault h
    simpa using h.schema
  | cons s schemas ih =>
    cases tokens with
    | nil =>
      simp only [resolveFrom, reduceCtorEq, false_iff, not_exists, not_and]
      intro i t raw fault h
      simpa using h.token
    | cons raw tokens =>
      rw [resolveFrom_cons_eq_error_iff, ih]
      constructor
      -- Either the head fails, and is the first, or it is accepted and the first is in the tail.
      · rintro (⟨fault, hfault, rfl⟩ | ⟨haccepts, i, t, text, fault, hfirst, hfault, rfl⟩)
        · have hrefused : ¬ s.Accepts raw := by
            rw [Schema.accepts_iff, hfault]
            simp
          have hfirst := (firstFault_zero s s raw raw schemas tokens).2 ⟨rfl, rfl, hrefused⟩
          exact ⟨0, s, raw, fault, hfirst, hfault, rfl⟩
        · refine ⟨i + 1, t, text, fault, (firstFault_succ _ _ _ _ _ _ _).2 ⟨haccepts, hfirst⟩,
            hfault, ?_⟩
          rw [Nat.add_right_comm, Nat.add_assoc]
      · rintro ⟨i, t, text, fault, hfirst, hfault, rfl⟩
        cases i with
        | zero =>
          obtain ⟨rfl, rfl, -⟩ := (firstFault_zero _ _ _ _ _ _).1 hfirst
          exact .inl ⟨fault, hfault, rfl⟩
        | succ i =>
          obtain ⟨haccepts, hfirst⟩ := (firstFault_succ _ _ _ _ _ _ _).1 hfirst
          refine .inr ⟨haccepts, i, t, text, fault, hfirst, hfault, ?_⟩
          rw [Nat.add_right_comm, Nat.add_assoc]

theorem resolve_eq_ok_iff_values (schemas : List Schema) (tokens : List String) (a : Arguments) :
    resolve schemas tokens = .ok a ↔ resolveFrom 0 schemas tokens = .ok a.values := by
  obtain ⟨values⟩ := a
  cases h : resolveFrom 0 schemas tokens <;> simp [resolve, h, Except.map]

theorem resolve_eq_error_iff_from (schemas : List Schema) (tokens : List String)
    (e : ArgumentError) :
    resolve schemas tokens = .error e ↔ resolveFrom 0 schemas tokens = .error e := by
  cases h : resolveFrom 0 schemas tokens <;> simp [resolve, h, Except.map]

/-- The tokens of a call resolve to values just when each schema resolves the token at its place. -/
theorem resolve_eq_ok_iff {schemas : List Schema} {tokens : List String}
    (hlen : schemas.length = tokens.length) (a : Arguments) :
    resolve schemas tokens = .ok a ↔
      a.values.length = schemas.length ∧
        ∀ (i : Nat) (s : Schema) (raw : String), schemas[i]? = some s → tokens[i]? = some raw →
          ∃ v, a.values[i]? = some v ∧ s.resolve raw i = .ok v := by
  rw [resolve_eq_ok_iff_values, resolveFrom_eq_ok_iff 0 schemas tokens a.values hlen]
  simp only [Schema.resolve_eq_ok_iff]

/-- The tokens of a call fail to resolve just when there is a first that is not accepted. -/
theorem resolve_eq_error_iff {schemas : List Schema} {tokens : List String} (e : ArgumentError) :
    resolve schemas tokens = .error e ↔
      ∃ i s raw fault, FirstFault schemas tokens i s raw ∧ s.read raw = .error fault ∧
        e = ⟨fault, i, raw, s.expected⟩ := by
  rw [resolve_eq_error_iff_from, resolveFrom_eq_error_iff]
  simp only [Nat.zero_add]

end Arguments

end AbilityScript
