import AbilityScript.Proofs.Resolution

namespace AbilityScript

open Number

namespace Enumeration

variable {α : Type}

/-- The value of a member reads back as the first member with the same spelling. -/
theorem read?_value (e : Enumeration α) {m : α} (hm : m ∈ e.members) :
    ∃ first ∈ e.members, e.read? (e.value m) = some first ∧ e.spelling first = e.spelling m := by
  have hfound : ∃ i, e.members.findIdx? (fun o => e.spelling o == e.spelling m) = some i := by
    refine Option.isSome_iff_exists.1 ?_
    simpa using ⟨m, hm, rfl⟩
  obtain ⟨i, hi⟩ := hfound
  obtain ⟨hlt, hspelling, -⟩ := List.findIdx?_eq_some_iff_getElem.1 hi
  refine ⟨e.members[i], List.getElem_mem hlt, ?_, by simpa using hspelling⟩
  simp [read?, value, hi, hlt]

/-- The enumeration of the spellings gives a member the value that the enumeration itself gives. -/
theorem value_spellings (e : Enumeration α) (m : α) :
    e.spellings.value (e.spelling m) = e.value m := by
  simp [value, spellings, List.findIdx?_map, Function.comp_def]

/-- A text read against the spellings of an enumeration is the value of one of its members. -/
theorem parse?_spellings {e : Enumeration α} {text : String} {v : EnumValue}
    (h : e.spellings.parse? text = some v) : ∃ m ∈ e.members, v = e.value m := by
  obtain ⟨spelling, hfound, rfl⟩ := Option.map_eq_some_iff.1 h
  obtain ⟨m, hm, rfl⟩ := List.mem_map.1 (List.mem_of_find?_eq_some hfound)
  exact ⟨m, hm, value_spellings e m⟩

end Enumeration

namespace PrimitiveKind

def Holds : PrimitiveKind → Value → Prop
  | whole w, v => ∃ n : Whole w, v = .whole w n
  | float, v => ∃ x : Binary32, x.isFinite = true ∧ v = .float x
  | double, v => ∃ x : Binary64, x.isFinite = true ∧ v = .double x
  | boolean, v => ∃ b, v = .boolean b
  | char, v => ∃ c, v = .char c
  | string, v => ∃ s, v = .string s

theorem holds_of_parse? {kind : PrimitiveKind} {raw : String} {v : Value}
    (h : kind.parse? raw = some v) : kind.Holds v := by
  cases kind with
  | whole w =>
    obtain ⟨n, -, rfl⟩ := Option.map_eq_some_iff.1 h
    exact ⟨n, rfl⟩
  | float =>
    obtain ⟨x, hx, rfl⟩ := Option.map_eq_some_iff.1 h
    exact ⟨x, Format.isFinite_of_parse? hx, rfl⟩
  | double =>
    obtain ⟨x, hx, rfl⟩ := Option.map_eq_some_iff.1 h
    exact ⟨x, Format.isFinite_of_parse? hx, rfl⟩
  | boolean =>
    simp only [parse?] at h
    split at h
    · exact ⟨true, (Option.some.inj h).symm⟩
    · split at h
      · exact ⟨false, (Option.some.inj h).symm⟩
      · cases h
  | char =>
    simp only [parse?] at h
    split at h
    · exact ⟨_, (Option.some.inj h).symm⟩
    · cases h
  | string => exact ⟨_, (Option.some.inj h).symm⟩

end PrimitiveKind

namespace Schema

def Declares : Schema → Value → Prop
  | primitive kind accepts _, v => kind.Holds v ∧ accepts.all (· v) = true
  | choice members _, v => ∃ text m, members.parse? text = some m ∧ v = .member m
  | targeter allowed, v => ∃ t, allowed.has t = true ∧ v = .targeter t
  | values kind, v => kind.Holds v
  | manual _ read, v => ∃ text, read text = some v

/-- What a schema reads is of the type that it declares. -/
theorem declares_of_read {s : Schema} {raw : String} {v : Value} (h : s.read raw = .ok v) :
    s.Declares v := by
  obtain ⟨hconvert, hrefuses⟩ := (s.read_eq_ok_iff raw v).1 h
  cases s with
  | primitive kind accepts label =>
    refine ⟨PrimitiveKind.holds_of_parse? hconvert, ?_⟩
    cases accepts with
    | none => rfl
    | some accepts => simpa [refuses] using hrefuses
  | choice members label =>
    obtain ⟨m, hm, rfl⟩ := Option.map_eq_some_iff.1 hconvert
    exact ⟨raw, m, hm, rfl⟩
  | targeter allowed =>
    obtain ⟨t, ht, rfl⟩ := Option.map_eq_some_iff.1 hconvert
    exact ⟨t, (Option.filter_eq_some_iff.1 ht).2, rfl⟩
  | values kind => exact PrimitiveKind.holds_of_parse? hconvert
  | manual label read => exact ⟨raw, hconvert⟩

end Schema

namespace Arguments

def Typed (schemas : List Schema) (a : Arguments) : Prop :=
  List.Forall₂ Schema.Declares schemas a.values

/-- Resolution of as many tokens as there are schemas gives typed arguments. -/
theorem typed_of_resolve {schemas : List Schema} {tokens : List String} {a : Arguments}
    (hlen : schemas.length = tokens.length) (h : resolve schemas tokens = .ok a) :
    a.Typed schemas := by
  obtain ⟨hcount, hresolved⟩ := (resolve_eq_ok_iff hlen a).1 h
  -- There are as many tokens as schemas, so no value is left without its schema and its token.
  refine List.forall₂_iff_get.2 ⟨hcount.symm, fun i hi hi' => ?_⟩
  have hraw : i < tokens.length := hlen ▸ hi
  obtain ⟨v, hv, hok⟩ := hresolved i schemas[i] tokens[i] (List.getElem?_eq_getElem hi)
    (List.getElem?_eq_getElem hraw)
  obtain rfl : a.values[i] = v := by simpa [List.getElem?_eq_getElem hi'] using hv
  exact Schema.declares_of_read ((Schema.resolve_eq_ok_iff _ _ i _).1 hok)

namespace Typed

variable {schemas : List Schema} {a : Arguments} {i : Nat}

/-- At the place of each schema there is a value that it declares. -/
theorem get? (h : a.Typed schemas) {s : Schema} (hs : schemas[i]? = some s) :
    ∃ v, a.get? i = some v ∧ s.Declares v := by
  obtain ⟨hlen, hall⟩ := List.forall₂_iff_get.1 h
  obtain ⟨hi, rfl⟩ := List.getElem?_eq_some_iff.1 hs
  have hi' : i < a.values.length := hlen ▸ hi
  exact ⟨a.values[i], List.getElem?_eq_getElem hi', hall i hi hi'⟩

theorem targeter? (h : a.Typed schemas) {allowed : Capabilities}
    (hs : schemas[i]? = some (.targeter allowed)) :
    ∃ t, a.targeter? i = some t ∧ allowed.has t = true := by
  obtain ⟨v, hv, t, ht, rfl⟩ := h.get? hs
  exact ⟨t, by simp [Arguments.targeter?, hv, Value.asTargeter?], ht⟩

theorem double? (h : a.Typed schemas) {accepts : Option (Value → Bool)} {label : Option String}
    (hs : schemas[i]? = some (.primitive .double accepts label)) :
    ∃ x, a.double? i = some x ∧ x.isFinite = true ∧ accepts.all (· (.double x)) = true := by
  obtain ⟨v, hv, ⟨x, hx, rfl⟩, haccepts⟩ := h.get? hs
  exact ⟨x, by simp [Arguments.double?, hv, Value.asDouble?], hx, haccepts⟩

theorem whole? (h : a.Typed schemas) {w : Width} {accepts : Option (Value → Bool)}
    {label : Option String} (hs : schemas[i]? = some (.primitive (.whole w) accepts label)) :
    ∃ n : Whole w, a.whole? i = some n.val ∧ accepts.all (· (.whole w n)) = true := by
  obtain ⟨v, hv, ⟨n, rfl⟩, haccepts⟩ := h.get? hs
  exact ⟨n, by simp [Arguments.whole?, hv, Value.asWhole?], haccepts⟩

theorem string? (h : a.Typed schemas) {accepts : Option (Value → Bool)} {label : Option String}
    (hs : schemas[i]? = some (.primitive .string accepts label)) :
    ∃ text, a.string? i = some text := by
  obtain ⟨v, hv, ⟨text, rfl⟩, -⟩ := h.get? hs
  exact ⟨text, by simp [Arguments.string?, hv, Value.asString?]⟩

/-- A value read against the spellings of an enumeration is one of its members. -/
theorem member? {α : Type} (h : a.Typed schemas) {e : Enumeration α} {label : Option String}
    (hs : schemas[i]? = some (.choice e.spellings label)) :
    ∃ m ∈ e.members, a.member? e i = some m := by
  obtain ⟨v, hv, text, value, hvalue, rfl⟩ := h.get? hs
  -- Members may share a spelling, so what is read back is the first member that has it.
  obtain ⟨m, hm, rfl⟩ := Enumeration.parse?_spellings hvalue
  obtain ⟨first, hfirst, hread, -⟩ := e.read?_value hm
  exact ⟨first, hfirst, by simp [Arguments.member?, hv, Value.asMember?, hread]⟩

end Typed

end Arguments

end AbilityScript
