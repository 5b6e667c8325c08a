import AbilityScript.Text.Ascii
import AbilityScript.Text.Blank

namespace AbilityScript

open Text

inductive Targeter where
  | player
  | entity
  | block
  deriving DecidableEq, Repr

namespace Targeter

def all : List Targeter :=
  [player, entity, block]

def identifier : Targeter → String
  | player => "?player"
  | entity => "?entity"
  | block => "?block"

def words : Targeter → List String
  | player => ["player", "self"]
  | entity => ["entity", "target"]
  | block => ["block"]

def dropMark : List Char → List Char
  | '?' :: cs => cs
  | '@' :: cs => cs
  | cs => cs

def ofText? (text : String) : Option Targeter :=
  let word := String.ofList (dropMark (trimChars text.toList |>.map Char.toLower))
  all.find? fun t => t.words.contains word

theorem mem_all (t : Targeter) : t ∈ all := by
  cases t <;> simp [all]

end Targeter

structure Capabilities where
  player : Bool
  entity : Bool
  block : Bool
  deriving DecidableEq, Repr

namespace Capabilities

def empty : Capabilities := ⟨false, false, false⟩

def singleton : Targeter → Capabilities
  | .player => ⟨true, false, false⟩
  | .entity => ⟨false, true, false⟩
  | .block => ⟨false, false, true⟩

def has (s : Capabilities) : Targeter → Bool
  | .player => s.player
  | .entity => s.entity
  | .block => s.block

instance : Membership Targeter Capabilities := ⟨fun s t => s.has t = true⟩

instance (t : Targeter) (s : Capabilities) : Decidable (t ∈ s) :=
  inferInstanceAs (Decidable (s.has t = true))

def union (s t : Capabilities) : Capabilities :=
  ⟨s.player || t.player, s.entity || t.entity, s.block || t.block⟩

instance : Union Capabilities := ⟨union⟩

def diff (s t : Capabilities) : Capabilities :=
  ⟨s.player && !t.player, s.entity && !t.entity, s.block && !t.block⟩

def contains (s t : Capabilities) : Bool :=
  Targeter.all.all fun m => !t.has m || s.has m

def intersects (s t : Capabilities) : Bool :=
  Targeter.all.any fun m => s.has m && t.has m

def toList (s : Capabilities) : List Targeter :=
  Targeter.all.filter s.has

def ofList (targeters : List Targeter) : Capabilities :=
  targeters.foldl (fun s t => s ∪ singleton t) empty

def bits (s : Capabilities) : Nat :=
  (if s.player then 1 else 0) + (if s.entity then 2 else 0) + (if s.block then 4 else 0)

def memberWord : Targeter → String
  | .player => "PLAYER"
  | .entity => "ENTITY"
  | .block => "BLOCK"

def text (s : Capabilities) : String :=
  match s.toList with
  | [] => "Capabilities(0x0)"
  | members => "Capabilities(" ++ " | ".intercalate (members.map memberWord) ++ ")"

@[simp] theorem mem_def (t : Targeter) (s : Capabilities) : t ∈ s ↔ s.has t = true := Iff.rfl

@[simp] theorem has_union (s t : Capabilities) (m : Targeter) :
    (s ∪ t).has m = (s.has m || t.has m) := by
  cases m <;> rfl

@[simp] theorem has_diff (s t : Capabilities) (m : Targeter) :
    (s.diff t).has m = (s.has m && !t.has m) := by
  cases m <;> rfl

@[simp] theorem has_empty (m : Targeter) : empty.has m = false := by
  cases m <;> rfl

@[simp] theorem has_singleton (t m : Targeter) : (singleton t).has m = (t == m) := by
  cases t <;> cases m <;> rfl

theorem ext_has {s t : Capabilities} (h : ∀ m, s.has m = t.has m) : s = t := by
  cases s
  cases t
  have hp := h .player
  have he := h .entity
  have hb := h .block
  simp_all [has]

end Capabilities

end AbilityScript
