import AbilityScript.Scene.Interaction
import AbilityScript.Text.Ascii

namespace AbilityScript

open Text

inductive TimeOfDay where
  | sunrise
  | day
  | sunset
  | night
  deriving DecidableEq, Repr

namespace TimeOfDay

def all : List TimeOfDay :=
  [sunrise, day, sunset, night]

def name : TimeOfDay → String
  | sunrise => "sunrise"
  | day => "day"
  | sunset => "sunset"
  | night => "night"

def words : TimeOfDay → List String
  | sunrise => ["sunrise", "dawn"]
  | day => ["day", "noon", "midday"]
  | sunset => ["sunset", "dusk"]
  | night => ["night", "midnight"]

def ofWord? (word : String) : Option TimeOfDay :=
  all.find? fun t => t.words.contains (lower word)

def dayLength : Nat := 24000

def ofTicks (ticks : Nat) : TimeOfDay :=
  let t := ticks % dayLength
  if t < 12000 then day
  else if t < 13000 then sunset
  else if t < 23000 then night
  else sunrise

end TimeOfDay

structure World where
  name : String
  clock : UInt64
  strikes : List Location
  deriving DecidableEq

namespace World

def new (name : String) : World := ⟨name, 0, []⟩

def fullTime (w : World) : Nat :=
  w.clock.toNat

def time (w : World) : Nat :=
  w.fullTime % TimeOfDay.dayLength

def timeOfDay (w : World) : TimeOfDay :=
  .ofTicks w.time

def setTime (ticks : Nat) (w : World) : World :=
  { w with clock := .ofNat ticks }

/-- After its greatest word the clock goes on from zero. -/
def advance (ticks : Nat) (w : World) : World :=
  { w with clock := w.clock + .ofNat ticks }

def strike (location : Location) (w : World) : World :=
  { w with strikes := w.strikes ++ [location] }

@[simp] theorem fullTime_new (name : String) : (new name).fullTime = 0 := rfl

@[simp] theorem fullTime_setTime (ticks : Nat) (w : World) :
    (w.setTime ticks).fullTime = ticks % UInt64.size :=
  UInt64.toNat_ofNat'

@[simp] theorem fullTime_advance (ticks : Nat) (w : World) :
    (w.advance ticks).fullTime = (w.fullTime + ticks) % UInt64.size := by
  rw [fullTime, advance, UInt64.toNat_add, UInt64.toNat_ofNat', Nat.add_mod_mod]
  rfl

@[simp] theorem fullTime_strike (location : Location) (w : World) :
    (w.strike location).fullTime = w.fullTime := rfl

end World

end AbilityScript
