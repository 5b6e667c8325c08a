import AbilityScript.Datum

namespace AbilityScript

structure EngineConfig where
  strict : Bool := false
  workerThreads : Nat := 2
  tickMillis : Nat := 50
  deriving DecidableEq, Repr

namespace EngineConfig

def ofDatum? (surplus : Bool) (d : Datum) : Option EngineConfig :=
  match d.record? surplus ["strict", "worker_threads", "tick_millis"] with
  | some [strict, workers, tick] => do
    let strict ← Datum.orElse false Datum.boolean? strict
    let workers ← Datum.orElse 2 Datum.count? workers
    let tick ← Datum.orElse 50 Datum.count? tick
    some ⟨strict, workers, tick⟩
  | _ => none

def toDatum (c : EngineConfig) : Datum :=
  .table [("strict", .boolean c.strict), ("worker_threads", .whole c.workerThreads),
    ("tick_millis", .whole c.tickMillis)]

end EngineConfig

end AbilityScript
