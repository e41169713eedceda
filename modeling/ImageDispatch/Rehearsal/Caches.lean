import ImageDispatch.Cache.Script
import ImageDispatch.Rehearsal.Lines

/-!
# Exercises of caches

* `exerciseCache`: steps with the cache of a family, and what is told after each.
* `cacheNotes`, `cacheLog`, `cacheMetrics`: the events of a run as notes, as a log and as metrics.
-/

namespace ImageDispatch.Rehearsal

/-- What creators and values note in a run of a cache. -/
def cacheNotes (events : List (CacheEvent Int String)) : List String :=
  noteLines (events.filterMap fun
    | .started k => some s!"create {k}"
    | .released v => some s!"drop {v}"
    | _ => none).reverse

/-- What is logged in a run of the cache of a family. -/
def cacheLog (family : String) (events : List (CacheEvent Int String)) : List String :=
  logLines (events.filterMap fun
    | .evicted k => some (.log .debug (Cache.evictionMessage family (toString k)))
    | _ => none).reverse

/-- The metrics after a run of the cache of a family. -/
def cacheMetrics (family : String) (events : List (CacheEvent Int String)) :
    List (String × Nat) :=
  metrics (events.filterMap fun
    | .hit _ => some (.count (.hits family) 1)
    | .missed _ => some (.count (.misses family) 1)
    | _ => none)

/-- What is told after a step with a cache. -/
structure CacheReport where
  answer : CacheAnswer String Error
  notes : List String
  size : Nat
  log : List String

/-- Takes steps with the cache of a family: what is told after each, and the events of all. -/
def exerciseCache (family : String) :
    List (CacheStep Int String Error) → Cache Int String →
      List CacheReport × List (CacheEvent Int String)
  | [], _ => ([], [])
  | step :: rest, c =>
    let (answer, trace) := step.run c
    let (reports, events) := exerciseCache family rest trace.cache
    (⟨answer, cacheNotes trace.events, trace.cache.size, cacheLog family trace.events⟩ :: reports,
      trace.events ++ events)

end ImageDispatch.Rehearsal
