import ImageDispatch.Cache.Basic

/-!
# Runs of a cache

A script is a list of uses of one cache. A call for the value of a key brings its creator along:
what the creator does with the same cache before it returns, and what it returns.

* `CacheStep.run`: the answer of a step, the events in their order, and the cache afterwards.
* A value is released when it leaves the cache, and each release is an event of its own.
-/

namespace ImageDispatch

/-- A use of a cache. -/
inductive CacheStep (κ α ε : Type)
  | get (k : κ)
  | insert (k : κ) (v : α)
  /-- Ask whether a key has a value. -/
  | contains (k : κ)
  | clear
  /-- Ask for the record form of the cache of a family. -/
  | describe (family : String)
  /-- Call for a value. Its creator takes the steps `during` and returns `outcome`. -/
  | resolve (k : κ) (during : List (CacheStep κ α ε)) (outcome : Except ε α)

/-- What happens in a run. -/
inductive CacheEvent (κ α : Type)
  /-- A value was called for and is cached. -/
  | hit (k : κ)
  /-- A value was called for and is not cached. -/
  | missed (k : κ)
  | started (k : κ)
  /-- A value had to give way to the one of another key. -/
  | evicted (k : κ)
  | released (v : α)
  /-- A creation waits for itself. -/
  | stalled (k : κ)

/-- How a call for a value ends. -/
inductive Resolution (α ε : Type)
  | served (v : α)
  /-- With the error of the creator. -/
  | failed (e : ε)
  /-- Not at all: the creation waits for itself. -/
  | stalled

/-- The answer to a use. -/
inductive CacheAnswer (α ε : Type)
  /-- The value, if the key has one. -/
  | found (v : Option α)
  /-- Whether the key has a value. -/
  | contained (yes : Bool)
  | done
  | text (form : String)
  /-- The value called for, and the answers to the steps of the creator if one was started. -/
  | resolved (outcome : Resolution α ε) (during : List (CacheAnswer α ε))

/-- What a run leaves behind, beside its answer. -/
structure CacheTrace (κ α : Type) where
  events : List (CacheEvent κ α)
  cache : Cache κ α

namespace CacheStep

variable {κ α ε : Type} [DecidableEq κ]

/-- The events when `displaced` leaves the cache for the value of `k`. -/
def displacement (k : κ) (displaced : Option (κ × α)) : List (CacheEvent κ α) :=
  ((Cache.evicted? k displaced).map .evicted).toList ++
    (displaced.map fun entry => .released entry.2).toList

mutual

/-- Takes one step. -/
def run (step : CacheStep κ α ε) (c : Cache κ α) : CacheAnswer α ε × CacheTrace κ α :=
  match step with
  | get k =>
    let (v, c) := c.get k
    (.found v, ⟨[], c⟩)
  | insert k v =>
    let (displaced, c) := c.insert k v
    (.done, ⟨displacement k displaced, c⟩)
  | contains k => (.contained (c.contains k), ⟨[], c⟩)
  | clear =>
    let (values, c) := c.clear
    (.done, ⟨values.map .released, c⟩)
  | describe family => (.text (c.repr family), ⟨[], c⟩)
  | resolve k during outcome =>
    match c.begin k with
    | (.hit v, c) => (.resolved (.served v) [], ⟨[.hit k], c⟩)
    | (.blocked, c) => (.resolved .stalled [], ⟨[.missed k, .stalled k], c⟩)
    | (.miss g, c) =>
      let (answers, trace) := runAll during c
      let events := .missed k :: .started k :: trace.events
      match outcome with
      | .error e => (.resolved (.failed e) answers, ⟨events, trace.cache.fail g⟩)
      | .ok v =>
        let (displaced, c) := trace.cache.finish k g v
        (.resolved (.served v) answers, ⟨events ++ displacement k displaced, c⟩)

/-- Takes the steps of a list, one after the other. -/
def runAll (steps : List (CacheStep κ α ε)) (c : Cache κ α) :
    List (CacheAnswer α ε) × CacheTrace κ α :=
  match steps with
  | [] => ([], ⟨[], c⟩)
  | step :: rest =>
    let (answer, first) := run step c
    let (answers, last) := runAll rest first.cache
    (answer :: answers, ⟨first.events ++ last.events, last.cache⟩)

end

theorem runAll_cons (step : CacheStep κ α ε) (rest : List (CacheStep κ α ε)) (c : Cache κ α) :
    runAll (step :: rest) c =
      ((step.run c).1 :: (runAll rest (step.run c).2.cache).1,
        ⟨(step.run c).2.events ++ (runAll rest (step.run c).2.cache).2.events,
          (runAll rest (step.run c).2.cache).2.cache⟩) :=
  rfl

end CacheStep

end ImageDispatch
