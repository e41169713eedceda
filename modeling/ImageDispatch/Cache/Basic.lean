import ImageDispatch.Error

/-!
# Caches

A cache keeps the values created for keys, either all of them or the most recently used ones. It
also keeps account of the creations that are under way, so that a key is created once at a time.

* `Cache.get`, `Cache.insert`, `Cache.contains`, `Cache.clear`: the store. Every use stamps its
  entry with the time, and the entry with the oldest stamp is the first to give way.
* `Cache.begin`, `Cache.finish`, `Cache.fail`: a creation, in the order in which it happens. Code
  of an extension runs between the beginning and the end, and it may use the same cache.
* A creation holds the guard of its key. `clear` forgets the guards of all keys, so that a key
  gets a new guard after it.
-/

namespace ImageDispatch

/-- Which values a cache keeps. -/
inductive CachePolicy
  | unbounded
  /-- At most so many, the most recently used ones. -/
  | recent (capacity : Nat) (pos : 0 < capacity)
  deriving DecidableEq

namespace CachePolicy

instance : Inhabited CachePolicy := ⟨unbounded⟩

/-- The policy for a capacity, where zero stands for no bound. -/
def ofCapacity (n : Nat) : CachePolicy := if h : 0 < n then recent n h else unbounded

/-- The name in the record form of a cache. -/
def label : CachePolicy → String
  | unbounded => "unbounded"
  | recent .. => "lru"

/-- The record form. -/
def repr : CachePolicy → String
  | unbounded => "Unbounded"
  | recent n _ => Text.tagged "Lru" (toString n)

/-- There is no room for another entry beside `n`. -/
def isFull (p : CachePolicy) (n : Nat) : Bool :=
  match p with
  | unbounded => false
  | recent capacity _ => capacity ≤ n

end CachePolicy

/-- A cached value. -/
structure CacheEntry (κ α : Type) where
  key : κ
  value : α
  used : Nat

/-- The number of a creation guard. -/
abbrev GuardId := Nat

/-- A cache from keys to values. -/
structure Cache (κ α : Type) where
  policy : CachePolicy
  /-- The values, in the order in which their keys came. -/
  entries : List (CacheEntry κ α)
  /-- The time of the next use. -/
  clock : Nat
  /-- The guard of each key that has one. -/
  pending : List (κ × GuardId)
  /-- The guards that a creation holds. -/
  running : List GuardId
  /-- The number of the next guard. -/
  nextGuard : GuardId

namespace Cache

variable {κ α : Type}

/-- The cache with nothing in it. -/
def empty (policy : CachePolicy) : Cache κ α := ⟨policy, [], 0, [], [], 0⟩

instance : Inhabited (Cache κ α) := ⟨empty .unbounded⟩

/-- Number of cached values. -/
def size (c : Cache κ α) : Nat := c.entries.length

/-- Nothing is cached. -/
def isEmpty (c : Cache κ α) : Bool := c.entries.isEmpty

/-- The cached values, in the order in which their keys came. -/
def values (c : Cache κ α) : List α := c.entries.map CacheEntry.value

/-- The record form, of the cache of a family. -/
def repr (c : Cache κ α) (family : String) : String :=
  Text.record "ImplementationCache" [("family", Text.quoted family),
    ("policy", Text.quoted c.policy.label), ("len", toString c.size)]

variable [DecidableEq κ]

/-- The entry of a key. -/
def find? (c : Cache κ α) (k : κ) : Option (CacheEntry κ α) := c.entries.find? fun e => e.key = k

/-- The key has a value. This is no use of it. -/
def contains (c : Cache κ α) (k : κ) : Bool := (c.find? k).isSome

/-- Stamps the entry of a key with the time. -/
def touch (c : Cache κ α) (k : κ) : Cache κ α :=
  { c with
    entries := c.entries.map fun e => if e.key = k then { e with used := c.clock } else e
    clock := c.clock + 1 }

/-- The value of a key, which counts as a use. -/
def get (c : Cache κ α) (k : κ) : Option α × Cache κ α :=
  match c.find? k with
  | some e => (some e.value, c.touch k)
  | none => (none, c)

/-- The entry that was not used for longest. -/
def oldest? : List (CacheEntry κ α) → Option (CacheEntry κ α)
  | [] => none
  | e :: rest =>
    match oldest? rest with
    | none => some e
    | some o => if e.used ≤ o.used then some e else some o

/-- Puts a value in for a key, and answers with the key and the value that had to leave: the old
value of the key, or else the least recently used one if the cache is full. -/
def insert (c : Cache κ α) (k : κ) (v : α) : Option (κ × α) × Cache κ α :=
  let added : CacheEntry κ α := ⟨k, v, c.clock⟩
  let clock := c.clock + 1
  match c.find? k with
  | some old =>
    (some (old.key, old.value),
      { c with entries := c.entries.map (fun e => if e.key = k then added else e), clock })
  | none =>
    if c.policy.isFull c.size then
      match oldest? c.entries with
      | some o =>
        (some (o.key, o.value),
          { c with entries := c.entries.filter (fun e => e.key ≠ o.key) ++ [added], clock })
      | none => (none, { c with entries := [added], clock })
    else (none, { c with entries := c.entries ++ [added], clock })

/-- Forgets all values and all guards, and answers with the values. -/
def clear (c : Cache κ α) : List α × Cache κ α :=
  (c.values, { c with entries := [], pending := [] })

/-! ## Creation -/

/-- The answer to a call for the value of a key. -/
inductive Start (α : Type)
  | hit (value : α)
  /-- The caller has to create the value, and holds the guard meanwhile. -/
  | miss (holding : GuardId)
  /-- The creation of the value is under way, further out in the calls. -/
  | blocked
  deriving DecidableEq

/-- The guard of a key. -/
def guard? (c : Cache κ α) (k : κ) : Option GuardId :=
  (c.pending.find? fun p => p.1 = k).map Prod.snd

/-- Calls for the value of a key. Without a value the caller takes the guard of the key, a new one
if there is none, unless a creation holds it. -/
def begin (c : Cache κ α) (k : κ) : Start α × Cache κ α :=
  match c.get k with
  | (some v, c) => (.hit v, c)
  | (none, c) =>
    match c.guard? k with
    | some g =>
      if g ∈ c.running then (.blocked, c) else (.miss g, { c with running := g :: c.running })
    | none =>
      let g := c.nextGuard
      (.miss g,
        { c with pending := c.pending ++ [(k, g)], running := g :: c.running, nextGuard := g + 1 })

/-- Lets go of a guard. -/
def letGo (c : Cache κ α) (g : GuardId) : Cache κ α := { c with running := c.running.erase g }

/-- Ends a creation with a value. The key loses its guard if it is still the one that the creation
holds. Answers with what had to leave. -/
def finish (c : Cache κ α) (k : κ) (g : GuardId) (v : α) : Option (κ × α) × Cache κ α :=
  let pending := if c.guard? k = some g then c.pending.filter (fun p => p.1 ≠ k) else c.pending
  let (displaced, c) := { c with pending }.insert k v
  (displaced, c.letGo g)

/-- Ends a creation without a value. The key keeps its guard for the next one. -/
def fail (c : Cache κ α) (g : GuardId) : Cache κ α := c.letGo g

/-- The key that had to make room for another one, if `displaced` left for the value of `k`. -/
def evicted? (k : κ) (displaced : Option (κ × α)) : Option κ := do
  let (evicted, _) ← displaced
  if evicted = k then none else some evicted

/-- How the eviction of a key is reported. -/
def evictionMessage (family key : String) : String :=
  s!"{family} cache evicted implementation for {key}"

end Cache

end ImageDispatch
