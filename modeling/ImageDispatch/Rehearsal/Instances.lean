import ImageDispatch.Instance.Table

/-!
# Exercises of instance tables

* `TableStep`, `exerciseInstances`: steps with an instance table of texts.
* `TextTable.churn` and `TextTable.sweep` take many steps at once, to bring slots into later
  generations.
-/

namespace ImageDispatch.Rehearsal

/-- What can be done with an instance table of texts. -/
inductive TableStep
  | insert (v : String)
  | get (id : Int32)
  | remove (id : Int32)
  | fill (n : Nat) (v : String)
  | churn (n : Nat)
  | sweep (start stop step : Int)
  | describe (id : Int32)
  | table

/-- What comes of it. -/
inductive TableAnswer
  | id (r : Except Error Int32)
  /-- The id that was given out last of many, if there were any. -/
  | last (r : Option (Except Error Int32))
  /-- The id that was given out last, as a number, if there were any. -/
  | number (r : Option (Except Error Int32))
  | found (v : Option String)
  /-- The text that was removed, and the id afterwards. -/
  | removed (r : Except Error String) (id : Int32)
  | count (n : Nat)
  /-- The id is one of an instance, its record form, and whether it is the one of none. -/
  | described (isValid : Bool) (text : String) (isInvalid : Bool)
  /-- The record form of the table, and its capacity. -/
  | text (form : String) (capacity : Nat)

/-- What is told after a step with an instance table. -/
structure TableEntry where
  answer : TableAnswer
  size : Nat

/-- A table of texts. -/
abbrev TextTable := InstanceTable String

namespace TextTable

/-- Stores `n` texts numbered from `k` on. The last outcome is the answer, or else `last`. -/
def fill (v : String) : (n k : Nat) → (last : Option (Except Error Int32)) → TextTable →
    Option (Except Error Int32) × TextTable
  | 0, _, last, t => (last, t)
  | n + 1, k, _, t =>
    let (r, t) := t.add s!"{v}{k}"
    fill v n (k + 1) (some r) t

/-- Stores and removes a text `n` times. The last id is the answer, or the first error, or else
`last`. -/
def churn : (n : Nat) → (last : Option (Except Error Int32)) → TextTable →
    Option (Except Error Int32) × TextTable
  | 0, last, t => (last, t)
  | n + 1, _, t =>
    match t.insert "" with
    | .error e => (some (.error e), t)
    | .ok (id, t) =>
      match t.remove id with
      | .ok (_, t) => churn n (some (.ok id)) t
      | .error e => (some (.error e), t)

/-- Removes `n` ids from `id` on, at a distance from each other, and counts the successes. -/
def sweep (step : Int) : (n : Nat) → (id : Int) → (count : Nat) → TextTable → Nat × TextTable
  | 0, _, count, t => (count, t)
  | n + 1, id, count, t =>
    match t.remove (.ofInt id) with
    | .ok (_, t) => sweep step n (id + step) (count + 1) t
    | .error _ => sweep step n (id + step) count t

/-- Takes a step. -/
def take (t : TextTable) : TableStep → TableAnswer × TextTable
  | .insert v =>
    let (r, t) := t.add v
    (.id r, t)
  | .get id => (.found (t.get? id), t)
  | .remove id =>
    let (r, id, t) := t.takeBack id
    (.removed r id, t)
  | .fill n v =>
    let (r, t) := fill v n 0 none t
    (.last r, t)
  | .churn n =>
    let (r, t) := churn n none t
    (.number r, t)
  | .sweep start stop step =>
    let n := if 0 < step ∧ start < stop then ((stop - start + step - 1) / step).toNat else 0
    let (count, t) := sweep step n start 0 t
    (.count count, t)
  | .describe id =>
    (.described (InstanceId.place? id).isSome (InstanceId.repr id) (id = InstanceId.invalid), t)
  | .table => (.text t.repr slotCount, t)

end TextTable

/-- Takes steps with a table of texts. -/
def exerciseInstances : List TableStep → TextTable → List TableEntry
  | [], _ => []
  | step :: rest, t =>
    let (answer, t) := TextTable.take t step
    ⟨answer, t.used⟩ :: exerciseInstances rest t

end ImageDispatch.Rehearsal
