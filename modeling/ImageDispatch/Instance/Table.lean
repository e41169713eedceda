import ImageDispatch.Error
import ImageDispatch.Instance.Id

/-!
# The instance table

A table of 1024 slots that hands out an id for each handle stored in it.

* `InstanceTable.insert` takes the first free slot after the one taken last.
* `InstanceTable.get?` answers only for the id of the generation that the slot is in.
* `InstanceTable.remove` frees the slot and moves it on to its next generation, so the ids given
  out before stop answering until the generations start again.
* `InstanceTable.add`, `InstanceTable.takeBack`: the same for a table that stays in place, and a
  caller whose id is reset.
-/

namespace ImageDispatch

/-- A place in the table. -/
structure Slot (α : Type) where
  /-- How often the slot has been freed, modulo the number of generations. -/
  generation : Generation
  handle : Option α

/-- A table of handles behind ids. -/
structure InstanceTable (α : Type) where
  slots : Vector (Slot α) slotCount
  /-- The slot that was taken last. -/
  last : SlotIndex
  /-- Number of slots that are taken. -/
  used : Nat

namespace InstanceTable

variable {α : Type}

/-- The table with nothing stored. The slot at the start is the first to be taken. -/
def empty : InstanceTable α := ⟨Vector.replicate slotCount ⟨0, none⟩, Fin.last 1023, 0⟩

instance : Inhabited (InstanceTable α) := ⟨empty⟩

/-- A slot. -/
abbrev slot (t : InstanceTable α) (index : SlotIndex) : Slot α := t.slots[index]

/-- The slot is free. -/
def isFree (t : InstanceTable α) (index : SlotIndex) : Bool := (t.slot index).handle.isNone

/-- The first free slot among the next `n` from `index` on, in cyclic order. -/
def freeFrom (t : InstanceTable α) : (n : Nat) → (index : SlotIndex) → Option SlotIndex
  | 0, _ => none
  | n + 1, index => if t.isFree index then some index else t.freeFrom n (index + 1)

/-- The first free slot after the one taken last, in cyclic order. -/
def firstFree? (t : InstanceTable α) : Option SlotIndex := t.freeFrom slotCount (t.last + 1)

/-- Stores a handle, and answers with its id and the table afterwards. -/
def insert (t : InstanceTable α) (handle : α) : Except Error (Int32 × InstanceTable α) :=
  match t.firstFree? with
  | none => .error .instanceTableFull
  | some index =>
    let generation := (t.slot index).generation
    .ok (InstanceId.compose index generation,
      { slots := t.slots.set index.val ⟨generation, some handle⟩ index.isLt
        last := index
        used := t.used + 1 })

/-- The handle behind an id. -/
def get? (t : InstanceTable α) (id : Int32) : Option α := do
  let (index, generation) ← InstanceId.place? id
  let slot := t.slot index
  if slot.generation = generation then slot.handle else none

/-- Frees the slot behind an id, and answers with the handle and the table afterwards. -/
def remove (t : InstanceTable α) (id : Int32) : Except Error (α × InstanceTable α) :=
  match InstanceId.place? id, t.get? id with
  | some (index, generation), some handle =>
    .ok (handle,
      { t with
        slots := t.slots.set index.val ⟨generation + 1, none⟩ index.isLt
        used := t.used - 1 })
  | _, _ => .error (.invalidInstance id)

/-- Stores a handle: its id, and the table afterwards. A full table stays as it is. -/
def add (t : InstanceTable α) (handle : α) : Except Error Int32 × InstanceTable α :=
  match t.insert handle with
  | .ok (id, t) => (.ok id, t)
  | .error e => (.error e, t)

/-- Removes the id that a caller keeps: the handle, the id that the caller has then, and the table
afterwards. If the id names nothing, both stay as they are. -/
def takeBack (t : InstanceTable α) (id : Int32) : Except Error α × Int32 × InstanceTable α :=
  match t.remove id with
  | .ok (handle, t) => (.ok handle, InstanceId.invalid, t)
  | .error e => (.error e, id, t)

/-- The record form. -/
def repr (t : InstanceTable α) : String :=
  Text.record "InstanceTable" [("used", toString t.used), ("capacity", toString slotCount)]

/-- Every handle that is stored. -/
def handles (t : InstanceTable α) : List α := t.slots.toList.filterMap Slot.handle

end InstanceTable

end ImageDispatch
