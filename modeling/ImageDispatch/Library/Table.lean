import ImageDispatch.Error
import ImageDispatch.Extension.Identity

/-!
# Libraries of extensions

A library exports a symbol for each family of extensions. Behind it stands a table of callbacks,
or a single callback for metadata generators.

* `RegistrationTable.entries?`: the callbacks of a table. A table for another version of the
  boundary, or none at all, has no callbacks that could be run.
* `Library.registering?`: what is run to register a family.
-/

namespace ImageDispatch

/-- The version of the boundary between the dispatcher and the tables of libraries. -/
def boundaryVersion : Nat := 1

/-- The text of a name that ends at its first zero byte, unless its bytes are no UTF-8. -/
def text? (bytes : List UInt8) : Option String :=
  String.fromUTF8? ⟨(bytes.takeWhile (· ≠ 0)).toArray⟩

/-- An entry of a table, with a callback of type `β`. -/
structure RegistrationEntry (β : Type) where
  name : Option (List UInt8)
  register : Option β

/-- The name, for logs. -/
def RegistrationEntry.text {β : Type} (e : RegistrationEntry β) : String :=
  (e.name.bind text?).getD "unnamed"

/-- The entry with another callback in place of its own. -/
def RegistrationEntry.map {β γ : Type} (f : β → γ) (e : RegistrationEntry β) :
    RegistrationEntry γ :=
  ⟨e.name, e.register.map f⟩

/-- A table of callbacks. -/
structure RegistrationTable (β : Type) where
  /-- The version of the boundary that it was built for. -/
  version : Nat
  /-- Number of entries that count. -/
  count : Nat
  array : Option (List (RegistrationEntry β))

namespace RegistrationTable

variable {β : Type}

/-- The entries that count. -/
def entries (t : RegistrationTable β) : List (RegistrationEntry β) :=
  (t.array.getD []).take t.count

/-- The table with other callbacks in place of its own. -/
def map {γ : Type} (f : β → γ) (t : RegistrationTable β) : RegistrationTable γ :=
  ⟨t.version, t.count, t.array.map fun entries => entries.map (.map f)⟩

/-- The entries that can be run, of a table that may be missing. -/
def entries? : Option (RegistrationTable β) → Except LoadError (List (RegistrationEntry β))
  | none => .error .nullTable
  | some t =>
    if t.version = boundaryVersion then .ok t.entries
    else .error (.abiMismatch boundaryVersion t.version)

end RegistrationTable

/-- What stands behind a symbol. -/
inductive Export (β : Type)
  /-- A function that answers with a table, or with none. -/
  | table (t : Option (RegistrationTable β))
  | callback (register : β)

/-- A library, as the symbols that it exports. -/
structure Library (β : Type) where
  /-- What stands behind the symbol of a family. -/
  symbol? : ExtensionFamily → Option (Export β)

/-- What is run to register a family. -/
inductive Registering (β : Type)
  /-- The callbacks of a table, with a report on each. -/
  | entries (list : List (RegistrationEntry β))
  /-- One callback, without a report. -/
  | single (register : β)

/-- The record form of a library at a path. -/
def Library.repr (path : String) (isOpen : Bool) : String :=
  Text.record "VendorLibrary" [("path", Text.quoted path), ("open", Text.boolean isOpen)]

/-- What is run to register a family from a library that may not be open. -/
def Library.registering? {β : Type} (library : Option (Library β)) (family : ExtensionFamily) :
    Except LoadError (Registering β) :=
  match library with
  | none => .error .notOpen
  | some l =>
    match l.symbol? family with
    | none => .error (.symbolNotFound family.symbol)
    | some (.callback register) => .ok (.single register)
    | some (.table t) => (RegistrationTable.entries? t).map .entries

end ImageDispatch
