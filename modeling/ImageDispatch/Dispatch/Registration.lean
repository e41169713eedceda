import ImageDispatch.Dispatch.World

/-!
# Registering a table

The callbacks of a table work on one list of extensions, one after the other.

* `registerTable`: how many extensions are added, and the list afterwards. Whether the callbacks can
  be run at all is looked at before the first of them.
* `Host.appending`: a callback that says what it appends, as one that works on a list.
-/

namespace ImageDispatch

open Act

variable {σ : Type}

/-- A callback that works on a list of extensions. -/
abbrev ListCallback (σ : Type) := List Descriptor → Act σ (List Descriptor)

/-- Lets the callback of an entry work on a list. -/
def registerEntry (list : List Descriptor) (entry : RegistrationEntry (ListCallback σ)) :
    Act σ (List Descriptor) := do
  match entry.register with
  | some register =>
    let after ← register list
    log .debug
      s!"registration '{entry.text}' contributed {after.length - list.length} extensions"
    return after
  | none =>
    log .warn s!"registration '{entry.text}' has no callback, skipping"
    return list

/-- Lets the callbacks of a table that may be missing work on a list: how many extensions that adds,
and the list. -/
def registerTable (table : Option (RegistrationTable (ListCallback σ))) (list : List Descriptor) :
    Act σ (Except LoadError Nat × List Descriptor) := do
  match RegistrationTable.entries? table with
  | .error e => return (.error e, list)
  | .ok entries =>
    let after ← entries.foldlM registerEntry list
    return (.ok (after.length - list.length), after)

/-- A callback of others puts what it registers at the end of a list. -/
def Host.appending (host : Host σ) (register : Register σ) : ListCallback σ := fun list =>
  return list ++ (← host.runForeign register)

end ImageDispatch
