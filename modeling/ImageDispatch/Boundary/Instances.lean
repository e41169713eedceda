import ImageDispatch.Facade.Call

/-!
# Façades behind ids

* `Host.enroll`: stores a façade in the instance table. The table keeps it from then on.
* `Host.lookUp`: the façade behind an id.
* `Host.retire`: takes a façade of a family out of the table. It goes away with its last holder.
-/

namespace ImageDispatch.Host

variable {σ : Type}

open Act

/-- Stores a façade that the running call holds, and answers with its id. If there is no room, the
façade is let go. -/
def enroll (host : Host σ) (f : FacadeId) (family : String) : Act σ (Except Error Int32) := do
  match (← get).table.insert f with
  | .error e =>
    log .error s!"instance table full ({slotCount} slots)"
    host.unpin (.facade f)
    return .error e
  | .ok (id, table) =>
    modify fun w => { w with table, pins := w.pins.erase (.facade f) }
    emit (.gauge .slotsUsed table.used)
    log .debug s!"created {family} instance {InstanceId.repr id}"
    return .ok id

/-- The façade behind an id, with its kind. -/
def lookUp (id : Int32) : Act σ (Except Error (FacadeId × FacadeKind)) := do
  let w ← get
  match w.table.get? id with
  | none => return .error (.invalidInstance id)
  | some f =>
    match w.facade? f with
    | none => return .error (.invalidInstance id)
    | some facade => return .ok (f, facade.kind)

/-- Takes the façade of a family behind an id out of the table. An id of another family is left
as it is. -/
def retire (host : Host σ) (id : Int32) (family : String) : Act σ (Except Error Unit) := do
  match ← lookUp id with
  | .error e => return .error e
  | .ok (_, kind) =>
    if kind.family ≠ family then
      log .warn s!"instance {InstanceId.repr id} is a {kind.family}, not a {family}"
      return .error (.invalidInstance id)
    else
      match (← get).table.remove id with
      | .error e => return .error e
      | .ok (f, table) =>
        modify fun w => { w with table, pins := .facade f :: w.pins }
        emit (.gauge .slotsUsed table.used)
        log .debug s!"destroyed {kind.family} instance"
        host.unpin (.facade f)
        return .ok ()

end ImageDispatch.Host
