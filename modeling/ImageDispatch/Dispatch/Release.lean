import ImageDispatch.Dispatch.World

/-!
# Holding and letting go

An algorithm object, a façade and the vendor library live as long as something keeps them.

* `Host.settle`: what happens when nothing keeps a thing any more. An object is deinitialized. A
  façade lets its implementations go, takes leave of the bootstrap service, and gives its lease
  back.
* `Host.increase`, `Host.decrease`: the users of the vendor library. It is opened for the first
  and closed after the last. One call at a time changes their number.
-/

namespace ImageDispatch.Host

variable {σ : Type}

open Act

/-! ## The vendor library -/

/-- Opens the source of dynamic extensions. -/
def openSource (host : Host σ) : Act σ (Except LoadError Unit) := do
  match host.env.source with
  | .none => return .ok ()
  | .provider p =>
    let r ← host.runForeign p.openUp
    emit (.opened r.isOk)
    return r
  | .library path =>
    let w ← get
    if w.library.isSome then
      emit (.opened true)
      return .ok ()
    match host.env.loader path w.memory with
    | .error reason =>
      emit (.opened false)
      return .error (.libraryOpen path reason)
    | .ok library =>
      log .info s!"opened vendor extension library {path}"
      modify fun w => { w with library := some library }
      emit (.opened true)
      return .ok ()

/-- Closes the source of dynamic extensions. -/
def closeSource (host : Host σ) : Act σ Unit := do
  match host.env.source with
  | .none => return
  | .provider p =>
    emit .closed
    host.runForeign p.close
  | .library path =>
    emit .closed
    if (← get).library.isSome then
      modify fun w => { w with library := none }
      log .info s!"closed vendor extension library {path}"

/-- Changes the number of users, which one call does at a time. A call that comes back to it while
the source opens or closes waits for itself. -/
def exclusively (change : Act σ Unit) : Act σ Unit := do
  if (← get).counting then
    emit .stalled
  else
    modify fun w => { w with counting := true }
    change
    modify fun w => { w with counting := false }

/-- Counts one more user of the vendor library. It is opened for the first one, and a failure to
open it is put up with. -/
def increase (host : Host σ) : Act σ Unit := exclusively do
  if (← get).instances = 0 then
    match ← host.openSource with
    | .ok () => pure ()
    | .error e => log .warn s!"dynamic extensions unavailable: {e.message}"
  modify fun w => { w with instances := w.instances + 1 }
  emit (.gauge .vendorInstances (← get).instances)

/-- Counts one user of the vendor library less. It is closed after the last one. -/
def decrease (host : Host σ) : Act σ Unit := exclusively do
  if (← get).instances = 0 then
    log .error "decrease_instance called with no active instances"
  else
    modify fun w => { w with instances := w.instances - 1 }
    if (← get).instances = 0 then
      host.closeSource
    emit (.gauge .vendorInstances (← get).instances)

/-- Gives the lease of a client back. -/
def giveBack (host : Host σ) : Act σ Unit := do
  emit .returned
  host.decrease

/-! ## The bootstrap service -/

/-- Connects to the bootstrap service. -/
def connect (host : Host σ) : Act σ Unit := do
  match host.env.service with
  | none => log .trace "algorithm service connect (noop)"
  | some s => host.runForeign s.connect

/-- Disconnects from the bootstrap service. -/
def disconnect (host : Host σ) : Act σ Unit := do
  match host.env.service with
  | none => log .trace "algorithm service disconnect (noop)"
  | some s => host.runForeign s.disconnect

/-- Tells the bootstrap service of the façade that is made next. -/
def announce (host : Host σ) : Act σ Unit := do
  host.connect
  emit (.connected (← get).facades.size)

/-- Tells the bootstrap service that a façade is gone. -/
def takeLeave (host : Host σ) (f : FacadeId) : Act σ Unit := do
  emit (.disconnected f)
  host.disconnect

/-! ## Objects and façades -/

/-- Sets how far an object has come. -/
def setStage (o : ObjectId) (stage : Stage) : Act σ Unit :=
  modify fun w => { w with objects := w.objects.modify o fun object => { object with stage } }

/-- Deinitializes an object that is initialized, if nothing keeps it. -/
def settleObject (host : Host σ) (o : ObjectId) : Act σ Unit := do
  let w ← get
  match w.objects[o]? with
  | none => return
  | some object =>
    if object.stage = .live ∧ w.refersTo (.object o) = false then
      setStage o .finished
      match ← host.invoke o .deinit Except.isOk (host.env.code.deinit object.token) with
      | .ok () => log .debug s!"deinitialized extension '{object.info.name}'"
      | .error e =>
        log .warn s!"extension '{object.info.name}' failed to deinitialize: {e.message}"

/-- Takes the hold of a running call off an object, which may be the last one. -/
def unpinObject (host : Host σ) (o : ObjectId) : Act σ Unit := do
  modify fun w => { w with pins := w.pins.erase (.object o) }
  host.settleObject o

/-- Takes a façade apart, if nothing keeps it. -/
def settleFacade (host : Host σ) (f : FacadeId) : Act σ Unit := do
  let w ← get
  match w.facade? f with
  | none => return
  | some facade =>
    if w.refersTo (.facade f) = false then
      set { w with
        facades := w.facades.modify f fun _ => none
        pins := facade.objects.map Ref.object ++ w.pins }
      facade.objects.forM host.unpinObject
      if facade.kind.usesService then
        host.takeLeave f
      emit (.dissolved f)
      host.decrease

/-- Lets a thing go that nothing keeps. -/
def settle (host : Host σ) : Ref → Act σ Unit
  | .object o => host.settleObject o
  | .facade f => host.settleFacade f
  | .lease => host.giveBack

/-- Takes the hold of a running call off a thing. -/
def unpin (host : Host σ) (r : Ref) : Act σ Unit := do
  modify fun w => { w with pins := w.pins.erase r }
  host.settle r

/-! ## Holders outside -/

/-- Lets a client hold what a running call holds. -/
def handOver (r : Ref) : Act σ Unit :=
  modify fun w => { w with held := r :: w.held, pins := w.pins.erase r }

/-- Lets a client hold what it holds once more. -/
def hold (r : Ref) : Act σ Reply := do
  if (← get).held.contains r ∧ r ≠ .lease then
    modify fun w => { w with held := r :: w.held }
    return .done
  else
    return .refused

/-- Takes the hold of a client off a thing. -/
def drop (host : Host σ) (r : Ref) : Act σ Reply := do
  if (← get).held.contains r then
    modify fun w => { w with held := w.held.erase r }
    host.settle r
    return .done
  else
    return .refused

/-- Lets a client have a lease of the vendor library. -/
def takeLease (host : Host σ) : Act σ Unit := do
  host.increase
  emit .leased
  modify fun w => { w with held := .lease :: w.held }

/-- Counts one more user, who is a façade that is made and held for the running call. -/
def enter (host : Host σ) (kind : FacadeKind) : Act σ FacadeId := do
  host.increase
  let f := (← get).facades.size
  emit (.founded f kind)
  modify fun w => { w with
    facades := w.facades.push (some (.new kind host.env.config.cachePolicy))
    pins := .facade f :: w.pins }
  return f

/-- Makes a façade, and holds it for the running call. The bootstrap service is told of it first,
if it is told of its kind. -/
def makeFacade (host : Host σ) (kind : FacadeKind) : Act σ FacadeId := do
  if kind.usesService then
    host.announce
  host.enter kind

end ImageDispatch.Host
