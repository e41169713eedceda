import ImageDispatch.Dispatch.World

/-!
# Finding and creating extensions

* `Host.load`: the extensions of a family. Those that are linked in come first, then those of the
  dynamic source. They are collected anew for each query.
* `Host.registerLibrary`: the extensions that the vendor library registers for a family.
* `Host.find`: the extension for a key, and `Host.supports`: there is one.
* `Host.create`: an initialized algorithm for a key. The running call holds it.

The vendor library is locked while its callbacks register, and the lock is left out here. A callback
that comes back with a query, or with a call that opens or closes the library, would wait for itself
and never return. `Host.registerLibrary` answers it and reports no stalled call, so what is said of
a run with such a callback is about no run that ends.
-/

namespace ImageDispatch.Host

variable {σ : Type}

open Act

/-! ## Collecting -/

/-- What a registration appends. -/
def runRegistration (host : Host σ) (r : Registration σ) : Act σ (List Descriptor) := do
  match r.register with
  | some register => host.runForeign register
  | none =>
    log .warn s!"static registration '{r.name}' is missing, skipping"
    return []

/-- The extensions of a family that are linked in. -/
def loadStatic (host : Host σ) (family : ExtensionFamily) : Act σ (List Descriptor) := do
  let registrations := host.env.statics.filter fun r => r.family = family
  return (← registrations.mapM host.runRegistration).flatten

/-- What an entry of a table appends. -/
def runEntry (host : Host σ) (entry : RegistrationEntry (Register σ)) :
    Act σ (List Descriptor) := do
  match entry.register with
  | some register =>
    let appended ← host.runForeign register
    log .debug s!"registration '{entry.text}' contributed {appended.length} extensions"
    return appended
  | none =>
    log .warn s!"registration '{entry.text}' has no callback, skipping"
    return []

/-- Runs what registers a family. -/
def runRegistering (host : Host σ) : Registering (Register σ) → Act σ (List Descriptor)
  | .single register => host.runForeign register
  | .entries entries => return (← entries.mapM host.runEntry).flatten

/-- The extensions of a family in the vendor library. -/
def registerLibrary (host : Host σ) (family : ExtensionFamily) :
    Act σ (Except LoadError (List Descriptor)) := do
  match Library.registering? (← get).library family with
  | .error e => return .error e
  | .ok registering => return .ok (← host.runRegistering registering)

/-- What the dynamic source appends for a family, and how it ends. -/
def registerSource (host : Host σ) (family : ExtensionFamily) :
    Act σ (List Descriptor × Except LoadError Nat) := do
  match host.env.source with
  | .none => return ([], .ok 0)
  | .provider p => host.runForeign (p.register family)
  | .library _ =>
    match ← host.registerLibrary family with
    | .ok list => return (list, .ok list.length)
    | .error e => return ([], .error e)

/-- The extensions of a family from the dynamic source. What it appended before a failure
counts. -/
def loadDynamic (host : Host σ) (family : ExtensionFamily) : Act σ (List Descriptor) := do
  match host.env.sourceName? with
  | none => return []
  | some name =>
    let (list, r) ← host.registerSource family
    match r with
    | .ok n => log .trace s!"{name} contributed {n} {family.name} extensions"
    | .error .notOpen => log .trace s!"{name} is not open, no dynamic {family.name} extensions"
    | .error e => log .warn s!"{name} contributed no {family.name} extensions: {e.message}"
    return list

/-- The extensions of a family, from the sources asked for. -/
def load (host : Host σ) (family : ExtensionFamily) (static dynamic : Bool) :
    Act σ (List Descriptor) := do
  let linked ← if static then host.loadStatic family else pure []
  let loaded ← if dynamic then host.loadDynamic family else pure []
  return linked ++ loaded

/-! ## Finding -/

/-- Answers a query from the extensions that are registered now. -/
def find (host : Host σ) (q : Query) : Act σ (Option Selection) := do
  modify fun w => { w with queries := w.queries + 1 }
  count (.queries q.type)
  if host.env.config.spans.queries then
    emit (.span .trace "capability_query" [("family", q.type.label)])
  let list ← host.load q.family true true
  emit (.count (.loaded q.type) list.length)
  (mislabelled q.type q.type.shape list).forM fun d => log .warn d.mislabelledMessage
  let selection := q.select? list
  log .debug (q.report selection)
  return selection

/-- Some extension that is registered now serves the key. -/
def supports (host : Host σ) (q : Query) : Act σ Bool := return (← host.find q).isSome

/-! ## Creating -/

/-- Makes room for an algorithm object that is not initialized yet. -/
def addObject (info : ExtensionInfo) (token : Token) : Act σ ObjectId := do
  let o := (← get).objects.size
  modify fun w => { w with objects := w.objects.push ⟨info, token, .starting⟩ }
  return o

/-- Marks an object as initialized, and holds it for the running call. -/
def enliven (o : ObjectId) : Act σ Unit :=
  modify fun w => { w with
    objects := w.objects.modify o fun object => { object with stage := .live }
    pins := .object o :: w.pins }

/-- Creates and initializes the algorithm of a selected extension. -/
def instantiate (host : Host σ) (s : Selection) : Act σ (Except Error ObjectId) := do
  let name := s.info.name
  match ← host.runForeign (host.env.code.create s.creator) with
  | none =>
    log .warn s!"extension '{name}' returned no algorithm"
    count (.initFailures name)
    return .error (.extensionCreateFailed name)
  | some token =>
    let o ← addObject s.info token
    match ← host.invoke o .init Except.isOk (host.env.code.init token) with
    | .error e =>
      log .warn s!"extension '{name}' failed to initialize: {e.message}"
      count (.initFailures name)
      return .error (.extensionInitFailed name e.message)
    | .ok () =>
      enliven o
      count (.creations name)
      log .debug s!"created extension '{name}'"
      return .ok o

/-- Creates and initializes an algorithm for a key. -/
def create (host : Host σ) (q : Query) : Act σ (Except Error ObjectId) := do
  match ← host.find q with
  | none => return .error q.notFound
  | some s => host.instantiate s

end ImageDispatch.Host
