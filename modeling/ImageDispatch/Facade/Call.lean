import ImageDispatch.Dispatch.Extensions
import ImageDispatch.Dispatch.Release

/-!
# Calls of façades

* `Host.resolve`: the implementation for a key, from the cache or newly created. The running call
  holds it.
* `Host.resolveContrast`: the same for contrast enhancers, which create one implementation at a
  time and give up after too many failures.
* `Host.employ`: lets an implementation work, after its parameter has been pushed into it.
* `Host.descend`: the ladder of detail levels.
* `Host.process`: a whole call. Its surfaces have to be valid before anything else happens.
-/

namespace ImageDispatch

/-- The query behind an operation of a façade for a key. -/
def Operation.query : Operation → ConversionKey → Query
  | .main => .convert
  | .compose => .compose
  | .decompose => .decompose

namespace Host

variable {σ : Type}

open Act

/-! ## Implementations -/

/-- Notes that a value had to leave a cache for the one of `k`, and lets it go. -/
def letDisplacedGo (host : Host σ) (family : String) (k : Key)
    (displaced : Option (Key × ObjectId)) : Act σ Unit := do
  if let some evicted := Cache.evicted? k displaced then
    log .debug (Cache.evictionMessage family evicted.repr)
  if let some (_, o) := displaced then
    host.settleObject o

/-- The error of a call on a façade that is gone. -/
def gone : Error := .invalidState "the façade is gone"

/-- Creates the implementation for the key of a query, and puts it into the cache of an operation.
The caller holds the guard `g` of the key. -/
def createGuarded (host : Host σ) (f : FacadeId) (kind : FacadeKind) (op : Operation) (q : Query)
    (g : GuardId) : Act σ (Except Error ObjectId) := do
  match ← host.create q with
  | .error e =>
    discard (useCache f op fun c => ((), c.fail g))
    return .error e
  | .ok o =>
    emit (.adopted f o)
    let displaced ← useCache f op fun c => c.finish q.key g o
    host.letDisplacedGo kind.family q.key displaced.join
    return .ok o

/-- The implementation for the key of a query, from the cache of an operation or newly created. A
creation reports what `announcement` says. -/
def resolve (host : Host σ) (f : FacadeId) (kind : FacadeKind) (op : Operation) (q : Query)
    (announcement : Option String) : Act σ (Except Error ObjectId) := do
  emit (.sought f)
  match ← useCache f op fun c => c.begin q.key with
  | none => return .error gone
  | some (.hit o) =>
    pin (.object o)
    count (.hits kind.family)
    return .ok o
  | some .blocked =>
    count (.misses kind.family)
    emit .stalled
    return .error .tryLater
  | some (.miss g) =>
    count (.misses kind.family)
    if let some text := announcement then
      log .debug text
    host.createGuarded f kind op q g

/-- Notes the failure of a creation. -/
def reportFailure (family : String) (threshold : UInt32) (b : Breaker) (e : Error) :
    Act σ Unit :=
  if b.isDisabled threshold then
    log .error
      s!"{family} creation disabled after {b.failures} consecutive failures: {e.message}"
  else log .warn s!"{family} creation failed ({b.failures}): {e.message}"

/-- Changes the state of the creations of a façade. -/
def modifyBreaker (f : FacadeId) (change : Breaker → Breaker) : Act σ Unit :=
  modifyFacade f fun facade => { facade with breaker := change facade.breaker }

/-- An attempt to create the implementation for a kind of contrast enhancement. -/
def attemptContrast (host : Host σ) (f : FacadeId) (algorithm : ContrastKind) :
    Act σ (Except Error ObjectId) := do
  let family := FacadeKind.contrast.family
  let q := Query.contrast algorithm
  match ← host.create q with
  | .ok o =>
    emit (.adopted f o)
    modifyBreaker f Breaker.succeed
    let displaced ← useCache f .main fun c => c.insert q.key o
    host.letDisplacedGo family q.key displaced.join
    return .ok o
  | .error e =>
    emit (.failed f)
    modifyBreaker f Breaker.fail
    let b := ((← facade? f).map Facade.breaker).getD {}
    reportFailure family host.env.config.failureThreshold b e
    return .error e

/-- The implementation for a kind of contrast enhancement from the cache. Without one, something
else is done. -/
def cachedContrast (f : FacadeId) (algorithm : ContrastKind)
    (otherwise : Act σ (Except Error ObjectId)) : Act σ (Except Error ObjectId) := do
  match ← useCache f .main fun c => c.get (.contrast algorithm) with
  | some (some o) =>
    pin (.object o)
    return .ok o
  | _ => otherwise

/-- Creates the implementation for a kind of contrast enhancement, unless creation has been given
up or is under way. It may have come into the cache since that was looked into. -/
def createContrast (host : Host σ) (f : FacadeId) (algorithm : ContrastKind) :
    Act σ (Except Error ObjectId) := do
  match (← facade? f).map Facade.breaker with
  | none => return .error gone
  | some b =>
    if b.isDisabled host.env.config.failureThreshold then
      return .error (.creationDisabled FacadeKind.contrast.family)
    else if b.creating then
      log .debug s!"{FacadeKind.contrast.family} creation in progress elsewhere"
      return .error .tryLater
    else
      modifyBreaker f Breaker.start
      let r ← cachedContrast f algorithm (host.attemptContrast f algorithm)
      modifyBreaker f Breaker.stop
      return r

/-- The implementation for a kind of contrast enhancement. One that is cached is always served. -/
def resolveContrast (host : Host σ) (f : FacadeId) (algorithm : ContrastKind) :
    Act σ (Except Error ObjectId) := do
  emit (.sought f)
  cachedContrast f algorithm (host.createContrast f algorithm)

/-! ## Work -/

/-- The error of a call whose implementation failed. A rejection of what it was given passes
unchanged. -/
def blame (name : String) (e : Error) : Act σ Error := do
  if e.isRejection then
    return e
  else
    log .warn s!"extension '{name}' failed: {e.message}"
    return .processFailed name e.message

/-- Pushes a parameter into an implementation. -/
def push (host : Host σ) (o : ObjectId) (object : AlgorithmObject) (p : Parameter) :
    Act σ (Except Error Unit) := do
  match ← host.invoke o (.set p) Except.isOk (host.env.code.set object.token p) with
  | .ok () => return .ok ()
  | .error e => return .error (← blame object.info.name e)

/-- Lets an implementation work. -/
def work (host : Host σ) (o : ObjectId) (object : AlgorithmObject) (job : Job) :
    Act σ (Except Error Unit × Job) := do
  let (r, written) ←
    host.invoke o .work (fun answer => answer.1.isOk) (host.env.code.work object.token job)
  match r with
  | .ok () => return (.ok (), job.adopt written)
  | .error e => return (.error (← blame object.info.name e), job.adopt written)

/-- Pushes a parameter into an implementation, if there is one to push, lets it work, and lets it
go. -/
def employ (host : Host σ) (o : ObjectId) (p : Option Parameter) (job : Job) :
    Act σ (Except Error Unit × Job) := do
  match (← get).objects[o]? with
  | none => return (.error (.invalidState "no such algorithm"), job)
  | some object =>
    let pushed ← match p with
      | some p => host.push o object p
      | none => pure (.ok ())
    let r ← match pushed with
      | .ok () => host.work o object job
      | .error e => pure (.error e, job)
    host.unpin (.object o)
    return r

/-! ## The calls by kind -/

/-- The parameter that a façade has now. -/
def parameterOf (f : FacadeId) : Act σ (Option Parameter) := do
  return (← facade? f).bind Facade.parameter

/-- A conversion, composition or decomposition. -/
def runConverter (host : Host σ) (f : FacadeId) (op : Operation) (key : ConversionKey)
    (job : Job) : Act σ (Except Error Unit × Job) := do
  let family := FacadeKind.converter.family
  let announcement := s!"{family} resolving {op.name} for {key.text}"
  match ← host.resolve f .converter op (op.query key) announcement with
  | .error e => return (.error e, job)
  | .ok o => host.employ o (← parameterOf f) job

/-- A generation of metadata. The algorithm is the one of the parameter at the beginning. -/
def runMetadata (host : Host σ) (f : FacadeId) (buffer : Surface) :
    Act σ (Except Error Unit × Job) := do
  let p ← parameterOf f
  let algorithm := match p with
    | some (.generation p) => p.algorithm
    | _ => .image
  let key : GenerationKey := ⟨buffer.description, buffer.format, algorithm⟩
  match ← host.resolve f .metadata .main (.generate key) none with
  | .error e => return (.error e, .inPlace buffer)
  | .ok o => host.employ o p (.inPlace buffer)

/-- An enhancement towards high dynamic range. -/
def runHdr (host : Host σ) (f : FacadeId) (buffer : Surface) :
    Act σ (Except Error Unit × Job) := do
  match ← host.resolve f .hdr .main (.hdr buffer.format) none with
  | .error e => return (.error e, .inPlace buffer)
  | .ok o => host.employ o (← parameterOf f) (.inPlace buffer)

/-- An enhancement of contrast. -/
def runContrast (host : Host σ) (f : FacadeId) (kind : ContrastKind) (job : Job) :
    Act σ (Except Error Unit × Job) := do
  match ← host.resolveContrast f kind with
  | .error e => return (.error e, job)
  | .ok o => host.employ o (← parameterOf f) job

/-! ## Detail enhancement -/

/-- An attempt at one level. -/
def attemptLevel (host : Host σ) (f : FacadeId) (p : DetailParameter) (level : DetailLevel)
    (job : Job) : Act σ (Except Error Unit × Job) := do
  match ← host.resolve f .detail .main (.detail level) none with
  | .error e => return (.error e, job)
  | .ok o => host.employ o (some (.detail { p with level })) job

/-- Goes down the levels until one succeeds. The outputs of a failed attempt are what the next one
works on. The first error that is no missing capability is reported in the end, or else that
there is no capability. -/
def descend (host : Host σ) (f : FacadeId) (p : DetailParameter) (target : DetailLevel) :
    List DetailLevel → Option Error → Job → Act σ (Except Error Unit × Job)
  | [], first, job =>
    return (.error (first.getD (.capabilityNotFound FacadeKind.detail.family
      s!"{target.name} or lower")), job)
  | level :: rest, first, job => do
    let family := FacadeKind.detail.family
    match ← host.attemptLevel f p level job with
    | (.ok (), job) =>
      if level ≠ target then
        log .debug s!"{family} fell back from {target.name} to {level.name}"
      return (.ok (), job)
    | (.error e, job) =>
      if level.lower?.isSome then
        count .fallbacks
      log .debug s!"{family} level {level.name} unavailable: {e.message}"
      host.descend f p target rest (first.or (if e.isNotFound then none else some e)) job

/-- The level at which the ladder is entered. A request for high quality is for the level with a
model if the output is smaller in both dimensions, and for the one without otherwise. -/
def targetLevel (requested : DetailLevel) (input output : Surface) : DetailLevel :=
  match requested with
  | .high | .highAisr =>
    if output.width < input.width ∧ output.height < input.height then .highAisr else .high
  | level => level

/-- The parameter of a detail façade, or the default one at the level of its kind. -/
def detailParameter (video : Bool) : Option Parameter → DetailParameter
  | some (.detail p) => p
  | _ => { level := if video then .video else .none }

/-- An enhancement of detail. Surfaces of one shape are copied, unless the level needs a model. -/
def runDetail (host : Host σ) (f : FacadeId) (video : Bool) (input output : Surface) :
    Act σ (Except Error Unit × Job) := do
  let p := detailParameter video (← parameterOf f)
  let job := Job.transform input output
  if video then
    host.attemptLevel f p .video job
  else
    let target := targetLevel p.level input output
    if target.needsModel = false ∧ input.sameShape output then
      log .trace s!"{FacadeKind.detail.family} 1:1 copy at {target.name}"
      match output.copyFrom input with
      | .ok copied => return (.ok (), .transform input copied)
      | .error e => return (.error e, job)
    else
      host.descend f p target target.descending none job

/-! ## Whole calls -/

/-- The work of a façade on valid surfaces. -/
def dispatch (host : Host σ) (f : FacadeId) (kind : FacadeKind) :
    Task → Act σ (Except Error Unit × Job)
  | .convert input output =>
    host.runConverter f .main (.ofSurfaces input output) (.transform input output)
  | .compose sdr gainmap image =>
    host.runConverter f .compose (.ofSurfaces sdr image) (.compose sdr gainmap image)
  | .decompose image sdr gainmap =>
    host.runConverter f .decompose (.ofSurfaces image sdr) (.decompose image sdr gainmap)
  | .generate buffer => host.runMetadata f buffer
  | .detail input output => host.runDetail f (kind = .videoDetail) input output
  | .hdr buffer => host.runHdr f buffer
  | .contrast algorithm input output =>
    host.runContrast f algorithm (.transform input output)

end Host

/-- The kind of façade does such work. -/
def FacadeKind.does : FacadeKind → Task → Bool
  | .converter, .convert .. | .converter, .compose .. | .converter, .decompose .. => true
  | .metadata, .generate _ => true
  | .detail, .detail .. | .videoDetail, .detail .. => true
  | .hdr, .hdr _ => true
  | .contrast, .contrast .. => true
  | _, _ => false

/-- The name of the work in spans. -/
def Task.operation : Task → String
  | compose .. => "compose"
  | decompose .. => "decompose"
  | _ => "process"

namespace Host

variable {σ : Type}

open Act

/-- Gives work to a façade that the running call holds: the surfaces are checked, and then it is
done. -/
def carryOut (host : Host σ) (f : FacadeId) (kind : FacadeKind) (task : Task) :
    Act σ (Except Error Unit × Job) := do
  if host.env.config.spans.facades then
    emit (.span .debug "facade" [("family", kind.family), ("operation", task.operation)])
  match task.job.validate with
  | .error e => return (.error e, task.job)
  | .ok () => host.dispatch f kind task

/-- Gives work to a façade, which stays while it lasts. -/
def process (host : Host σ) (f : FacadeId) (task : Task) : Act σ Reply := do
  match ← facade? f with
  | none => return .refused
  | some facade =>
    if facade.kind.does task then
      pin (.facade f)
      let (r, job) ← host.carryOut f facade.kind task
      host.unpin (.facade f)
      return .worked r job
    else
      return .refused

/-- Sets the parameter of a façade. -/
def setParameter (f : FacadeId) (p : Parameter) : Act σ Reply := do
  match ← facade? f with
  | none => return .refused
  | some facade =>
    if Facade.takes facade.kind p then
      match facade.accept p with
      | .ok facade =>
        modifyFacade f fun _ => facade
        return .outcome (.ok ())
      | .error e => return .outcome (.error e)
    else
      return .refused

end Host

end ImageDispatch
