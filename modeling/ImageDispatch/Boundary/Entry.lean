import ImageDispatch.Boundary.Descriptor
import ImageDispatch.Boundary.Instances

/-!
# Entry points for callers in C

* `InstanceFamily`: the families of façades that callers in C can have.
* `Host.createInstance`, `Host.processImage`, `Host.destroyInstance`: the entry points. Each ends
  with a status code. A null pointer is an invalid value.
-/

namespace ImageDispatch

/-- The families of façades behind ids. -/
inductive InstanceFamily
  /-- Conversion between color spaces. -/
  | converter
  | metadata
  | detail
  | hdr
  deriving DecidableEq

namespace InstanceFamily

/-- The name of the family. -/
def name : InstanceFamily → String
  | converter => FacadeKind.converter.family
  | metadata => FacadeKind.metadata.family
  | detail => FacadeKind.detail.family
  | hdr => FacadeKind.hdr.family

/-- The work of the family on the surfaces of a call. A family that works in place has no use for
an input. -/
def task : InstanceFamily → (input output : Surface) → Task
  | converter, input, output => .convert input output
  | metadata, _, buffer => .generate buffer
  | detail, input, output => .detail input output
  | hdr, _, buffer => .hdr buffer

/-- The family reads one surface and writes another one. -/
def hasInput : InstanceFamily → Bool
  | converter | detail => true
  | metadata | hdr => false

end InstanceFamily

namespace Host

variable {σ : Type}

open Act

/-! ## First use -/

/-- Makes the dispatcher for callers in C, unless they have one: `announcement` tells how that
was. -/
def begin (announcement : List Event) : Act σ Unit := do
  if (← get).started = false then
    modify fun w => { w with started := true }
    announcement.forM emit

/-- How a dispatcher that is made from settings is announced. -/
def announcement (lookup : String → Option String) : List Event :=
  .log .info "initializing vpe runtime from environment" :: Config.settingReport lookup

/-! ## Status codes -/

/-- The status code of an outcome. A failure is noted. -/
def status : Except Error Unit → Act σ Status
  | .ok () => return .ok
  | .error e => do
    log .debug s!"c entry point failed: {e.message}"
    return e.status

/-! ## Entry points -/

/-- The kind of façade, with the parameter that it starts with. The level of a detail enhancer
comes as a number. -/
def kindFor (family : InstanceFamily) (level : Int32) :
    Except Error (FacadeKind × Option Parameter) :=
  match family with
  | .converter => .ok (.converter, none)
  | .metadata => .ok (.metadata, none)
  | .hdr => .ok (.hdr, none)
  | .detail =>
    match DetailLevel.ofRaw? level.toInt with
    | none => .error (.invalidValue s!"unknown detail level {level}")
    | some l => .ok (if l = .video then .videoDetail else .detail, some (.detail { level := l }))

/-- Makes a façade and stores it. -/
def createOutcome (host : Host σ) (family : InstanceFamily) (level : Int32) :
    Act σ (Except Error Int32) := do
  match kindFor family level with
  | .error e => return .error e
  | .ok (kind, p) =>
    let f ← host.makeFacade kind
    if let some p := p then
      discard (setParameter f p)
    host.enroll f family.name

/-- Creates an instance. The id is left where `pointer` leads, unless it is null: the answer has the
number there before and the one afterwards. -/
def createInstance (host : Host σ) (announcement : List Event) (family : InstanceFamily)
    (level : Int32) (pointer : Option Int32) : Act σ (Status × Option Int32) := do
  match pointer with
  | none => return (.invalidVal, none)
  | some _ =>
    begin announcement
    match ← host.createOutcome family level with
    | .ok id => return (← status (.ok ()), some id)
    | .error e => return (← status (.error e), some InstanceId.invalid)

/-- Destroys the instance whose id is where `pointer` leads. The number there is reset if that
succeeds. -/
def destroyInstance (host : Host σ) (announcement : List Event) (family : InstanceFamily)
    (pointer : Option Int32) : Act σ (Status × Option Int32) := do
  match pointer with
  | none => return (.invalidVal, none)
  | some id =>
    begin announcement
    let r ← host.retire id family.name
    return (← status r, some (if r.isOk then InstanceId.invalid else id))

/-- The surface behind a pointer to a descriptor. -/
def readSurface (what : String) : Option ImageDescriptor → Except Error Surface
  | none => .error (.invalidValue s!"null {what}")
  | some d => d.toSurface

/-- The surfaces of a call: the input, if the family has one, and the output. -/
def readSurfaces (family : InstanceFamily) (input output : Option ImageDescriptor) :
    Except Error (Surface × Surface) := do
  if family.hasInput then
    let input ← readSurface "input buffer" input
    let output ← readSurface "buffer" output
    return (input, output)
  else
    let buffer ← readSurface "buffer" output
    return (buffer, buffer)

/-- The surface that a job leaves. -/
def written (job : Job) : Option Surface := job.outputs.head?

/-- Lets a façade that the running call holds work on the memory of the caller. The answer has that
memory afterwards. -/
def processSurfaces (host : Host σ) (f : FacadeId) (family : InstanceFamily)
    (input output : Option ImageDescriptor) :
    Act σ (Except Error Unit × Option ImageDescriptor) := do
  match readSurfaces family input output with
  | .error e => return (.error e, output)
  | .ok (source, target) =>
    match ← host.process f (family.task source target) with
    | .worked (.ok ()) job =>
      match output, written job with
      | some d, some surface =>
        match d.writeBack surface with
        | .ok d => return (.ok (), some d)
        | .error e => return (.error e, output)
      | _, _ => return (.ok (), output)
    | .worked (.error e) _ => return (.error e, output)
    | _ => return (.error gone, output)

/-- Lets the façade behind an id work. The answer has the memory of the caller afterwards. -/
def processOutcome (host : Host σ) (family : InstanceFamily) (id : Int32)
    (input output : Option ImageDescriptor) :
    Act σ (Except Error Unit × Option ImageDescriptor) := do
  match ← lookUp id with
  | .error e => return (.error e, output)
  | .ok (f, kind) =>
    if kind.family ≠ family.name then
      return (.error (.invalidInstance id), output)
    else
      pin (.facade f)
      let r ← host.processSurfaces f family input output
      host.unpin (.facade f)
      return r

/-- Lets an instance work. -/
def processImage (host : Host σ) (announcement : List Event) (family : InstanceFamily)
    (id : Int32) (input output : Option ImageDescriptor) :
    Act σ (Status × Option ImageDescriptor) := do
  begin announcement
  let (r, output) ← host.processOutcome family id input output
  return (← status r, output)

end Host

end ImageDispatch
