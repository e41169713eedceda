import ImageDispatch.Boundary.Instances
import ImageDispatch.Rehearsal.Cast
import ImageDispatch.Rehearsal.Lines

/-!
# Sessions

A session works with a dispatcher step by step, and gives names to what it holds.

* `Step`: what can be done. `Answer`: what comes of it.
* `Session.take`: takes one step.
* `Cast.play`: takes all steps, and tells after each what was noted and logged meanwhile.
-/

namespace ImageDispatch.Rehearsal

/-! ## Steps -/

/-- The fields of a parameter that are given. The others keep their default. -/
structure ParameterFields where
  intent : Option RenderIntent := none
  luminance : Option Binary32 := none
  algorithm : Option GenerationAlgorithm := none
  uri : Option String := none
  level : Option DetailLevel := none

/-- The parameter for capabilities of a shape, unless they take none. -/
def ParameterFields.parameter? (p : ParameterFields) : PayloadShape → Option Parameter
  | .conversion =>
    let d : ConversionParameter := {}
    some (.conversion ⟨p.intent.getD d.intent, p.luminance.getD d.brightness⟩)
  | .generation =>
    let d : GenerationParameter := {}
    some (.generation ⟨p.algorithm.getD d.algorithm⟩)
  | .detail =>
    let d : DetailParameter := {}
    some (.detail ⟨p.uri.getD d.uri, p.level.getD d.level⟩)
  | .hdr =>
    let d : HdrParameter := {}
    some (.hdr ⟨p.luminance.getD d.peak⟩)
  | .contrast =>
    let d : ContrastParameter := {}
    some (.contrast ⟨p.uri.getD d.uri⟩)
  | .refresh => none

/-- The shape of the capabilities behind a façade. -/
def shapeOf : FacadeKind → PayloadShape
  | .converter => .conversion
  | .metadata => .generation
  | .detail | .videoDetail => .detail
  | .hdr => .hdr
  | .contrast => .contrast

/-- The surfaces that are given for a call. -/
structure Surfaces where
  input : Surface
  output : Surface
  buffer : Surface

/-- A call of a converter, past any façade. -/
inductive ConverterCall
  | set
  | get
  | process
  | compose
  | decompose
  deriving DecidableEq

/-- Which extensions are collected. -/
inductive Collection
  | all (family : ExtensionFamily)
  /-- Those of the general family that are linked in. -/
  | static
  | dynamic (family : ExtensionFamily)
  deriving DecidableEq

/-- An id, as a number or by name. -/
inductive IdName
  | raw (id : Int32)
  | named (name : String)
  deriving DecidableEq

/-- A step of a session. -/
inductive Step
  | make (name : String) (kind : FacadeKind)
  | drop (name : String)
  | set (name : String) (fields : ParameterFields)
  | get (name : String)
  | process (name : String) (surfaces : Surfaces) (algorithm : ContrastKind)
  | compose (name : String) (sdr gainmap image : Surface)
  | decompose (name : String) (image sdr gainmap : Surface)
  | facade (name : String)
  | find (q : Query)
  | supported (q : Query)
  /-- Create an algorithm, and keep it under a name if one is given. -/
  | create (q : Query) (name : Option String)
  | direct (name : String) (call : ConverterCall) (fields : ParameterFields) (surfaces : Surfaces)
  | collect (c : Collection)
  | lease (name : String)
  | increase
  | decrease
  | manager
  | registrations
  | handle (name : String) (kind : FacadeKind)
  | cloneHandle (name copy : String)
  | table
  | enroll (kind : FacadeKind) (name : Option String)
  | handleOf (id : IdName) (name : Option String)
  | retire (id : IdName) (family : String)

/-! ## Answers -/

/-- How a façade looks. -/
structure FacadeView where
  kind : FacadeKind
  cached : Nat
  main : Nat
  /-- Number of creations that failed, and whether they have been given up. -/
  failures : UInt32 × Bool
  text : String

/-- What comes of a step. -/
inductive Answer
  | nothing
  | flag (yes : Bool)
  | text (t : Option String)
  | outcome (r : Except Error Unit)
  /-- How work ended, with the surfaces that it writes. -/
  | worked (r : Except Error Unit) (surfaces : List (String × Surface))
  | rate (r : Except Error UInt32)
  | facade (view : FacadeView)
  | handle (r : Except Error FacadeView)
  | found (s : Option Selection)
  | created (r : Except Error AlgorithmObject)
  | infos (list : List ExtensionInfo)
  | lease (spans : SpanSettings) (text : String)
  | registrations (list : List (String × String))
  /-- The dispatcher with its table, the slots that are taken, the queries. -/
  | table (text : String) (used queries : Nat)
  | id (r : Except Error Int32)
  /-- How the removal of an id ended, and the id afterwards. -/
  | retired (r : Except Error Unit) (id : Int32)

/-! ## Sessions -/

/-- A table of names. A name has the thing that was given it last. -/
abbrev Names (α : Type) := List (String × α)

namespace Names

variable {α : Type}

/-- The thing of a name. -/
def find? (names : Names α) (name : String) : Option α :=
  (List.find? (fun entry => entry.1 = name) names).map Prod.snd

/-- The names without one. -/
def erase (names : Names α) (name : String) : Names α := names.filter fun entry => entry.1 ≠ name

/-- Gives a name to a thing. -/
def set (names : Names α) (name : String) (a : α) : Names α := (name, a) :: names.erase name

end Names

/-- An algorithm that is kept, with the shape of its capabilities. -/
structure KeptAlgorithm where
  object : ObjectId
  shape : PayloadShape

/-- The state of a session. -/
structure Session where
  world : World Memory
  algorithms : Names KeptAlgorithm := []
  facades : Names FacadeId := []
  handles : Names FacadeId := []
  leases : Names Unit := []
  ids : Names Int32 := []
  told : Nat := 0

/-- A part of a session. -/
abbrev Play := StateM Session

namespace Session

/-- Lets the dispatcher act. -/
def act {α : Type} (a : Act Memory α) : Play α := do
  let s ← get
  let (answer, world) := a.run s.world
  set { s with world }
  return answer

/-- The look of a façade. -/
def view? (config : Config) (w : World Memory) (f : FacadeId) : Option FacadeView := do
  let facade ← w.facade? f
  return { kind := facade.kind
           cached := facade.cached
           main := (facade.cache .main).size
           failures := (facade.breaker.failures,
             facade.breaker.isDisabled config.failureThreshold)
           text := facade.repr config.failureThreshold }

/-- The record form of a dispatcher. -/
def managerText (env : Environment Memory) (w : World Memory) : String :=
  Text.record "ExtensionManager" [("statics", toString env.statics.length),
    ("provider", Text.optional (env.sourceName?.map Text.quoted)),
    ("instances", toString w.instances), ("queries", toString w.queries)]

/-- The record form of a dispatcher with its table. -/
def runtimeText (env : Environment Memory) (w : World Memory) : String :=
  Text.record "VpeRuntime" [("manager", managerText env w), ("instances", w.table.repr)]

/-- The name of the record of a façade that can be shared. -/
def handleName : FacadeKind → String
  | .converter => "ColorSpaceConverter"
  | .metadata => "MetadataGenerator"
  | .detail | .videoDetail => "DetailEnhancer"
  | .hdr => "AihdrEnhancer"
  | .contrast => "ContrastEnhancer"

/-- The record form of a façade that can be shared. -/
def handleText (v : FacadeView) : String := Text.tagged (handleName v.kind) v.text

variable (host : Host Memory)

/-- Asks the dispatcher. -/
def ask (r : Request) : Play Reply := act (host.answer r)

/-- Lets go of what a name had before, if it had something. -/
def letGo (old : Option Ref) : Play Unit := do
  if let some r := old then
    discard (ask host (.drop r))

/-- Gives a name to an algorithm. -/
def keepAlgorithm (name : String) (a : KeptAlgorithm) : Play Unit := do
  let old := (← get).algorithms.find? name
  modify fun s => { s with algorithms := s.algorithms.set name a }
  letGo host (old.map fun a => .object a.object)

/-- Gives a name to a façade. -/
def keepFacade (name : String) (f : FacadeId) : Play Unit := do
  let old := (← get).facades.find? name
  modify fun s => { s with facades := s.facades.set name f }
  letGo host (old.map .facade)

/-- Gives a name to a façade that can be shared. -/
def keepHandle (name : String) (f : FacadeId) : Play Unit := do
  let old := (← get).handles.find? name
  modify fun s => { s with handles := s.handles.set name f }
  letGo host (old.map .facade)

/-- Gives a name to a lease. -/
def keepLease (name : String) : Play Unit := do
  let old := (← get).leases.find? name
  modify fun s => { s with leases := s.leases.set name () }
  letGo host (old.map fun _ => .lease)

/-- Lets go of the first thing that has a name: an algorithm, a façade, a façade that can be
shared, or a lease. -/
def dropNamed (name : String) : Play Bool := do
  let s ← get
  match s.algorithms.find? name, s.facades.find? name, s.handles.find? name,
      s.leases.find? name with
  | some a, _, _, _ =>
    set { s with algorithms := s.algorithms.erase name }
    letGo host (some (.object a.object))
    return true
  | none, some f, _, _ =>
    set { s with facades := s.facades.erase name }
    letGo host (some (.facade f))
    return true
  | none, none, some f, _ =>
    set { s with handles := s.handles.erase name }
    letGo host (some (.facade f))
    return true
  | none, none, none, some () =>
    set { s with leases := s.leases.erase name }
    letGo host (some .lease)
    return true
  | none, none, none, none => return false

/-- The façade of a name, which may be one that can be shared. -/
def facadeNamed (name : String) : Play (Option (FacadeId × Facade)) := do
  let s ← get
  let some f := (s.facades.find? name).or (s.handles.find? name) | return none
  let some facade := s.world.facade? f | return none
  return some (f, facade)

/-- The work that a kind of façade is for, and the name of its output. -/
def mainTask (kind : FacadeKind) (s : Surfaces) (algorithm : ContrastKind) : Task × String :=
  match kind with
  | .converter => (.convert s.input s.output, "out")
  | .detail | .videoDetail => (.detail s.input s.output, "out")
  | .contrast => (.contrast algorithm s.input s.output, "out")
  | .metadata => (.generate s.buffer, "buf")
  | .hdr => (.hdr s.buffer, "buf")

/-- How work ended, with its outputs under names. -/
def workedAnswer (names : List String) : Reply → Answer
  | .worked r job => .worked r (names.zip job.outputs)
  | _ => .nothing

/-- Gives work to a façade. While it is a contrast enhancer, scripted code can come back to it. -/
def giveWork (f : FacadeId) (kind : FacadeKind) (task : Task) (names : List String) :
    Play Answer := do
  let mark (f : Option FacadeId) : Play Unit :=
    modify fun s => { s with world.memory.atWork := f }
  if kind = .contrast then
    mark (some f)
  let reply ← ask host (.process f task)
  mark none
  return workedAnswer names reply

/-- Takes a step with a façade. -/
def withFacade (name : String) (use : FacadeId → Facade → Play Answer) : Play Answer := do
  match ← facadeNamed name with
  | some (f, facade) => use f facade
  | none => return .nothing

/-- The outcome in a reply. -/
def outcomeAnswer : Reply → Answer
  | .outcome r => .outcome r
  | _ => .nothing

/-! ## Direct calls -/

/-- Calls a converter that is kept. -/
def callConverter (o : ObjectId) (call : ConverterCall) (p : Parameter) (s : Surfaces) :
    Play Answer := do
  match call with
  | .set => return outcomeAnswer (← ask host (.direct o (.set p)))
  | .get =>
    match ← ask host (.direct o .get) with
    | .parameter p => return .text (p.map fun p => parameterText (.conversion p))
    | _ => return .nothing
  | .process => work (.transform s.input s.output)
  | .compose => work (.compose s.input s.input s.output)
  | .decompose => work (.decompose s.input s.output s.input)
where
  /-- Lets the converter work. A decomposition has a gain map beside its output. -/
  work (job : Job) : Play Answer := do
    return workedAnswer ["out", "gainmap"] (← ask host (.direct o (.work job)))

/-- Sets the parameter of an algorithm that is kept, and lets it work if that went well. -/
def callWithParameter (o : ObjectId) (p : Parameter) (job : Job) (name : String) :
    Play Answer := do
  match ← ask host (.direct o (.set p)) with
  | .outcome (.ok ()) => return workedAnswer [name] (← ask host (.direct o (.work job)))
  | .outcome (.error e) => return .worked (.error e) ([name].zip job.outputs)
  | _ => return .nothing

/-- Calls an algorithm that is kept. -/
def callKept (a : KeptAlgorithm) (call : ConverterCall) (fields : ParameterFields)
    (s : Surfaces) : Play Answer := do
  match a.shape, fields.parameter? a.shape with
  | .conversion, some p => callConverter host a.object call p s
  | .generation, some p | .hdr, some p =>
    callWithParameter host a.object p (.inPlace s.buffer) "buf"
  | .detail, some p | .contrast, some p =>
    callWithParameter host a.object p (.transform s.input s.output) "out"
  | .refresh, _ =>
    match ← ask host (.direct a.object (.rate s.input)) with
    | .rate r => return .rate r
    | _ => return .nothing
  | _, none => return .nothing

/-! ## Steps -/

/-- Collects extensions. -/
def collect : Collection → Play Answer
  | .all family => infos (.load family true true)
  | .static => infos (.load .general true false)
  | .dynamic family => infos (.load family false true)
where
  /-- The descriptions of the extensions in a reply. -/
  infos (r : Request) : Play Answer := do
    match ← ask host r with
    | .descriptors list => return .infos (list.map Descriptor.info)
    | _ => return .nothing

/-- The number of an id. -/
def idOf : IdName → Play Int32
  | .raw id => return id
  | .named name => return ((← get).ids.find? name).getD InstanceId.invalid

/-- Makes a façade that the session holds. -/
def makeFacade (kind : FacadeKind) (keep : FacadeId → Play Answer) : Play Answer := do
  match ← ask host (.facade kind) with
  | .facade f => keep f
  | _ => return .nothing

/-- How a façade that can be shared looks. -/
def handleAnswer (f : FacadeId) : Play Answer := do
  match view? host.env.config (← get).world f with
  | some v => return .handle (.ok v)
  | none => return .nothing

/-- Creates an algorithm. It is let go at once if it gets no name. -/
def create (q : Query) (name : Option String) : Play Answer := do
  match ← ask host (.create q) with
  | .created (.error e) => return .created (.error e)
  | .created (.ok o) =>
    match (← get).world.objects[o]?, name with
    | none, _ => return .nothing
    | some object, some name =>
      keepAlgorithm host name ⟨o, q.type.shape⟩
      return .created (.ok object)
    | some object, none =>
      letGo host (some (.object o))
      return .created (.ok object)
  | _ => return .nothing

/-- Takes a lease. -/
def lease (name : String) : Play Answer := do
  discard (ask host .lease)
  let text := s!"ExtensionLease \x7b .. \x7d {(← get).world.instances}"
  keepLease host name
  return .lease host.env.config.spans text

/-- Makes a façade, and stores it in the table. -/
def enroll (kind : FacadeKind) (name : Option String) : Play Answer := do
  let r ← act do
    let f ← host.makeFacade kind
    host.enroll f kind.family
  if let some name := name then
    let id := match r with
      | .ok id => id
      | .error _ => InstanceId.invalid
    modify fun s => { s with ids := s.ids.set name id }
  return .id r

/-- Shares the façade behind an id. -/
def handleOf (id : Int32) (name : Option String) : Play Answer := do
  match ← act (Host.lookUp id) with
  | .error e => return .handle (.error e)
  | .ok (f, _) =>
    if let some name := name then
      modify fun s => { s with world.held := .facade f :: s.world.held }
      keepHandle host name f
    handleAnswer host f

/-- Takes a step. -/
def take : Step → Play Answer
  | .make name kind => makeFacade host kind fun f => do
    keepFacade host name f
    return .nothing
  | .drop name => return .flag (← dropNamed host name)
  | .set name fields => withFacade name fun f facade => do
    match fields.parameter? (shapeOf facade.kind) with
    | some p => return outcomeAnswer (← ask host (.set f p))
    | none => return .nothing
  | .get name => withFacade name fun _ facade =>
    return .text (facade.parameter.map parameterText)
  | .process name surfaces algorithm => withFacade name fun f facade => do
    let (task, output) := mainTask facade.kind surfaces algorithm
    giveWork host f facade.kind task [output]
  | .compose name sdr gainmap image => withFacade name fun f facade =>
    giveWork host f facade.kind (.compose sdr gainmap image) ["hdr"]
  | .decompose name image sdr gainmap => withFacade name fun f facade =>
    giveWork host f facade.kind (.decompose image sdr gainmap) ["sdr", "gainmap"]
  | .facade name => withFacade name fun f _ => do
    match view? host.env.config (← get).world f with
    | some v => return .facade v
    | none => return .nothing
  | .find q => do
    match ← ask host (.find q) with
    | .found s => return .found s
    | _ => return .nothing
  | .supported q => return .flag (← act (host.supports q))
  | .create q name => create host q name
  | .direct name call fields surfaces => do
    match (← get).algorithms.find? name with
    | some a => callKept host a call fields surfaces
    | none => return .nothing
  | .collect c => collect host c
  | .lease name => lease host name
  | .increase => do
    discard (ask host .increase)
    return .nothing
  | .decrease => do
    discard (ask host .decrease)
    return .nothing
  | .manager => return .text (managerText host.env (← get).world)
  | .registrations =>
    return .registrations (host.env.statics.map fun r => (r.repr, r.name))
  | .handle name kind => makeFacade host kind fun f => do
    keepHandle host name f
    handleAnswer host f
  | .cloneHandle name copy => do
    if let some f := (← get).handles.find? name then
      discard (ask host (.hold (.facade f)))
      keepHandle host copy f
    return .nothing
  | .table => do
    let w := (← get).world
    return .table (runtimeText host.env w) w.table.used w.queries
  | .enroll kind name => enroll host kind name
  | .handleOf id name => do handleOf host (← idOf id) name
  | .retire id family => do
    let id ← idOf id
    let r ← act (host.retire id family)
    return .retired r (if r.isOk then InstanceId.invalid else id)

end Session

/-! ## Whole sessions -/

/-- What is told after a step. -/
structure Entry (α : Type) where
  answer : α
  notes : List String
  log : List String
  queries : Nat
  instances : Nat
  slots : Nat

/-- The session of a cast before its first step. -/
def Cast.opening (c : Cast) : Session where
  world := { memory := {}, journal := c.report.reverse }

/-- Does something with a dispatcher, and tells what has been noted and logged since the last
time. -/
def observe {α : Type} (p : Play α) (s : Session) : Entry α × Session :=
  let (answer, s) := p.run s
  let w := s.world
  let events := w.journal.take (w.journal.length - s.told)
  ({ answer
     notes := noteLines w.memory.notes
     log := logLines events
     queries := w.queries
     instances := w.instances
     slots := w.table.used },
    { s with world.memory.notes := [], told := w.journal.length })

/-- Takes the steps of a list. -/
def playAll {α β : Type} (take : α → Play β) : List α → Session → List (Entry β) × Session
  | [], s => ([], s)
  | step :: rest, s =>
    let (entry, s) := observe (take step) s
    let (entries, s) := playAll take rest s
    (entry :: entries, s)

/-- A session with a cast: what is told after each step, and the metrics in the end. -/
def Cast.play (c : Cast) (steps : List Step) : List (Entry Answer) × List (String × Nat) :=
  let host := c.host
  let (entries, s) := playAll (Session.take host) steps c.opening
  (entries, metrics s.world.journal.reverse)

end ImageDispatch.Rehearsal
