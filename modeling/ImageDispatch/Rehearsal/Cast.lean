import ImageDispatch.Dispatch.Answer
import ImageDispatch.Rehearsal.Script

/-!
# The cast of a rehearsal

* `Memory`: what scripted code remembers: its notes, how far each script has come, and the objects.
* `Cast`: all scripted code of a rehearsal.
* `Cast.environment`: the cast as the code that a dispatcher works with.
-/

namespace ImageDispatch.Rehearsal

/-- A script that is taken turn by turn. -/
inductive Turn
  | creation (script : Nat)
  /-- The calls of a method of the objects of an extension. -/
  | call (script : Nat) (method : ScriptedMethod)
  | opening
  | registering
  deriving DecidableEq

/-- An object of a scripted extension. -/
structure ScriptedObject where
  script : Nat
  number : Nat

/-- What scripted code remembers. -/
structure Memory where
  notes : List String := []
  turns : List (Turn × Nat) := []
  created : Nat := 0
  objects : Array ScriptedObject := #[]
  isOpen : Bool := false
  atWork : Option FacadeId := none

namespace Memory

/-- Notes a line. -/
def note (m : Memory) (line : String) : Memory := { m with notes := line :: m.notes }

/-- Takes a turn of a script, and tells how many were taken before. -/
def take (m : Memory) (t : Turn) : Nat × Memory :=
  let n := ((m.turns.find? fun entry => entry.1 = t).map Prod.snd).getD 0
  (n, { m with turns := (t, n + 1) :: m.turns.filter fun entry => entry.1 ≠ t })

/-- Makes an object. -/
def addObject (m : Memory) (script number : Nat) : Token × Memory :=
  (m.objects.size, { m with objects := m.objects.push ⟨script, number⟩ })

end Memory

/-! ## Extensions -/

/-- How a call of the contrast enhancer at work ended, in the notes. -/
def verdict : Reply → String
  | .worked (.ok ()) _ => "ok"
  | .worked (.error e) _ => e.kind
  | _ => "refused"

/-- The smallest surface. -/
def pixel : Surface := .packed 1 1 .rgba8888

/-- A creation. -/
def createScripted (scripts : Array ExtensionScript) (creator : Creator) (m : Memory) :
    Foreign Memory (Option Token) :=
  match scripts[creator.number]? with
  | none => .done m none
  | some s =>
    if s.manner = .silent then
      let (token, m) := m.addObject creator.number 0
      .done m (some token)
    else
      let (turn, m) := m.take (.creation creator.number)
      let creation := (inTurn s.creations turn).getD .object
      if creation = .nothing then .done (m.note s!"create {s.name} none") none
      else
        let number := m.created + 1
        let m := { m with created := number }.note s!"create {s.name}#{number}"
        let (token, m) := m.addObject creator.number number
        match creation, m.atWork with
        | .afterCall kind, some f =>
          .ask m (.process f (.contrast kind pixel pixel)) fun m reply =>
            .done (m.note s!"reenter {verdict reply}") (some token)
        | _, _ => .done m (some token)

/-- The script behind a token, and the object. -/
def scriptOf? (scripts : Array ExtensionScript) (token : Token) (m : Memory) :
    Option (ExtensionScript × ScriptedObject) := do
  let object ← m.objects[token]?
  let script ← scripts[object.script]?
  return (script, object)

/-- A call of a scripted method: it is noted, with `detail`, and ends as the script says. -/
def call (s : ExtensionScript) (object : ScriptedObject) (method : ScriptedMethod)
    (detail : String) (m : Memory) : Outcome × Memory :=
  match s.manner with
  | .bare => (.ok (), m)
  | .silent => ((inTurn (s.outcomes method) 0).getD (.ok ()), m)
  | .noting =>
    let (turn, m) := m.take (.call object.script method)
    let outcome := (inTurn (s.outcomes method) turn).getD (.ok ())
    let failed := if outcome.isOk then "" else " err"
    (outcome, m.note s!"{method.name} {s.name}#{object.number}{detail}{failed}")

/-- A call without surfaces. -/
def callPlain (scripts : Array ExtensionScript) (method : ScriptedMethod) (detail : String)
    (token : Token) (m : Memory) : Foreign Memory Outcome :=
  match scriptOf? scripts token m with
  | none => .done m (.ok ())
  | some (s, object) =>
    let (outcome, m) := call s object method detail m
    .done m outcome

/-- The job after the effects on its outputs. An effect that fails ends it. -/
def applyEffects (s : ExtensionScript) (number : Nat) : Job → Outcome × Job
  | .transform input output =>
    match s.effect.1.apply number (some input) output with
    | .ok output => (.ok (), .transform input output)
    | .error e => (.error e, .transform input output)
  | .inPlace buffer =>
    match s.effect.1.apply number none buffer with
    | .ok buffer => (.ok (), .inPlace buffer)
    | .error e => (.error e, .inPlace buffer)
  | .compose sdr gainmap hdr =>
    match s.effect.1.apply number (some sdr) hdr with
    | .ok hdr => (.ok (), .compose sdr gainmap hdr)
    | .error e => (.error e, .compose sdr gainmap hdr)
  | .decompose hdr sdr gainmap =>
    match s.effect.1.apply number (some hdr) sdr with
    | .error e => (.error e, .decompose hdr sdr gainmap)
    | .ok sdr =>
      match s.effect.2.apply number (some hdr) gainmap with
      | .ok gainmap => (.ok (), .decompose hdr sdr gainmap)
      | .error e => (.error e, .decompose hdr sdr gainmap)

/-- The scripted method for a job. -/
def methodFor : Job → ScriptedMethod
  | .transform .. | .inPlace _ => .process
  | .compose .. => .compose
  | .decompose .. => .decompose

/-- The work of an extension that has the required methods only. -/
def workBare : Job → Outcome
  | .compose .. => .error (.operationNotSupported "compose_image")
  | .decompose .. => .error (.operationNotSupported "decompose_image")
  | _ => .ok ()

/-- The work of a scripted object. -/
def workScripted (scripts : Array ExtensionScript) (token : Token) (job : Job) (m : Memory) :
    Foreign Memory (Outcome × Job) :=
  match scriptOf? scripts token m with
  | none => .done m (.ok (), job)
  | some (s, object) =>
    if s.manner = .bare then .done m (workBare job, job)
    else
      let (outcome, m) := call s object (methodFor job) "" m
      if outcome.isOk || s.isDirty then
        match applyEffects s object.number job with
        | (.ok (), job) => .done m (outcome, job)
        | (.error e, job) => .done m (.error e, job)
      else .done m (outcome, job)

/-- The refresh rate that a scripted object chooses. -/
def rateScripted (scripts : Array ExtensionScript) (token : Token) (_ : Surface) (m : Memory) :
    Foreign Memory (Except Error UInt32) :=
  match scriptOf? scripts token m with
  | none => .done m (.ok 0)
  | some (s, object) =>
    if s.manner = .bare then .done m (.ok 1)
    else
      let (outcome, m) := call s object .process "" m
      .done m (outcome.map fun _ => s.rate)

/-- The code of scripted extensions. -/
def scriptedCode (scripts : Array ExtensionScript) : ExtensionCode Memory where
  create := createScripted scripts
  init := callPlain scripts .init ""
  deinit := callPlain scripts .deinit ""
  set token p := callPlain scripts .set (" " ++ parameterText p) token
  get _ m := .done m none
  work := workScripted scripts
  rate := rateScripted scripts

/-! ## Sources -/

/-- A scripted registration that is linked in. -/
structure RegistrationScript where
  name : String
  family : ExtensionFamily := .general
  isMissing : Bool := false
  extensions : List ExtensionScript := []

/-- A scripted source of dynamic extensions. -/
structure ProviderScript where
  name : String
  extensions : List ExtensionScript := []
  openings : List (Except LoadError Unit) := []
  registerings : List (Except LoadError Unit) := []

/-- What scripts register when they are numbered from `first` on. -/
def descriptorsFrom (first : Nat) (scripts : List ExtensionScript) : List Descriptor :=
  (scripts.zipIdx first).map fun entry => entry.1.descriptor ⟨entry.2⟩

/-- A callback that appends what scripts register. -/
def registerFrom (first : Nat) (scripts : List ExtensionScript) : Register Memory :=
  fun m => .done m (descriptorsFrom first scripts)

/-- A scripted source, with its extensions numbered from `first` on. -/
def ProviderScript.provider (p : ProviderScript) (first : Nat) : Provider Memory where
  name := p.name
  openUp m :=
    let (turn, m) := m.take .opening
    match (inTurn p.openings turn).getD (.ok ()) with
    | .ok () => .done ({ m with isOpen := true }.note "open") (.ok ())
    | .error e => .done (m.note "open err") (.error e)
  close m := .done ({ m with isOpen := false }.note "close") ()
  register family m :=
    if m.isOpen then
      let (turn, m) := m.take .registering
      match (inTurn p.registerings turn).getD (.ok ()) with
      | .ok () =>
        let list := ((p.extensions.zipIdx first).filter fun entry =>
          entry.1.family = family).map fun entry => entry.1.descriptor ⟨entry.2⟩
        .done (m.note s!"register {family.name} {list.length}") (list, .ok list.length)
      | .error e => .done (m.note s!"register {family.name} err") ([], .error e)
    else .done (m.note s!"register {family.name} closed") ([], .error .notOpen)

/-- A scripted bootstrap service. -/
def notingService : Service Memory where
  connect m := .done (m.note "connect") ()
  disconnect m := .done (m.note "disconnect") ()

/-- All scripted code of a rehearsal. -/
structure Cast where
  config : Config := .staticOnly
  /-- What was logged while the configuration was made. -/
  report : List Event := []
  registrations : List RegistrationScript := []
  provider : Option ProviderScript := none
  /-- There is a bootstrap service, which notes its calls. -/
  hasService : Bool := false
  shelf : List ExtensionScript := []
  /-- Loads the library at a path, at any time the same, with the extensions of libraries numbered
  from the given number on. -/
  loader : Nat → String → Except String (Library (Register Memory)) :=
    fun _ _ => .error "no such library"

namespace Cast

/-- The scripts of the registrations. -/
def registered (c : Cast) : List ExtensionScript := c.registrations.flatMap (·.extensions)

/-- The scripts of the dynamic source. -/
def provided (c : Cast) : List ExtensionScript := (c.provider.map (·.extensions)).getD []

/-- Every script, in the order of the numbers. -/
def scripts (c : Cast) : List ExtensionScript := c.registered ++ c.provided ++ c.shelf

/-- The registrations, with their extensions numbered from `first` on. -/
def linkedIn (first : Nat) : List RegistrationScript → List (Registration Memory)
  | [] => []
  | r :: rest =>
    (if r.isMissing then .missing r.name
      else ⟨r.name, r.family, some (registerFrom first r.extensions)⟩) ::
      linkedIn (first + r.extensions.length) rest

/-- The code that a dispatcher works with. -/
def environment (c : Cast) : Environment Memory where
  config := c.config
  statics := linkedIn 0 c.registrations
  provider := c.provider.map fun p => p.provider c.registered.length
  service := if c.hasService then some notingService else none
  loader path _ := c.loader (c.registered.length + c.provided.length) path
  code := scriptedCode c.scripts.toArray

/-- How deep the requests of scripted code are answered. -/
def depth : Nat := 16

/-- The dispatcher of the rehearsal. -/
def host (c : Cast) : Host Memory := .nested c.environment depth

end Cast

end ImageDispatch.Rehearsal
