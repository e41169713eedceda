import ImageDispatch.Dispatch.Foreign
import ImageDispatch.Facade.Basic
import ImageDispatch.Instance.Table

/-!
# The state of a dispatcher

* `World`: everything that a dispatcher keeps, together with the memory of the code of others and
  the journal of what happened.
* `World.refersTo`: who keeps an algorithm object or a façade. Holders outside, running calls,
  caches of façades and the instance table count.
* `Act`: a change of the state. `Foreign.run` lets code of others run and answers its requests.
-/

namespace ImageDispatch

/-- How far an algorithm object has come. -/
inductive Stage
  /-- Created, and not yet initialized with success. -/
  | starting
  | live
  | finished
  deriving DecidableEq

/-- An algorithm object. -/
structure AlgorithmObject where
  /-- The extension that it comes from. -/
  info : ExtensionInfo
  token : Token
  stage : Stage
  deriving DecidableEq

/-- The record form. -/
def AlgorithmObject.repr (o : AlgorithmObject) : String :=
  Text.record "Resolved" [("name", Text.quoted o.info.name),
    ("version", Text.quoted o.info.version)]

/-- The state of a dispatcher. -/
structure World (σ : Type) where
  /-- The memory of the code of others. -/
  memory : σ
  /-- What happened, the last first. -/
  journal : List Event := []
  /-- The algorithm objects, by number. -/
  objects : Array AlgorithmObject := #[]
  /-- The façades, by number, without those that are gone. -/
  facades : Array (Option Facade) := #[]
  held : List Ref := []
  pins : List Ref := []
  /-- Number of users of the vendor library. -/
  instances : Nat := 0
  /-- A call is changing that number. -/
  counting : Bool := false
  queries : Nat := 0
  /-- The vendor library, while it is open. -/
  library : Option (Library (Register σ)) := none
  table : InstanceTable FacadeId := .empty
  /-- Callers in C have their dispatcher: it was put in place, or a call has made it. -/
  started : Bool := false

namespace World

variable {σ : Type}

/-- The façade of a number, unless it is gone. -/
def facade? (w : World σ) (f : FacadeId) : Option Facade := (w.facades[f]?).join

/-- Something keeps what `r` refers to. -/
def refersTo (w : World σ) (r : Ref) : Bool :=
  w.held.contains r || w.pins.contains r ||
    match r with
    | .object o => w.facades.any fun f => f.any fun f => f.objects.contains o
    | .facade f => w.table.handles.contains f
    | .lease => false

end World

/-- A change of the state of a dispatcher, with an answer. -/
abbrev Act (σ : Type) := StateM (World σ)

namespace Act

variable {σ : Type}

/-- Notes an event. -/
def emit (e : Event) : Act σ Unit := modify fun w => { w with journal := e :: w.journal }

/-- Notes a line of the log. -/
def log (severity : Severity) (text : String) : Act σ Unit := emit (.log severity text)

/-- Grows a counter by one. -/
def count (counter : Counter) : Act σ Unit := emit (.count counter 1)

/-- Holds something for a running call. -/
def pin (r : Ref) : Act σ Unit := modify fun w => { w with pins := r :: w.pins }

/-- Changes a façade, unless it is gone. -/
def modifyFacade (f : FacadeId) (change : Facade → Facade) : Act σ Unit :=
  modify fun w => { w with facades := w.facades.modify f (Option.map change) }

/-- The façade of a number, unless it is gone. -/
def facade? (f : FacadeId) : Act σ (Option Facade) := return (← get).facade? f

/-- Uses the implementations of a façade for an operation, unless the façade is gone. -/
def useCache {α : Type} (f : FacadeId) (op : Operation)
    (use : Cache Key ObjectId → α × Cache Key ObjectId) : Act σ (Option α) := do
  match ← facade? f with
  | none => return none
  | some facade =>
    let (answer, c) := use (facade.cache op)
    modifyFacade f fun facade => facade.withCache op c
    return some answer

end Act

/-- Lets code of others run, with `serve` to answer what it asks. -/
def Foreign.run {σ α : Type} (serve : Request → Act σ Reply) : Foreign σ α → Act σ α
  | .done memory answer => do
    modify fun w => { w with memory }
    return answer
  | .ask memory request resume => do
    modify fun w => { w with memory }
    let reply ← serve request
    (resume (← get).memory reply).run serve

/-- What a dispatcher works with: the code of others, and the answering of its requests. -/
structure Host (σ : Type) where
  /-- The code of others, and the configuration. -/
  env : Environment σ
  /-- How requests that come from it are answered. -/
  serve : Request → Act σ Reply

namespace Host

variable {σ : Type}

/-- Lets code of others run on its memory. -/
def runForeign {α : Type} (host : Host σ) (code : σ → Foreign σ α) : Act σ α := do
  (code (← get).memory).run host.serve

/-- Calls a method of an algorithm object. -/
def invoke {α : Type} (host : Host σ) (o : ObjectId) (method : Method) (succeeded : α → Bool)
    (code : σ → Foreign σ α) : Act σ α := do
  Act.emit (.began o method)
  let answer ← host.runForeign code
  Act.emit (.ended o method (succeeded answer))
  return answer

end Host

end ImageDispatch
