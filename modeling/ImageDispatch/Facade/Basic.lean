import ImageDispatch.Cache.Basic
import ImageDispatch.Dispatch.Request

/-!
# Façades

A façade is what a client works with. It finds an implementation when the first call needs it,
keeps it in a cache, and pushes its parameter into it before every call.

* `Facade`: the state of one façade. Each of its three operations has a cache of its own, and all
  but converters have one operation only.
* `Facade.accept`: the parameters that a façade takes.
* `Breaker`: how a contrast enhancer keeps from creating what keeps failing.
-/

namespace ImageDispatch

/-- An operation of a façade. -/
inductive Operation
  | main
  /-- Composition of HDR images. -/
  | compose
  /-- Decomposition of HDR images. -/
  | decompose
  deriving DecidableEq, Inhabited

/-- The name in logs. -/
def Operation.name : Operation → String
  | main => "Convert"
  | compose => "Compose"
  | decompose => "Decompose"

/-- The state of the creations of a contrast enhancer. -/
structure Breaker where
  /-- Number of creations that failed since the last success. -/
  failures : UInt32 := 0
  creating : Bool := false
  deriving DecidableEq, Inhabited

namespace Breaker

/-- So many failures are too many, and creation is given up. -/
def isDisabled (b : Breaker) (threshold : UInt32) : Bool := threshold < b.failures

/-- A creation begins. -/
def start (b : Breaker) : Breaker := { b with creating := true }

/-- The creation has made an implementation. -/
def succeed (b : Breaker) : Breaker := { b with failures := 0 }

/-- The creation has failed. -/
def fail (b : Breaker) : Breaker := { b with failures := b.failures + 1 }

/-- The creation is over. -/
def stop (b : Breaker) : Breaker := { b with creating := false }

end Breaker

/-- The implementations of a façade. -/
structure Implementations where
  /-- Those of the operation of its name. -/
  main : Cache Key ObjectId
  compose : Cache Key ObjectId
  decompose : Cache Key ObjectId

/-- The state of a façade. -/
structure Facade where
  kind : FacadeKind
  /-- The parameter that was accepted last. -/
  parameter : Option Parameter
  implementations : Implementations
  /-- The state of the creations, if it is a contrast enhancer. -/
  breaker : Breaker

namespace Facade

/-- A façade that has not done anything. -/
def new (kind : FacadeKind) (policy : CachePolicy) : Facade :=
  ⟨kind, none, ⟨.empty policy, .empty policy, .empty policy⟩, {}⟩

instance : Inhabited Facade := ⟨new .converter .unbounded⟩

/-- The implementations of an operation. -/
def cache (f : Facade) : Operation → Cache Key ObjectId
  | .main => f.implementations.main
  | .compose => f.implementations.compose
  | .decompose => f.implementations.decompose

/-- The façade with other implementations of an operation. -/
def withCache (f : Facade) (op : Operation) (c : Cache Key ObjectId) : Facade :=
  match op with
  | .main => { f with implementations.main := c }
  | .compose => { f with implementations.compose := c }
  | .decompose => { f with implementations.decompose := c }

@[simp] theorem withCache_self (f : Facade) (op : Operation) : f.withCache op (f.cache op) = f := by
  cases op <;> rfl

@[simp] theorem kind_withCache (f : Facade) (op : Operation) (c : Cache Key ObjectId) :
    (f.withCache op c).kind = f.kind := by cases op <;> rfl

@[simp] theorem parameter_withCache (f : Facade) (op : Operation) (c : Cache Key ObjectId) :
    (f.withCache op c).parameter = f.parameter := by cases op <;> rfl

@[simp] theorem breaker_withCache (f : Facade) (op : Operation) (c : Cache Key ObjectId) :
    (f.withCache op c).breaker = f.breaker := by cases op <;> rfl

@[simp] theorem cache_withCache_self (f : Facade) (op : Operation) (c : Cache Key ObjectId) :
    (f.withCache op c).cache op = c := by cases op <;> rfl

theorem cache_withCache_ne (f : Facade) {op op' : Operation} (c : Cache Key ObjectId)
    (h : op' ≠ op) : (f.withCache op c).cache op' = f.cache op' := by
  cases op <;> cases op' <;> simp_all [withCache, cache]

/-- Every operation, in the order in which the implementations are let go. -/
def operations : List Operation := [.main, .compose, .decompose]

/-- The implementations of all operations. -/
def objects (f : Facade) : List ObjectId := operations.flatMap fun op => (f.cache op).values

/-- Number of implementations. -/
def cached (f : Facade) : Nat :=
  (operations.map fun op => (f.cache op).size).foldl (· + ·) 0

/-! ## Parameters -/

/-- The parameter is one for façades of the kind. -/
def takes : FacadeKind → Parameter → Bool
  | .converter, .conversion _ => true
  | .metadata, .generation _ => true
  | .detail, .detail _ => true
  | .videoDetail, .detail _ => true
  | .hdr, .hdr _ => true
  | .contrast, .contrast _ => true
  | _, _ => false

/-- A detail façade serves the video level only if it is one for video, and no other level then. -/
def checkLevel (video : Bool) (level : DetailLevel) : Except Error Unit :=
  if video = (level = .video : Bool) then .ok ()
  else
    .error (.invalidValue (s!"level {level.name} not valid for the " ++
      (if video then "video" else "image") ++ " path"))

/-- The façade takes the parameter, or says why not. -/
def check (kind : FacadeKind) : Parameter → Except Error Unit
  | .conversion p => p.validate
  | .hdr p => p.validate
  | .detail p => checkLevel (kind = .videoDetail) p.level
  | .generation _ | .contrast _ => .ok ()

/-- Takes over a parameter. A parameter that is rejected changes nothing. -/
def accept (f : Facade) (p : Parameter) : Except Error Facade := do
  check f.kind p
  return { f with parameter := some p }

/-! ## Text -/

/-- The record form. -/
def repr (f : Facade) (threshold : UInt32) : String :=
  let cached := ("cached", toString f.cached)
  match f.kind with
  | .converter => Text.record "ColorSpaceConverter" [cached]
  | .metadata => Text.record "MetadataGenerator" [cached]
  | .detail => Text.record "DetailEnhancer" [("video", "false"), cached]
  | .videoDetail => Text.record "DetailEnhancer" [("video", "true"), cached]
  | .hdr => Text.record "AihdrEnhancer" [cached]
  | .contrast =>
    Text.record "ContrastEnhancer" [cached, ("failures", toString f.breaker.failures),
      ("threshold", toString threshold)]

end Facade

end ImageDispatch
