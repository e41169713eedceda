import ImageDispatch.Config
import ImageDispatch.Dispatch.Request
import ImageDispatch.Library.Table

/-!
# Code of others

Extensions, sources of extensions and the bootstrap service are code of others. It has a memory of
its own, and while it runs it may come back with requests.

* `Foreign`: a run of such code, as what it does up to its first request and how it goes on with
  each reply.
* `ExtensionCode`, `Provider`, `Service`: the calls that the dispatcher makes.
* `Environment`: all code of others together with the configuration.
-/

namespace ImageDispatch

/-- A run of code of others, with its memory `σ`. -/
inductive Foreign (σ α : Type)
  | done (memory : σ) (answer : α)
  /-- Asks something, and goes on with the reply. -/
  | ask (memory : σ) (request : Request) (resume : σ → Reply → Foreign σ α)

/-- The code of an extension for an algorithm object. -/
abbrev Token := Nat

/-- The calls that reach extensions. -/
structure ExtensionCode (σ : Type) where
  /-- Create an algorithm, or none. -/
  create : Creator → σ → Foreign σ (Option Token)
  init : Token → σ → Foreign σ (Except Error Unit)
  /-- Let it release its resources. -/
  deinit : Token → σ → Foreign σ (Except Error Unit)
  set : Token → Parameter → σ → Foreign σ (Except Error Unit)
  get : Token → σ → Foreign σ (Option ConversionParameter)
  /-- Let it work. It answers with how it went and with the surfaces afterwards. -/
  work : Token → Job → σ → Foreign σ (Except Error Unit × Job)
  /-- Let it choose a refresh rate, in hertz. -/
  rate : Token → Surface → σ → Foreign σ (Except Error UInt32)

/-- A callback that registers extensions answers with those that it appends. -/
abbrev Register (σ : Type) := σ → Foreign σ (List Descriptor)

/-- A registration that is linked in. -/
structure Registration (σ : Type) where
  name : String
  /-- The list to which it contributes. -/
  family : ExtensionFamily
  /-- The callback, unless it is left out of the build. -/
  register : Option (Register σ)

/-- A registration that is left out of the build. It counts among the general ones. -/
def Registration.missing {σ : Type} (name : String) : Registration σ := ⟨name, .general, none⟩

/-- The record form. -/
def Registration.repr {σ : Type} (r : Registration σ) : String :=
  Text.record "StaticRegistration" [("name", Text.quoted r.name), ("family", r.family.name),
    ("present", Text.boolean r.register.isSome)]

/-- A source of dynamic extensions. -/
structure Provider (σ : Type) where
  name : String
  /-- Open it, before the first façade. -/
  openUp : σ → Foreign σ (Except LoadError Unit)
  /-- Close it, after the last façade. -/
  close : σ → Foreign σ Unit
  /-- Register a family: the extensions that were appended, and how it ended. -/
  register : ExtensionFamily → σ → Foreign σ (List Descriptor × Except LoadError Nat)

/-- The bootstrap service. -/
structure Service (σ : Type) where
  connect : σ → Foreign σ Unit
  disconnect : σ → Foreign σ Unit

/-- Everything around a dispatcher. -/
structure Environment (σ : Type) where
  config : Config
  /-- The registrations that are linked in, in order. -/
  statics : List (Registration σ)
  /-- The source of dynamic extensions that takes the place of the vendor library. -/
  provider : Option (Provider σ) := none
  service : Option (Service σ) := none
  /-- Loads the library at a path, or says why it does not. It may come to something else once the
  world outside has gone on. -/
  loader : String → σ → Except String (Library (Register σ))
  code : ExtensionCode σ

/-- Where dynamic extensions come from. -/
inductive Source (σ : Type)
  | none
  /-- From a source of its own. -/
  | provider (p : Provider σ)
  /-- From the vendor library at a path. -/
  | library (path : String)

namespace Environment

variable {σ : Type}

/-- The source that the configuration leaves. -/
def source (env : Environment σ) : Source σ :=
  if env.config.dynamicLoading then
    match env.provider, env.config.vendorLibrary with
    | some p, _ => .provider p
    | none, some path => .library path
    | none, none => .none
  else .none

/-- The name of the source. -/
def sourceName? (env : Environment σ) : Option String :=
  match env.source with
  | .none => none
  | .provider p => some p.name
  | .library path => some path

end Environment

end ImageDispatch
