import ImageDispatch.Dispatch.Foreign

/-!
# Scripted extensions

An extension for rehearsals does what its script says, and notes each call.

* `ExtensionScript`: what the extension declares, how its calls end, and what it does to surfaces.
* `ExtensionScript.descriptor`: what it registers.
* `Effect.apply`: what it does to an output.
-/

namespace ImageDispatch.Rehearsal

/-- The capabilities of a scripted extension, whose operation they decide. -/
inductive Role
  | converter (capabilities : List (Declared ConversionCoverage))
  | display (capabilities : List (Declared ConversionCoverage))
  | metadata (capabilities : List (Declared GenerationCoverage))
  | detail (capabilities : List (Declared (List DetailLevel)))
  | hdr (capabilities : List (Declared (List PixelFormat)))
  | contrast (capabilities : List (Declared (List ContrastKind)))
  | refresh (capabilities : List (Declared Unit))
  deriving DecidableEq

namespace Role

/-- The type of extension. -/
def type : Role → ExtensionType
  | converter _ => .converter
  | display _ => .displayConverter
  | metadata _ => .metadataGenerator
  | detail _ => .detailEnhancer
  | hdr _ => .hdrEnhancer
  | contrast _ => .contrastEnhancer
  | refresh _ => .refreshRate

/-- The capabilities as they are registered. -/
def payload : Role → Payload
  | converter cs | display cs => .conversion cs
  | metadata cs => .generation cs
  | detail cs => .detail cs
  | hdr cs => .hdr cs
  | contrast cs => .contrast cs
  | refresh cs => .refresh cs

end Role

/-- How a call ends. -/
abbrev Outcome := Except Error Unit

/-- How a creation ends. -/
inductive Creation
  | object
  | nothing
  /-- With an algorithm, after a call of the contrast enhancer at work, if there is one. -/
  | afterCall (kind : ContrastKind)
  deriving DecidableEq

/-- What is done to an output. -/
inductive Effect
  | number
  | fill (byte : UInt8)
  | copy
  | invert
  | resize (size : Nat)
  /-- Put metadata on it, of another layout if one is given. -/
  | stamp (blob : Bytes) (type : Option HdrMetadataType)
  deriving DecidableEq

namespace Effect

/-- A surface filled with a byte. -/
def filled (s : Surface) (byte : UInt8) : Surface :=
  { s with data := Array.replicate s.data.size byte }

/-- The data of a length, cut off or filled up with zeros. -/
def resized (data : Bytes) (size : Nat) : Bytes :=
  data.extract 0 size ++ Array.replicate (size - data.size) 0

/-- The output after the effect of the object `number`, with an input if there is one. -/
def apply (effect : Effect) (number : Nat) (input : Option Surface) (output : Surface) :
    Except Error Surface :=
  match effect with
  | .number => .ok (filled output (.ofNat number))
  | .fill byte => .ok (filled output byte)
  | .copy =>
    match input with
    | some input => output.copyFrom input
    | none => .ok output
  | .invert =>
    let source := (input.map Surface.data).getD output.data
    let n := min source.size output.data.size
    .ok { output with
      data := (source.extract 0 n).map (~~~ ·) ++ output.data.extract n output.data.size }
  | .resize size => .ok { output with data := resized output.data size }
  | .stamp blob type =>
    .ok { output with
      metadataType := type.getD output.metadataType
      metadata := { output.metadata with fixed := blob } }

end Effect

/-- A method whose calls are scripted. -/
inductive ScriptedMethod
  | init
  | deinit
  | set
  | process
  | compose
  | decompose
  deriving DecidableEq

/-- The name in the notes. -/
def ScriptedMethod.name : ScriptedMethod → String
  | init => "init"
  | deinit => "deinit"
  | set => "set"
  | process => "process"
  | compose => "compose"
  | decompose => "decompose"

/-- How talkative an extension is, and how much of it there is. -/
inductive Manner
  | noting
  /-- It has the methods only that every extension of its type has, and they do nothing. Only the
  creation is noted. -/
  | bare
  /-- It notes nothing, and its objects are not counted. -/
  | silent
  deriving DecidableEq

/-- The script of an extension. -/
structure ExtensionScript where
  name : String
  version : String := "1.0"
  role : Role
  /-- The family in which a dynamic source registers it. -/
  family : ExtensionFamily := .general
  /-- The type that it claims to be, if that is another one. -/
  tag : Option ExtensionType := none
  /-- How creations end, in turn. The last one repeats. -/
  creations : List Creation := []
  /-- How the calls of a method end, in turn. The last one repeats, and without any all succeed. -/
  outcomes : ScriptedMethod → List Outcome := fun _ => []
  /-- What is done to an output, and to the second one if there are two. -/
  effect : Effect × Effect := (.number, .number)
  isDirty : Bool := false
  rate : UInt32 := 60
  manner : Manner := .noting

/-- What the extension registers. -/
def ExtensionScript.descriptor (s : ExtensionScript) (creator : Creator) : Descriptor :=
  ⟨⟨s.tag.getD s.role.type, s.name, s.version⟩, s.role.payload, creator⟩

/-- The item in turn of a script: the last one repeats. -/
def inTurn {α : Type} (items : List α) (turn : Nat) : Option α :=
  (items[turn]?).or items.getLast?

/-! ## Parameters in notes -/

/-- How a parameter is written. -/
def parameterText : Parameter → String
  | .conversion p => s!"{p.intent.name} bits={p.brightness.bits}"
  | .generation p => p.algorithm.name
  | .detail p => s!"{p.level.name} uri={p.uri}"
  | .hdr p => s!"bits={p.peak.bits}"
  | .contrast p => s!"uri={p.uri}"

end ImageDispatch.Rehearsal
