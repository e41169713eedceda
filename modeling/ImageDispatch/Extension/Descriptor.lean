import ImageDispatch.Selection.Key

/-!
# Extension descriptors

What an extension registers: who it is, what it can do, and how to create its algorithm.

* `Declared α`: a capability, as what it covers together with a rank and a version.
* `Payload`: the capabilities of one of the six shapes. The shape does not have to fit the type in
  the description; selection skips a descriptor whose shape does not.
* `Payload.declarations`: every capability as the list of keys that it covers.
* `Creator`: a name for the code that creates an algorithm, which lives outside this library.
-/

namespace ImageDispatch

/-- The code of an extension that creates its algorithm, by number. -/
structure Creator where
  /-- The number that the extension gave to it. -/
  number : Nat
  deriving DecidableEq, Inhabited

/-- A capability: what it covers, and how it ranks. -/
structure Declared (α : Type) where
  covers : α
  rank : Rank
  /-- Version of the capability. -/
  version : Int
  deriving DecidableEq

/-- A pair of color spaces, with the output formats that each input format can be converted to. -/
structure ConversionCoverage where
  /-- Color space of the input. -/
  inputSpace : ColorDescription
  /-- Color space of the output. -/
  outputSpace : ColorDescription
  /-- Output formats by input format. An input format that is listed again counts with its last
  list only. -/
  formats : List (PixelFormat × List PixelFormat)
  deriving DecidableEq

/-- A color space and its formats, under one generation algorithm. -/
structure GenerationCoverage where
  /-- Color space of the surface. -/
  space : ColorDescription
  formats : List PixelFormat
  algorithm : GenerationAlgorithm
  deriving DecidableEq

/-- The output formats of an input format: those of its last list. -/
def ConversionCoverage.outputs (c : ConversionCoverage) (input : PixelFormat) :
    List PixelFormat :=
  ((c.formats.reverse.find? fun entry => entry.1 = input).map Prod.snd).getD []

/-- The keys of a conversion, by input format in the order of the formats. -/
def ConversionCoverage.keys (c : ConversionCoverage) : List ConversionKey :=
  PixelFormat.all.flatMap fun input =>
    (c.outputs input).map fun output => ⟨c.inputSpace, input, c.outputSpace, output⟩

/-- The keys of a generation, in the order of its formats. -/
def GenerationCoverage.keys (c : GenerationCoverage) : List GenerationKey :=
  c.formats.map fun format => ⟨c.space, format, c.algorithm⟩

/-- The shape of a payload. -/
inductive PayloadShape
  /-- Conversions, also for display, composition and decomposition. -/
  | conversion
  | generation
  | detail
  | hdr
  | contrast
  /-- Choice of a refresh rate. -/
  | refresh
  deriving DecidableEq

/-- The capabilities of an extension, all of one shape. -/
inductive Payload
  | conversion (capabilities : List (Declared ConversionCoverage))
  | generation (capabilities : List (Declared GenerationCoverage))
  /-- Detail enhancement, by the levels served. -/
  | detail (capabilities : List (Declared (List DetailLevel)))
  /-- HDR enhancement, by the formats served. -/
  | hdr (capabilities : List (Declared (List PixelFormat)))
  /-- Contrast enhancement, by the kinds served. -/
  | contrast (capabilities : List (Declared (List ContrastKind)))
  /-- Choice of a refresh rate. -/
  | refresh (capabilities : List (Declared Unit))
  deriving DecidableEq

namespace Payload

/-- The shape. -/
def shape : Payload → PayloadShape
  | conversion _ => .conversion
  | generation _ => .generation
  | detail _ => .detail
  | hdr _ => .hdr
  | contrast _ => .contrast
  | refresh _ => .refresh

/-- The name of the shape in records. -/
def name : Payload → String
  | conversion _ => "ColorSpaceConverter"
  | generation _ => "MetadataGenerator"
  | detail _ => "DetailEnhancer"
  | hdr _ => "AihdrEnhancer"
  | contrast _ => "ContrastEnhancer"
  | refresh _ => "Vrr"

end Payload

/-- A capability with its keys written out. -/
def Declared.withKeys {α : Type} (keys : α → List Key) (d : Declared α) : Declared (List Key) :=
  ⟨keys d.covers, d.rank, d.version⟩

/-- Every capability of the payload with its keys, in the order of declaration. -/
def Payload.declarations : Payload → List (Declared (List Key))
  | .conversion cs => cs.map (.withKeys fun c => c.keys.map .conversion)
  | .generation cs => cs.map (.withKeys fun c => c.keys.map .generation)
  | .detail cs => cs.map (.withKeys fun levels => levels.map .level)
  | .hdr cs => cs.map (.withKeys fun formats => formats.map .format)
  | .contrast cs => cs.map (.withKeys fun kinds => kinds.map .contrast)
  | .refresh cs => cs.map (.withKeys fun _ => [.refresh])

/-- What an extension registers. -/
structure Descriptor where
  info : ExtensionInfo
  payload : Payload
  /-- How its algorithm is created. -/
  creator : Creator
  deriving DecidableEq

/-- The record form. -/
def Descriptor.repr (d : Descriptor) : String :=
  Text.record "ExtensionDescriptor" [("info", d.info.repr), ("kind", Text.quoted d.payload.name)]

end ImageDispatch
