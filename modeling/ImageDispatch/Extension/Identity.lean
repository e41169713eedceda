import ImageDispatch.Text.Record

/-!
# What an extension is

* `ExtensionType`: the operation that an extension implements.
* `ExtensionInfo`: its self-description, a type, a name and a version.
* `Rank`: its tier among the extensions that claim the same capability.
* `ExtensionFamily`: the list that it is registered in. A library exports one symbol a family.
-/

namespace ImageDispatch

/-- The operation that an extension implements. -/
inductive ExtensionType
  /-- Conversion between color spaces. -/
  | converter
  /-- Conversion between color spaces on the way to a display. -/
  | displayConverter
  /-- Generation of HDR metadata. -/
  | metadataGenerator
  /-- Enhancement of detail, and scaling. -/
  | detailEnhancer
  /-- Enhancement towards high dynamic range by a model. -/
  | hdrEnhancer
  | contrastEnhancer
  /-- Choice of a refresh rate. -/
  | refreshRate
  deriving DecidableEq, Inhabited

namespace ExtensionType

/-- Every type. -/
def all : List ExtensionType :=
  [converter, displayConverter, metadataGenerator, detailEnhancer, hdrEnhancer, contrastEnhancer,
    refreshRate]

/-- The name in messages and metrics. -/
def label : ExtensionType → String
  | converter => "color space converter"
  | displayConverter => "display color space converter"
  | metadataGenerator => "metadata generator"
  | detailEnhancer => "detail enhancer"
  | hdrEnhancer => "aihdr enhancer"
  | contrastEnhancer => "contrast enhancer"
  | refreshRate => "vrr"

/-- The name in records. -/
def name : ExtensionType → String
  | converter => "ColorSpaceConverter"
  | displayConverter => "ColorSpaceConverterDisplay"
  | metadataGenerator => "MetadataGenerator"
  | detailEnhancer => "DetailEnhancer"
  | hdrEnhancer => "AihdrEnhancer"
  | contrastEnhancer => "ContrastEnhancer"
  | refreshRate => "Vrr"

end ExtensionType

/-- The self-description of an extension. -/
structure ExtensionInfo where
  type : ExtensionType
  /-- The name, for logs and errors. -/
  name : String
  /-- The version of the extension. -/
  version : String
  deriving DecidableEq, Inhabited

/-- The record form. -/
def ExtensionInfo.repr (i : ExtensionInfo) : String :=
  Text.record "ExtensionInfo" [("extension_type", i.type.name), ("name", Text.quoted i.name),
    ("version", Text.quoted i.version)]

/-- Tier of a capability among those for the same key. -/
inductive Rank
  | default
  /-- Goes before every ordinary one. -/
  | high
  deriving DecidableEq, Inhabited

/-- The name in logs and messages. -/
def Rank.name : Rank → String
  | .default => "Default"
  | .high => "High"

/-- The list that an extension is registered in. -/
inductive ExtensionFamily
  /-- Conversion, display, detail, HDR, contrast and refresh rate. -/
  | general
  | metadata
  /-- Composers of HDR images from layers. -/
  | compose
  /-- Decomposers of HDR images into layers. -/
  | decompose
  deriving DecidableEq, Inhabited

namespace ExtensionFamily

/-- Every family, in the order in which they are loaded. -/
def all : List ExtensionFamily := [general, metadata, compose, decompose]

/-- The name in logs and records. -/
def name : ExtensionFamily → String
  | general => "General"
  | metadata => "MetadataGen"
  | compose => "Compose"
  | decompose => "Decompose"

/-- The symbol that a library exports for the family. -/
def symbol : ExtensionFamily → String
  | general => "vpe_extension_registrations"
  | metadata => "vpe_register_metadata_gen_extensions"
  | compose => "vpe_compose_extension_registrations"
  | decompose => "vpe_decompose_extension_registrations"

/-- The symbol is a table of callbacks, and not a single callback. -/
def usesTable (f : ExtensionFamily) : Bool := f ≠ metadata

end ExtensionFamily

end ImageDispatch
