import ImageDispatch.Extension.Descriptor
import ImageDispatch.Selection.Candidate

/-!
# Queries

A query asks which registered extension serves a key.

* `Query`: the nine kinds of question, each with its key.
* `claims`: what the extensions in a list claim, in the order of the list, of the capabilities in
  an extension, and of the keys in a capability. Only extensions of the type asked for count, and
  of these only the ones whose capabilities have the shape of the type.
* `candidateMap`, `levelMap`: the claims by key.
* `Query.candidate?`: the winning claim. `Query.select?`: the extension behind it.
-/

namespace ImageDispatch

/-- Which extension serves a key? -/
inductive Query
  /-- Conversion of a surface into another one. -/
  | convert (key : ConversionKey)
  /-- Conversion on the way to a display. -/
  | display (key : ConversionKey)
  /-- Composition of an HDR image from a base layer. -/
  | compose (key : ConversionKey)
  /-- Decomposition of an HDR image into a base layer. -/
  | decompose (key : ConversionKey)
  | generate (key : GenerationKey)
  /-- Detail enhancement at a level. -/
  | detail (level : DetailLevel)
  /-- HDR enhancement of a format. -/
  | hdr (format : PixelFormat)
  /-- Contrast enhancement of a kind. -/
  | contrast (kind : ContrastKind)
  /-- Choice of a refresh rate. -/
  | refresh
  deriving DecidableEq

namespace Query

/-- The type of extension that can answer. -/
def type : Query → ExtensionType
  | convert _ | compose _ | decompose _ => .converter
  | display _ => .displayConverter
  | generate _ => .metadataGenerator
  | detail _ => .detailEnhancer
  | hdr _ => .hdrEnhancer
  | contrast _ => .contrastEnhancer
  | refresh => .refreshRate

/-- The list in which the extension is registered. -/
def family : Query → ExtensionFamily
  | compose _ => .compose
  | decompose _ => .decompose
  | generate _ => .metadata
  | _ => .general

/-- The key asked for. -/
def key : Query → Key
  | convert k | display k | compose k | decompose k => .conversion k
  | generate k => .generation k
  | detail l => .level l
  | hdr f => .format f
  | contrast k => .contrast k
  | refresh => .refresh

/-- The key in messages. -/
def text : Query → String
  | refresh => "vrr"
  | q => q.key.text

end Query

/-- The shape of the capabilities that belong to a type of extension. -/
def ExtensionType.shape : ExtensionType → PayloadShape
  | converter | displayConverter => .conversion
  | metadataGenerator => .generation
  | detailEnhancer => .detail
  | hdrEnhancer => .hdr
  | contrastEnhancer => .contrast
  | refreshRate => .refresh

/-- What one extension at a place of the list claims. -/
def Descriptor.claims (d : Descriptor) (index : Nat) : List (Key × Candidate) :=
  d.payload.declarations.flatMap fun declared =>
    declared.covers.map fun key => (key, ⟨declared.rank, declared.version, index⟩)

/-- The claims of the extensions of a type whose capabilities have a shape. -/
def claims (type : ExtensionType) (shape : PayloadShape) (list : List Descriptor) :
    List (Key × Candidate) :=
  list.zipIdx.flatMap fun entry =>
    if entry.1.info.type = type ∧ entry.1.payload.shape = shape then entry.1.claims entry.2
    else []

/-- The candidates by key among the extensions of a type. -/
def candidateMap (type : ExtensionType) (shape : PayloadShape) (list : List Descriptor) :
    CandidateMap Key :=
  .ofList (claims type shape list)

/-- The holders by key among the extensions of a type. -/
def levelMap (type : ExtensionType) (shape : PayloadShape) (list : List Descriptor) :
    LevelMap Key :=
  .ofList (claims type shape list)

/-- The extensions of a type whose capabilities have another shape than they should. -/
def mislabelled (type : ExtensionType) (shape : PayloadShape) (list : List Descriptor) :
    List Descriptor :=
  list.filter fun d => d.info.type = type ∧ d.payload.shape ≠ shape

/-- How the skipping of a mislabelled extension is reported. -/
def Descriptor.mislabelledMessage (d : Descriptor) : String :=
  s!"extension '{d.info.name}' is tagged {d.info.type.label} but carries a different payload, " ++
    "skipping"

/-- The answer to a query. -/
structure Selection where
  info : ExtensionInfo
  /-- Tier of the winning claim. -/
  rank : Rank
  /-- Version of the winning claim. -/
  version : Int
  /-- How the algorithm is created. -/
  creator : Creator
  deriving DecidableEq

/-- The record form. -/
def Selection.repr (s : Selection) : String :=
  Text.record "SelectedExtension" [("info", s.info.repr), ("rank", s.rank.name),
    ("version", toString s.version)]

namespace Query

/-- The winning claim among the extensions in a list. Detail levels have one holder each, and the
other keys keep all their candidates. -/
def candidate? (q : Query) (list : List Descriptor) : Option Candidate :=
  match q with
  | detail _ => (levelMap q.type q.type.shape list).select q.key
  | _ => (candidateMap q.type q.type.shape list).select q.key

/-- The extension with the winning claim. -/
def select? (q : Query) (list : List Descriptor) : Option Selection := do
  let winner ← q.candidate? list
  let descriptor ← list[winner.index]?
  if descriptor.payload.shape = q.type.shape then
    return ⟨descriptor.info, winner.rank, winner.version, descriptor.creator⟩
  else
    none

/-- How the answer is reported. -/
def report (q : Query) : Option Selection → String
  | some s =>
    s!"{q.type.label} for {q.text}: selected '{s.info.name}' ({s.rank.name}, " ++
      s!"version {s.version})"
  | none => s!"no {q.type.label} extension supports {q.text}"

/-- The error when nothing serves the key. -/
def notFound (q : Query) : Error := .capabilityNotFound q.type.label q.text

end Query

end ImageDispatch
