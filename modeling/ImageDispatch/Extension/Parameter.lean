import ImageDispatch.Error
import ImageDispatch.Number.Binary32
import ImageDispatch.Order.Placed
import ImageDispatch.Text.Record

/-!
# Parameters of algorithms

What a client sets on a façade and what the façade pushes into an algorithm before it works.

* `DetailLevel.lower?`, `DetailLevel.descending`: the ladder of quality levels. `video` stands
  outside it.
* `Parameter`: the parameters of the five kinds of façade in one type.
* `Luminance`: the two luminance parameters have to be finite and positive.
-/

namespace ImageDispatch

/-- Gamut mapping strategy. -/
inductive RenderIntent
  /-- Compress the whole gamut. -/
  | perceptual
  /-- Clip, and map white points. -/
  | relativeColorimetric
  /-- Clip, and keep white points. -/
  | absoluteColorimetric
  | saturation
  deriving DecidableEq, Inhabited

/-- The name in logs. -/
def RenderIntent.name : RenderIntent → String
  | .perceptual => "Perceptual"
  | .relativeColorimetric => "RelativeColorimetric"
  | .absoluteColorimetric => "AbsoluteColorimetric"
  | .saturation => "Saturation"

/-- How metadata is generated. -/
inductive GenerationAlgorithm
  /-- From the statistics of a still image. -/
  | image
  /-- From the statistics of a video frame. -/
  | video
  deriving DecidableEq, Inhabited

namespace GenerationAlgorithm

/-- The name in logs and messages. -/
def name : GenerationAlgorithm → String
  | image => "Image"
  | video => "Video"

/-- Position in the order of keys. -/
def raw : GenerationAlgorithm → Nat
  | image => 0
  | video => 1

theorem raw_lt (a : GenerationAlgorithm) : a.raw < 2 := by cases a <;> decide

instance : Placed GenerationAlgorithm where
  place a := a.raw
  place_injective {a b} h := by cases a <;> cases b <;> simp_all [raw]

end GenerationAlgorithm

/-! ## Detail levels -/

/-- Quality level of detail enhancement. -/
inductive DetailLevel
  | none
  | low
  | medium
  | high
  /-- High quality with super resolution by a model. -/
  | highAisr
  /-- The level of video, outside the ladder. -/
  | video
  deriving DecidableEq, Inhabited

namespace DetailLevel

/-- The number of the level across the C boundary. -/
def raw : DetailLevel → Nat
  | none => 0
  | low => 1
  | medium => 2
  | high => 3
  | highAisr => 4
  | video => 5

/-- The level that a number across the C boundary stands for. -/
def ofRaw? : Int → Option DetailLevel
  | 0 => some none
  | 1 => some low
  | 2 => some medium
  | 3 => some high
  | 4 => some highAisr
  | 5 => some video
  | _ => Option.none

def name : DetailLevel → String
  | none => "None"
  | low => "Low"
  | medium => "Medium"
  | high => "High"
  | highAisr => "HighAisr"
  | video => "Video"

instance : Placed DetailLevel where
  place l := l.raw
  place_injective {a b} h := by cases a <;> cases b <;> simp_all [raw]

/-- The next level down the ladder. -/
def lower? : DetailLevel → Option DetailLevel
  | highAisr => some high
  | high => some medium
  | medium => some low
  | low => some none
  | none | video => Option.none

/-- The ladder of quality, from the top down. -/
def ladder : List DetailLevel := [highAisr, high, medium, low, none]

/-- The level and all below it on the ladder, from the top down. -/
def descending (l : DetailLevel) : List DetailLevel :=
  if l = video then [video] else ladder.dropWhile (· ≠ l)

/-- A level is followed by the levels from the next lower one on. -/
theorem descending_eq (l : DetailLevel) :
    l.descending = l :: (l.lower?.map descending).getD [] := by cases l <;> rfl

/-- The level needs a model. -/
def needsModel (l : DetailLevel) : Bool := l = highAisr

theorem ofRaw?_raw (l : DetailLevel) : ofRaw? l.raw = some l := by cases l <;> rfl

end DetailLevel

/-- How contrast is enhanced. -/
inductive ContrastKind
  /-- By one look-up table for the image. -/
  | lut
  | region
  deriving DecidableEq, Inhabited

namespace ContrastKind

def name : ContrastKind → String
  | lut => "Lut"
  | region => "Region"

/-- Position in the order of keys. -/
def raw : ContrastKind → Nat
  | lut => 0
  | region => 1

instance : Placed ContrastKind where
  place k := k.raw
  place_injective {a b} h := by cases a <;> cases b <;> simp_all [raw]

end ContrastKind

/-! ## Parameters -/

/-- A luminance is usable if it is finite and positive; `what` names it in the message. -/
def Luminance.check (what : String) (x : Binary32) : Except Error Unit :=
  if x.isFinite && x.isPositive then .ok ()
  else .error (.invalidValue s!"{what} must be positive, got {x.text}")

/-- Parameters of a color space conversion. -/
structure ConversionParameter where
  intent : RenderIntent := .perceptual
  /-- Brightness of standard-range elements, in nits. -/
  brightness : Binary32 := ⟨0x43fa0000⟩
  deriving DecidableEq, Inhabited

/-- The brightness is usable. -/
def ConversionParameter.validate (p : ConversionParameter) : Except Error Unit :=
  Luminance.check "sdr_ui_brightness" p.brightness

/-- Equal as parameters: the brightness is compared as a number. -/
def ConversionParameter.eqv (p q : ConversionParameter) : Bool :=
  p.intent = q.intent && p.brightness.eqv q.brightness

/-- Parameters of metadata generation. -/
structure GenerationParameter where
  algorithm : GenerationAlgorithm := .image
  deriving DecidableEq, Inhabited

/-- The record form. -/
def GenerationParameter.repr (p : GenerationParameter) : String :=
  Text.record "MetadataGeneratorParameter" [("algo", p.algorithm.name)]

/-- Parameters of detail enhancement. -/
structure DetailParameter where
  /-- Where the model or resource is found. -/
  uri : String := ""
  level : DetailLevel := .none
  deriving DecidableEq, Inhabited

def DetailParameter.repr (p : DetailParameter) : String :=
  Text.record "DetailEnhancerParameters" [("uri", Text.quoted p.uri), ("level", p.level.name)]

/-- Parameters of enhancement towards high dynamic range. -/
structure HdrParameter where
  /-- Peak luminance to reach, in nits. -/
  peak : Binary32 := ⟨0x447a0000⟩
  deriving DecidableEq, Inhabited

/-- The peak is usable. -/
def HdrParameter.validate (p : HdrParameter) : Except Error Unit :=
  Luminance.check "peak_luminance" p.peak

/-- Parameters of contrast enhancement. -/
structure ContrastParameter where
  /-- Where the model or resource is found. -/
  uri : String := ""
  deriving DecidableEq, Inhabited

/-- The parameters of any kind of façade. -/
inductive Parameter
  | conversion (p : ConversionParameter)
  | generation (p : GenerationParameter)
  | detail (p : DetailParameter)
  | hdr (p : HdrParameter)
  | contrast (p : ContrastParameter)
  deriving DecidableEq, Inhabited

end ImageDispatch
