import ImageDispatch.Extension.Identity
import ImageDispatch.Extension.Parameter
import ImageDispatch.Surface.Basic

/-!
# Capability keys

A key says what has to be done, precisely enough to choose an extension for it.

* `ConversionKey`, `GenerationKey`: the composite keys. The other families are keyed by a detail
  level, a pixel format, a kind of contrast enhancement, or not at all.
* `Key`: a key of any family. Keys of one shape are ordered like their parts from left to right.
-/

namespace ImageDispatch

/-- Color spaces and formats at the two ends of a conversion. -/
structure ConversionKey where
  /-- Color space of the input. -/
  inputSpace : ColorDescription
  inputFormat : PixelFormat
  /-- Color space of the output. -/
  outputSpace : ColorDescription
  outputFormat : PixelFormat
  deriving DecidableEq, Inhabited

namespace ConversionKey

/-- The key of a conversion of one surface into another. -/
def ofSurfaces (input output : Surface) : ConversionKey :=
  ⟨input.description, input.format, output.description, output.format⟩

/-- The form in messages. -/
def text (k : ConversionKey) : String :=
  s!"({k.inputSpace.text} {k.inputFormat.name}) -> " ++
    s!"({k.outputSpace.text} {k.outputFormat.name})"

/-- The record form. -/
def repr (k : ConversionKey) : String :=
  Text.record "ConversionKey" [("input_color_space", k.inputSpace.repr),
    ("input_format", k.inputFormat.name), ("output_color_space", k.outputSpace.repr),
    ("output_format", k.outputFormat.name)]

/-- The parts as the digits of a number. -/
def code (k : ConversionKey) : Nat :=
  ((k.inputSpace.code * 16 + k.inputFormat.raw) * 65536 + k.outputSpace.code) * 16 +
    k.outputFormat.raw

end ConversionKey

theorem PixelFormat.raw_lt (f : PixelFormat) : f.raw < 9 := by cases f <;> decide

theorem ColorSpace.code_lt (c : ColorSpace) : c.code < 4096 := by
  have := c.primaries.raw_lt
  have := c.transfer.raw_lt
  have := c.matrix.raw_lt
  have := c.range.raw_lt
  simp only [ColorSpace.code]
  omega

theorem ColorDescription.code_lt (d : ColorDescription) : d.code < 32768 := by
  have := d.space.code_lt
  have := d.metadataType.raw_lt
  simp only [ColorDescription.code]
  omega

theorem PixelFormat.raw_injective {a b : PixelFormat} (h : a.raw = b.raw) : a = b :=
  Placed.place_injective (congrArg Int.ofNat h)

namespace ConversionKey

theorem code_injective {a b : ConversionKey} (h : a.code = b.code) : a = b := by
  obtain ⟨s, f, t, g⟩ := a
  obtain ⟨s', f', t', g'⟩ := b
  have := f.raw_lt
  have := f'.raw_lt
  have := g.raw_lt
  have := g'.raw_lt
  have := t.code_lt
  have := t'.code_lt
  simp only [code] at h
  have e₁ : s = s' := ColorDescription.code_injective (by omega)
  have e₂ : f = f' := PixelFormat.raw_injective (by omega)
  have e₃ : t = t' := ColorDescription.code_injective (by omega)
  have e₄ : g = g' := PixelFormat.raw_injective (by omega)
  rw [e₁, e₂, e₃, e₄]

instance : Placed ConversionKey where
  place k := k.code
  place_injective h := code_injective (Int.ofNat.inj h)

end ConversionKey

/-- Color space, format and algorithm of a metadata generation. -/
structure GenerationKey where
  /-- Color space of the surface. -/
  space : ColorDescription
  format : PixelFormat
  algorithm : GenerationAlgorithm
  deriving DecidableEq, Inhabited

namespace GenerationKey

def text (k : GenerationKey) : String :=
  s!"({k.space.text} {k.format.name}) {k.algorithm.name}"

def repr (k : GenerationKey) : String :=
  Text.record "MetadataGenerationKey" [("color_space", k.space.repr),
    ("pixel_format", k.format.name), ("algo", k.algorithm.name)]

def code (k : GenerationKey) : Nat := (k.space.code * 16 + k.format.raw) * 2 + k.algorithm.raw

theorem code_injective {a b : GenerationKey} (h : a.code = b.code) : a = b := by
  obtain ⟨s, f, g⟩ := a
  obtain ⟨s', f', g'⟩ := b
  have := f.raw_lt
  have := f'.raw_lt
  have := g.raw_lt
  have := g'.raw_lt
  simp only [code] at h
  have e₁ : s = s' := ColorDescription.code_injective (by omega)
  have e₂ : f = f' := PixelFormat.raw_injective (by omega)
  have e₃ : g = g' := Placed.place_injective (congrArg Int.ofNat (by omega))
  rw [e₁, e₂, e₃]

instance : Placed GenerationKey where
  place k := k.code
  place_injective h := code_injective (Int.ofNat.inj h)

end GenerationKey

/-! ## Keys of any family -/

/-- A key of any family. -/
inductive Key
  /-- Of a conversion, composition or decomposition. -/
  | conversion (k : ConversionKey)
  /-- Of a metadata generation. -/
  | generation (k : GenerationKey)
  | level (l : DetailLevel)
  | format (f : PixelFormat)
  | contrast (k : ContrastKind)
  /-- The only key of the choice of a refresh rate. -/
  | refresh
  deriving DecidableEq, Inhabited

namespace Key

def text : Key → String
  | conversion k => k.text
  | generation k => k.text
  | level l => l.name
  | format f => f.name
  | contrast k => k.name
  | refresh => "()"

def repr : Key → String
  | conversion k => k.repr
  | generation k => k.repr
  | level l => l.name
  | format f => f.name
  | contrast k => k.name
  | refresh => "()"

/-- Keys of one shape stand in the order of their parts, and the shapes are interleaved. -/
def code : Key → Nat
  | conversion k => k.code * 6
  | generation k => k.code * 6 + 1
  | level l => l.raw * 6 + 2
  | format f => f.raw * 6 + 3
  | contrast k => k.raw * 6 + 4
  | refresh => 5

theorem code_injective {a b : Key} (h : a.code = b.code) : a = b := by
  cases a <;> cases b <;> simp only [code] at h <;> try omega
  · exact congrArg conversion (ConversionKey.code_injective (by omega))
  · exact congrArg generation (GenerationKey.code_injective (by omega))
  · exact congrArg level (Placed.place_injective (congrArg Int.ofNat (by omega)))
  · exact congrArg format (PixelFormat.raw_injective (by omega))
  · exact congrArg contrast (Placed.place_injective (congrArg Int.ofNat (by omega)))
  · rfl

instance : Placed Key where
  place k := k.code
  place_injective h := code_injective (Int.ofNat.inj h)

end Key

end ImageDispatch
