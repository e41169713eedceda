import ImageDispatch.Order.Placed
import ImageDispatch.Text.Record

/-!
# Color spaces

What the samples of an image mean.

* `ColorPrimaries`, `TransferFunction`, `MatrixCoefficients`, `ColorRange`: the four parts of a
  `ColorSpace`.
* `HdrMetadataType`: the layout of the HDR metadata beside the pixels.
* `ColorPrimaries.raw`, `ColorPrimaries.ofRaw?` and the like for the other parts: the numbers
  across the C boundary, written from one table and read by another.
* `ColorDescription`: a color space with its metadata layout, the color half of every capability
  key. Descriptions are ordered part by part.
-/

namespace ImageDispatch

/-- Chromaticities of the primaries. -/
inductive ColorPrimaries
  /-- BT.709 and sRGB. -/
  | bt709
  /-- BT.601, 625 lines. -/
  | bt601
  /-- BT.2020, wide gamut. -/
  | bt2020
  /-- DCI-P3 with the D65 white point. -/
  | p3D65
  /-- Adobe RGB (1998). -/
  | adobeRgb
  deriving DecidableEq, Inhabited

namespace ColorPrimaries

/-- The number of the value across the C boundary. -/
def raw : ColorPrimaries → Nat
  | bt709 => 1
  | bt601 => 2
  | bt2020 => 3
  | p3D65 => 4
  | adobeRgb => 5

/-- The value that a number across the C boundary stands for. -/
def ofRaw? : Int → Option ColorPrimaries
  | 1 => some bt709
  | 2 => some bt601
  | 3 => some bt2020
  | 4 => some p3D65
  | 5 => some adobeRgb
  | _ => none

/-- The name in logs and messages. -/
def name : ColorPrimaries → String
  | bt709 => "Bt709"
  | bt601 => "Bt601"
  | bt2020 => "Bt2020"
  | p3D65 => "P3D65"
  | adobeRgb => "AdobeRgb"

instance : Placed ColorPrimaries where
  place x := x.raw
  place_injective {a b} h := by cases a <;> cases b <;> simp_all [raw]

theorem ofRaw?_raw (x : ColorPrimaries) : ofRaw? x.raw = some x := by cases x <;> rfl

theorem raw_lt (x : ColorPrimaries) : x.raw < 6 := by cases x <;> decide

end ColorPrimaries

/-- Transfer characteristics. -/
inductive TransferFunction
  /-- The piecewise sRGB curve. -/
  | srgb
  /-- The BT.709 curve. -/
  | bt709
  /-- Linear light. -/
  | linear
  /-- Perceptual quantizer. -/
  | pq
  /-- Hybrid log-gamma. -/
  | hlg
  /-- A pure power of 2.2. -/
  | gamma22
  deriving DecidableEq, Inhabited

namespace TransferFunction

def raw : TransferFunction → Nat
  | srgb => 1
  | bt709 => 2
  | linear => 3
  | pq => 4
  | hlg => 5
  | gamma22 => 6

def ofRaw? : Int → Option TransferFunction
  | 1 => some srgb
  | 2 => some bt709
  | 3 => some linear
  | 4 => some pq
  | 5 => some hlg
  | 6 => some gamma22
  | _ => none

def name : TransferFunction → String
  | srgb => "Srgb"
  | bt709 => "Bt709"
  | linear => "Linear"
  | pq => "Pq"
  | hlg => "Hlg"
  | gamma22 => "Gamma2_2"

instance : Placed TransferFunction where
  place x := x.raw
  place_injective {a b} h := by cases a <;> cases b <;> simp_all [raw]

theorem ofRaw?_raw (x : TransferFunction) : ofRaw? x.raw = some x := by cases x <;> rfl

theorem raw_lt (x : TransferFunction) : x.raw < 7 := by cases x <;> decide

end TransferFunction

/-- Matrix from RGB to luma and chroma. -/
inductive MatrixCoefficients
  /-- BT.601. -/
  | bt601
  /-- BT.709. -/
  | bt709
  /-- BT.2020 with non-constant luminance. -/
  | bt2020Ncl
  deriving DecidableEq, Inhabited

namespace MatrixCoefficients

def raw : MatrixCoefficients → Nat
  | bt601 => 1
  | bt709 => 2
  | bt2020Ncl => 3

def ofRaw? : Int → Option MatrixCoefficients
  | 1 => some bt601
  | 2 => some bt709
  | 3 => some bt2020Ncl
  | _ => none

def name : MatrixCoefficients → String
  | bt601 => "Bt601"
  | bt709 => "Bt709"
  | bt2020Ncl => "Bt2020Ncl"

instance : Placed MatrixCoefficients where
  place x := x.raw
  place_injective {a b} h := by cases a <;> cases b <;> simp_all [raw]

theorem ofRaw?_raw (x : MatrixCoefficients) : ofRaw? x.raw = some x := by cases x <;> rfl

theorem raw_lt (x : MatrixCoefficients) : x.raw < 4 := by cases x <;> decide

end MatrixCoefficients

/-- Range of the quantized values. -/
inductive ColorRange
  /-- All code values. -/
  | full
  /-- Head room and foot room are left. -/
  | limited
  deriving DecidableEq, Inhabited

namespace ColorRange

def raw : ColorRange → Nat
  | full => 1
  | limited => 2

def ofRaw? : Int → Option ColorRange
  | 1 => some full
  | 2 => some limited
  | _ => none

def name : ColorRange → String
  | full => "Full"
  | limited => "Limited"

instance : Placed ColorRange where
  place x := x.raw
  place_injective {a b} h := by cases a <;> cases b <;> simp_all [raw]

theorem ofRaw?_raw (x : ColorRange) : ofRaw? x.raw = some x := by cases x <;> rfl

theorem raw_lt (x : ColorRange) : x.raw < 3 := by cases x <;> decide

end ColorRange

/-- Layout of the HDR metadata beside the pixels. -/
inductive HdrMetadataType
  /-- No HDR metadata. -/
  | none
  /-- HLG video. -/
  | videoHlg
  /-- Video with static metadata. -/
  | videoHdr10
  /-- Video with dynamic metadata. -/
  | videoHdrVivid
  /-- Image of a base layer and a gain map, Vivid. -/
  | imageHdrVividDual
  /-- Image of one layer, Vivid. -/
  | imageHdrVividSingle
  /-- Image of a base layer and a gain map, ISO. -/
  | imageHdrIsoDual
  /-- Image of one layer, ISO. -/
  | imageHdrIsoSingle
  deriving DecidableEq, Inhabited

namespace HdrMetadataType

def raw : HdrMetadataType → Nat
  | none => 0
  | videoHlg => 1
  | videoHdr10 => 2
  | videoHdrVivid => 3
  | imageHdrVividDual => 4
  | imageHdrVividSingle => 5
  | imageHdrIsoDual => 6
  | imageHdrIsoSingle => 7

def ofRaw? : Int → Option HdrMetadataType
  | 0 => some none
  | 1 => some videoHlg
  | 2 => some videoHdr10
  | 3 => some videoHdrVivid
  | 4 => some imageHdrVividDual
  | 5 => some imageHdrVividSingle
  | 6 => some imageHdrIsoDual
  | 7 => some imageHdrIsoSingle
  | _ => Option.none

def name : HdrMetadataType → String
  | none => "None"
  | videoHlg => "VideoHlg"
  | videoHdr10 => "VideoHdr10"
  | videoHdrVivid => "VideoHdrVivid"
  | imageHdrVividDual => "ImageHdrVividDual"
  | imageHdrVividSingle => "ImageHdrVividSingle"
  | imageHdrIsoDual => "ImageHdrIsoDual"
  | imageHdrIsoSingle => "ImageHdrIsoSingle"

instance : Placed HdrMetadataType where
  place x := x.raw
  place_injective {a b} h := by cases a <;> cases b <;> simp_all [raw]

theorem ofRaw?_raw (x : HdrMetadataType) : ofRaw? x.raw = some x := by cases x <;> rfl

theorem raw_lt (x : HdrMetadataType) : x.raw < 8 := by cases x <;> decide

end HdrMetadataType

/-! ## Color space -/

/-- The color space of an image. -/
structure ColorSpace where
  /-- Primaries. -/
  primaries : ColorPrimaries
  /-- Transfer function. -/
  transfer : TransferFunction
  /-- Matrix, which matters for luma and chroma layouts only. -/
  matrix : MatrixCoefficients
  /-- Quantization range. -/
  range : ColorRange
  deriving DecidableEq

namespace ColorSpace

/-- sRGB, full range. -/
def srgb : ColorSpace := ⟨.bt709, .srgb, .bt601, .full⟩

/-- Display P3, full range. -/
def displayP3 : ColorSpace := ⟨.p3D65, .srgb, .bt601, .full⟩

/-- BT.709, limited range. -/
def bt709Limited : ColorSpace := ⟨.bt709, .bt709, .bt709, .limited⟩

/-- BT.2020 with hybrid log-gamma, limited range. -/
def bt2020HlgLimited : ColorSpace := ⟨.bt2020, .hlg, .bt2020Ncl, .limited⟩

/-- BT.2020 with the perceptual quantizer, limited range. -/
def bt2020PqLimited : ColorSpace := ⟨.bt2020, .pq, .bt2020Ncl, .limited⟩

instance : Inhabited ColorSpace := ⟨srgb⟩

/-- The transfer function is one for high dynamic range. -/
def isHdr (c : ColorSpace) : Bool := c.transfer = .pq || c.transfer = .hlg

/-- The parts as the digits of a number. -/
def code (c : ColorSpace) : Nat :=
  ((c.primaries.raw * 8 + c.transfer.raw) * 8 + c.matrix.raw) * 8 + c.range.raw

theorem code_injective {a b : ColorSpace} (h : a.code = b.code) : a = b := by
  obtain ⟨p, t, m, r⟩ := a
  obtain ⟨p', t', m', r'⟩ := b
  have ht := t.raw_lt
  have ht' := t'.raw_lt
  have hm := m.raw_lt
  have hm' := m'.raw_lt
  have hr := r.raw_lt
  have hr' := r'.raw_lt
  simp only [code] at h
  have e₁ : p = p' := Placed.place_injective (congrArg Int.ofNat (by omega))
  have e₂ : t = t' := Placed.place_injective (congrArg Int.ofNat (by omega))
  have e₃ : m = m' := Placed.place_injective (congrArg Int.ofNat (by omega))
  have e₄ : r = r' := Placed.place_injective (congrArg Int.ofNat (by omega))
  rw [e₁, e₂, e₃, e₄]

instance : Placed ColorSpace where
  place c := c.code
  place_injective h := code_injective (Int.ofNat.inj h)

/-- The record form. -/
def repr (c : ColorSpace) : String :=
  Text.record "ColorSpaceInfo" [("primaries", c.primaries.name), ("transfer", c.transfer.name),
    ("matrix", c.matrix.name), ("range", c.range.name)]

end ColorSpace

/-! ## Color description -/

/-- A color space and the layout of the HDR metadata. -/
structure ColorDescription where
  /-- The color space. -/
  space : ColorSpace
  /-- The metadata layout. -/
  metadataType : HdrMetadataType
  deriving DecidableEq, Inhabited

namespace ColorDescription

/-- sRGB without HDR metadata. -/
def srgb : ColorDescription := ⟨.srgb, .none⟩

/-- Display P3 without HDR metadata. -/
def displayP3 : ColorDescription := ⟨.displayP3, .none⟩

def code (d : ColorDescription) : Nat := d.space.code * 8 + d.metadataType.raw

theorem code_injective {a b : ColorDescription} (h : a.code = b.code) : a = b := by
  obtain ⟨s, t⟩ := a
  obtain ⟨s', t'⟩ := b
  have ht := t.raw_lt
  have ht' := t'.raw_lt
  simp only [code] at h
  have e₁ : s = s' := ColorSpace.code_injective (by omega)
  have e₂ : t = t' := Placed.place_injective (congrArg Int.ofNat (by omega))
  rw [e₁, e₂]

instance : Placed ColorDescription where
  place d := d.code
  place_injective h := code_injective (Int.ofNat.inj h)

/-- The short form in messages: the four parts of the color space, then the metadata layout. -/
def text (d : ColorDescription) : String :=
  "/".intercalate [d.space.primaries.name, d.space.transfer.name, d.space.matrix.name,
    d.space.range.name] ++ "+" ++ d.metadataType.name

def repr (d : ColorDescription) : String :=
  Text.record "ColorSpaceDescription" [("color_space_info", d.space.repr),
    ("metadata_type", d.metadataType.name)]

end ColorDescription

end ImageDispatch
