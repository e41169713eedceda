import ImageDispatch.Error
import ImageDispatch.Format.Color
import ImageDispatch.Format.Pixel

/-!
# Surfaces

A surface is an image in memory with its description.

* `Surface.new?`: a zeroed surface without padding, unless its data passes the limit of an
  allocation. `Surface.packed` is the surface itself.
* `Surface.defect?`: the first way in which the declared geometry and the data disagree, in a
  fixed order of checks; `Surface.validate` reports it as an error.
* `Surface.requiredSize?`: bytes that the geometry takes, unless they pass 64 bits.
-/

namespace ImageDispatch

/-- Bytes in memory. -/
abbrev Bytes := Array UInt8

/-- The blobs of HDR metadata beside the pixels. -/
structure HdrMetadata where
  /-- Metadata of the whole image. -/
  fixed : Bytes := #[]
  perFrame : Bytes := #[]
  deriving DecidableEq, Inhabited

/-- Neither blob is present. -/
def HdrMetadata.isEmpty (m : HdrMetadata) : Bool := m.fixed.isEmpty && m.perFrame.isEmpty

/-- An image in memory. -/
structure Surface where
  width : UInt32
  height : UInt32
  /-- Bytes from one row to the next. -/
  stride : UInt32
  /-- Rows that are allocated for the first plane. -/
  heightStride : UInt32
  format : PixelFormat
  colorSpace : ColorSpace
  /-- Layout of the HDR metadata. -/
  metadataType : HdrMetadataType
  metadata : HdrMetadata
  data : Bytes
  deriving DecidableEq

/-- A product of two sizes, unless it passes 64 bits. -/
def sizeProduct? (a b : Nat) : Option Nat :=
  if a * b < UInt64.size then some (a * b) else none

/-- Bytes that one allocation has at most: an offset in it is a signed word. -/
def allocationLimit : Nat := UInt64.size / 2 - 1

namespace Surface

/-- Bytes of a row without padding, and zero if they pass 32 bits. -/
def packedStride (width : UInt32) (format : PixelFormat) : UInt32 :=
  (format.minStride? width).getD 0

/-- Bytes of all rows without padding, and zero if they pass 64 bits. -/
def packedSize (width height : UInt32) (format : PixelFormat) : Nat :=
  (sizeProduct? (packedStride width format).toNat (format.rowCount height.toNat)).getD 0

/-- The zeroed surface whose rows have no padding, in sRGB, however much memory it takes. One whose
row size overflows gets the stride zero and no data, and is not valid. -/
def packed (width height : UInt32) (format : PixelFormat) : Surface where
  width := width
  height := height
  stride := packedStride width format
  heightStride := height
  format := format
  colorSpace := .srgb
  metadataType := .none
  metadata := {}
  data := Array.replicate (packedSize width height format) 0

/-- A new zeroed surface without padding. If its data passes the limit of an allocation there is
none, and the program stops. -/
def new? (width height : UInt32) (format : PixelFormat) : Option Surface :=
  if packedSize width height format ≤ allocationLimit then some (packed width height format)
  else none

/-- The color space with the metadata layout. -/
def description (s : Surface) : ColorDescription := ⟨s.colorSpace, s.metadataType⟩

/-- Bytes of pixel data in one row. -/
def rowBytes? (s : Surface) : Option Nat := (s.format.minStride? s.width).map UInt32.toNat

/-- Bytes that the declared geometry takes. -/
def requiredSize? (s : Surface) : Option Nat :=
  sizeProduct? s.stride.toNat (s.format.rowCount s.heightStride.toNat)

/-! ## Validation -/

/-- How the description of a surface can be wrong. -/
inductive Defect
  | emptyGeometry (width height : UInt32)
  /-- The bytes of a row pass 32 bits. -/
  | rowOverflow (width : UInt32) (format : PixelFormat)
  /-- A row does not fit in the stride. -/
  | strideTooSmall (stride width : UInt32) (format : PixelFormat)
  /-- Fewer rows are allocated than declared. -/
  | heightStrideTooSmall (heightStride height : UInt32)
  /-- The bytes of the image pass 64 bits. -/
  | sizeOverflow (stride heightStride : UInt32)
  /-- The data ends before the image does. -/
  | dataTooSmall (size required : Nat)
  deriving DecidableEq

/-- The wording. -/
def Defect.message : Defect → String
  | emptyGeometry width height => s!"buffer has empty geometry {width}x{height}"
  | rowOverflow width format => s!"width {width} of {format.name} overflows the row size"
  | strideTooSmall stride width format =>
    s!"stride {stride} too small for {width} pixels of {format.name}"
  | heightStrideTooSmall heightStride height =>
    s!"height stride {heightStride} below height {height}"
  | sizeOverflow stride heightStride =>
    s!"stride {stride} over {heightStride} rows overflows the buffer size"
  | dataTooSmall size required => s!"buffer data too small: {size} < {required}"

/-- A defect as the error of a call. -/
def Defect.error (d : Defect) : Error := .invalidValue d.message

/-- The bytes of a row, or why there is no such number. -/
def rowBytes (s : Surface) : Except Error Nat :=
  match s.rowBytes? with
  | some n => .ok n
  | none => .error (Defect.rowOverflow s.width s.format).error

/-- The bytes of the image, or why there is no such number. -/
def requiredSize (s : Surface) : Except Error Nat :=
  match s.requiredSize? with
  | some n => .ok n
  | none => .error (Defect.sizeOverflow s.stride s.heightStride).error

/-- The first defect of the surface: its pixels, its rows, its planes, its data. -/
def defect? (s : Surface) : Option Defect :=
  if s.width = 0 ∨ s.height = 0 then some (.emptyGeometry s.width s.height)
  else
    match s.rowBytes? with
    | none => some (.rowOverflow s.width s.format)
    | some row =>
      if s.stride.toNat < row then some (.strideTooSmall s.stride s.width s.format)
      else if s.heightStride < s.height then
        some (.heightStrideTooSmall s.heightStride s.height)
      else
        match s.requiredSize? with
        | none => some (.sizeOverflow s.stride s.heightStride)
        | some required =>
          if s.data.size < required then some (.dataTooSmall s.data.size required) else none

/-- The surface has no defect. -/
def validate (s : Surface) : Except Error Unit :=
  match s.defect? with
  | some d => .error d.error
  | none => .ok ()

/-- Width, height and format agree. -/
def sameShape (a b : Surface) : Bool :=
  a.width = b.width && a.height = b.height && a.format = b.format

end Surface

end ImageDispatch
