import ImageDispatch.Order.Placed

/-!
# Pixel formats

How the samples of an image lie in memory: packed RGB layouts, and semi-planar 4:2:0 layouts with
a luma plane followed by a plane of interleaved chroma pairs of half the height.

* `PixelFormat.ofRaw?`, `PixelFormat.raw`: the number of a format across the C boundary.
* `PixelFormat.minStride?`: the bytes that one row needs, if they fit in 32 bits.
* `PixelFormat.rowCount`: the rows of one stride that an image of a height takes.
-/

namespace ImageDispatch

/-- Memory layout and bit depth of an image. -/
inductive PixelFormat
  /-- RGBA, 8 bits a channel. -/
  | rgba8888
  /-- BGRA, 8 bits a channel. -/
  | bgra8888
  /-- RGB, 8 bits a channel, three bytes a pixel. -/
  | rgb888
  /-- RGB with 10 bits a channel and 2 bits of alpha. -/
  | rgba1010102
  /-- RGBA, one half-precision number a channel. -/
  | rgbaF16
  /-- Luma plane, then Cb and Cr interleaved, 8 bits. -/
  | nv12
  /-- Luma plane, then Cr and Cb interleaved, 8 bits. -/
  | nv21
  /-- Luma plane, then Cb and Cr interleaved, 10 bits in 16-bit words. -/
  | ycbcrP010
  /-- Luma plane, then Cr and Cb interleaved, 10 bits in 16-bit words. -/
  | ycrcbP010
  deriving DecidableEq, Inhabited

namespace PixelFormat

/-- Every format, in the order of the numbers. -/
def all : List PixelFormat :=
  [rgba8888, bgra8888, rgb888, rgba1010102, rgbaF16, nv12, nv21, ycbcrP010, ycrcbP010]

/-- The number of the format across the C boundary. -/
def raw : PixelFormat → Nat
  | rgba8888 => 0
  | bgra8888 => 1
  | rgb888 => 2
  | rgba1010102 => 3
  | rgbaF16 => 4
  | nv12 => 5
  | nv21 => 6
  | ycbcrP010 => 7
  | ycrcbP010 => 8

/-- The format that a number across the C boundary stands for: its place among all formats. -/
def ofRaw? (n : Int) : Option PixelFormat := n.toNat?.bind fun place => all[place]?

/-- The name in logs and messages. -/
def name : PixelFormat → String
  | rgba8888 => "Rgba8888"
  | bgra8888 => "Bgra8888"
  | rgb888 => "Rgb888"
  | rgba1010102 => "Rgba1010102"
  | rgbaF16 => "RgbaF16"
  | nv12 => "Nv12"
  | nv21 => "Nv21"
  | ycbcrP010 => "YcbcrP010"
  | ycrcbP010 => "YcrcbP010"

instance : Placed PixelFormat where
  place f := f.raw
  place_injective {a b} h := by cases a <;> cases b <;> simp_all [raw]

/-- Bits of one color sample. -/
def bitDepth : PixelFormat → Nat
  | rgba8888 | bgra8888 | rgb888 | nv12 | nv21 => 8
  | rgba1010102 | ycbcrP010 | ycrcbP010 => 10
  | rgbaF16 => 16

/-- A semi-planar 4:2:0 layout. -/
def isYuv : PixelFormat → Bool
  | nv12 | nv21 | ycbcrP010 | ycrcbP010 => true
  | _ => false

/-- More than eight bits a sample. -/
def isHighBitDepth (f : PixelFormat) : Bool := 8 < f.bitDepth

/-- Bytes that one pixel takes in a row of the first plane. -/
def bytesPerPixel : PixelFormat → Nat
  | rgba8888 | bgra8888 | rgba1010102 => 4
  | rgb888 => 3
  | rgbaF16 => 8
  | nv12 | nv21 => 1
  | ycbcrP010 | ycrcbP010 => 2

/-- Bytes of a row of `width` pixels, unless they pass 32 bits. -/
def minStride? (f : PixelFormat) (width : UInt32) : Option UInt32 :=
  let bytes := width.toNat * f.bytesPerPixel
  if bytes < UInt32.size then some (UInt32.ofNat bytes) else none

/-- Rows of chroma under `height` rows of luma: one for every two, a last single one included. -/
def chromaRows (f : PixelFormat) (height : Nat) : Nat := if f.isYuv then (height + 1) / 2 else 0

/-- Rows of one stride that an image of `height` rows takes, chroma rows included. -/
def rowCount (f : PixelFormat) (height : Nat) : Nat := height + f.chromaRows height

theorem ofRaw?_raw (f : PixelFormat) : ofRaw? f.raw = some f := by cases f <;> rfl

end PixelFormat

end ImageDispatch
