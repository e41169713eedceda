import ImageDispatch.Surface.Basic

/-!
# Frames

The description of a surface without its pixels and its metadata.
-/

namespace ImageDispatch

/-- The description of a surface. -/
structure FrameInfo where
  width : UInt32
  height : UInt32
  /-- Bytes from one row to the next. -/
  widthStride : UInt32
  /-- Rows that are allocated for the first plane. -/
  heightStride : UInt32
  bitDepth : Nat
  format : PixelFormat
  /-- Color space with the metadata layout. -/
  description : ColorDescription
  deriving DecidableEq

/-- The description of a surface. -/
def Surface.frame (s : Surface) : FrameInfo :=
  ⟨s.width, s.height, s.stride, s.heightStride, s.format.bitDepth, s.format, s.description⟩

/-- Width, height and format agree. -/
def FrameInfo.sameShape (a b : FrameInfo) : Bool :=
  a.width = b.width && a.height = b.height && a.format = b.format

end ImageDispatch
