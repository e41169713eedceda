import ImageDispatch.Surface.Basic

/-!
# Image descriptors

A descriptor is a surface as callers in C see it: numbers, and pointers into their memory.

* `ImageDescriptor.describe`: the descriptor of a surface.
* `ImageDescriptor.toSurface`: the surface behind a descriptor, if its numbers are known ones and
  it is valid.
* `ImageDescriptor.writeBack`: what a call leaves in the memory of its caller. It leaves everything
  as it was if the amount of data has changed.
-/

namespace ImageDispatch

/-- A surface as seen by callers in C, with the memory that its pointers lead to. -/
structure ImageDescriptor where
  width : UInt32
  height : UInt32
  /-- Bytes from one row to the next. -/
  stride : UInt32
  /-- Rows that are allocated for the first plane. -/
  heightStride : UInt32
  /-- Number of the pixel format. -/
  format : Int32
  /-- Number of the color primaries. -/
  primaries : Int32
  /-- Number of the transfer function. -/
  transfer : Int32
  /-- Number of the matrix coefficients. -/
  matrix : Int32
  /-- Number of the color range. -/
  range : Int32
  /-- Number of the metadata layout. -/
  metadataType : Int32
  /-- The pixel data, unless the pointer is null. -/
  data : Option Bytes
  /-- Number of bytes of pixel data. -/
  length : Nat
  /-- Where static metadata goes, unless the pointer is null. -/
  staticMetadata : Option Bytes
  /-- Number of bytes that have room there. -/
  staticCapacity : Nat
  /-- Number of bytes that were written there. -/
  staticLength : Nat
  deriving DecidableEq

namespace ImageDescriptor

/-- The descriptor of a surface, without room for metadata. -/
def describe (s : Surface) : ImageDescriptor where
  width := s.width
  height := s.height
  stride := s.stride
  heightStride := s.heightStride
  format := .ofNat s.format.raw
  primaries := .ofNat s.colorSpace.primaries.raw
  transfer := .ofNat s.colorSpace.transfer.raw
  matrix := .ofNat s.colorSpace.matrix.raw
  range := .ofNat s.colorSpace.range.raw
  metadataType := .ofNat s.metadataType.raw
  data := some s.data
  length := s.data.size
  staticMetadata := none
  staticCapacity := 0
  staticLength := 0

/-- What a number stands for, or an error that names the field. -/
def field {α : Type} (what : String) (raw : Int32) (ofRaw? : Int → Option α) : Except Error α :=
  match ofRaw? raw.toInt with
  | some a => .ok a
  | none => .error (.invalidValue s!"unknown {what} {raw}")

/-- The surface that the caller describes. -/
def toSurface (d : ImageDescriptor) : Except Error Surface := do
  let format ← field "pixel format" d.format PixelFormat.ofRaw?
  let primaries ← field "primaries" d.primaries ColorPrimaries.ofRaw?
  let transfer ← field "transfer" d.transfer TransferFunction.ofRaw?
  let matrix ← field "matrix" d.matrix MatrixCoefficients.ofRaw?
  let range ← field "range" d.range ColorRange.ofRaw?
  let metadataType ← field "metadata type" d.metadataType HdrMetadataType.ofRaw?
  let some bytes := d.data | throw (.invalidValue "null pixel data")
  let surface : Surface :=
    { width := d.width, height := d.height, stride := d.stride, heightStride := d.heightStride
      format, colorSpace := ⟨primaries, transfer, matrix, range⟩, metadataType
      metadata := {}, data := bytes.extract 0 d.length }
  surface.validate
  return surface

/-- `old` with its first bytes replaced by as many of `new` as have room in `capacity`. -/
def overwrite (old new : Bytes) (capacity : Nat) : Bytes :=
  let n := min capacity new.size
  new.extract 0 n ++ old.extract n old.size

/-- Writes the pixels, the metadata layout and the static metadata of a surface into the memory of
the caller. -/
def writeBack (d : ImageDescriptor) (s : Surface) : Except Error ImageDescriptor :=
  if s.data.size ≠ d.length then
    .error (.invalidValue
      s!"processed buffer holds {s.data.size} bytes, caller buffer {d.length}")
  else
    let d := { d with
      data := d.data.map fun old => overwrite old s.data d.length
      metadataType := .ofNat s.metadataType.raw }
    match d.staticMetadata with
    | none => .ok d
    | some old =>
      .ok { d with
        staticMetadata := some (overwrite old s.metadata.fixed d.staticCapacity)
        staticLength := min d.staticCapacity s.metadata.fixed.size }

end ImageDescriptor

end ImageDispatch
