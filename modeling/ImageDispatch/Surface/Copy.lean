import ImageDispatch.Surface.Basic

/-!
# Copying surfaces

`Surface.copyFrom` copies the pixels of a surface into another one of the same shape, whatever the
strides of the two, together with the color space and the metadata. It changes nothing if it fails.

* `Bytes.copyRow`: one run of bytes from one place to another.
* `Surface.copyPlane`: some rows of one plane.
-/

namespace ImageDispatch

/-- `dst` with the `n` bytes from `d` on replaced by the bytes of `src` from `s` on. -/
def Bytes.copyRow (src dst : Bytes) (s d n : Nat) : Bytes :=
  dst.extract 0 d ++ src.extract s (s + n) ++ dst.extract (d + n) dst.size

/-- A run of rows in memory: where it starts, and the distance from one row to the next. -/
structure Plane where
  base : Nat
  /-- Bytes from one row to the next. -/
  stride : Nat

/-- Offset of a row of the plane. -/
def Plane.row (p : Plane) (y : Nat) : Nat := p.base + y * p.stride

/-- `dst` with the first `n` bytes of `rows` rows of `src`, from the top down. -/
def Bytes.copyPlane (src dst : Bytes) (source target : Plane) (n : Nat) : Nat → Bytes
  | 0 => dst
  | rows + 1 => Bytes.copyRow src (Bytes.copyPlane src dst source target n rows)
      (source.row rows) (target.row rows) n

namespace Surface

/-- The luma plane, or the only plane of a packed format. -/
def lumaPlane (s : Surface) : Plane := ⟨0, s.stride.toNat⟩

/-- The chroma plane, which starts after all rows allocated for luma. -/
def chromaPlane (s : Surface) : Plane :=
  ⟨s.heightStride.toNat * s.stride.toNat, s.stride.toNat⟩

/-- The data of `dst` after a copy from `src` of the same shape: all bytes of the image at once if
the geometries agree, else the luma rows and then the chroma rows, without the padding. -/
def copiedData (src dst : Surface) (rowBytes size : Nat) : Bytes :=
  if src.stride = dst.stride ∧ src.heightStride = dst.heightStride then
    Bytes.copyRow src.data dst.data 0 0 size
  else
    let luma := Bytes.copyPlane src.data dst.data src.lumaPlane dst.lumaPlane rowBytes
      dst.height.toNat
    Bytes.copyPlane src.data luma src.chromaPlane dst.chromaPlane rowBytes
      (dst.format.chromaRows dst.height.toNat)

/-- Copies pixels, color space and metadata of `src` into `dst`. The shapes have to agree and both
surfaces have to be valid. -/
def copyFrom (dst src : Surface) : Except Error Surface := do
  unless dst.sameShape src do
    throw (.invalidValue (s!"cannot copy {src.width}x{src.height} {src.format.name} into " ++
      s!"{dst.width}x{dst.height} {dst.format.name}"))
  src.validate
  dst.validate
  let rowBytes ← dst.rowBytes
  let size ← dst.requiredSize
  return { dst with
    colorSpace := src.colorSpace
    metadataType := src.metadataType
    metadata := src.metadata
    data := copiedData src dst rowBytes size }

end Surface

end ImageDispatch
