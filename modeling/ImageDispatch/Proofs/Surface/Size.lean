import ImageDispatch.Proofs.Surface.InPlace

/-!
# Sizes

How many bytes a surface takes, up to the largest sizes that can be declared. A stride is kept in 32
bits and the size of an image in 64.

* `PixelFormat.rowWord`, `Surface.sizeWord`: rows and bytes counted in words of 64 bits, where a
  number that is too big wraps around.
* `PixelFormat.minStride?_eq_some`: the stride without padding is the bytes of a row, or there is
  none.
* `Surface.packed_validate_iff`: which surfaces without padding are valid. Those of a packed format
  never take more than 64 bits (`Surface.new_validate_of_packed`), while chroma rows can make an
  image too big.
* `Surface.new_validate_iff`: of the new ones, those are valid whose data one allocation can have.
* `Surface.sizes_exact`: no number on the way to a size wraps around, and a surface that is not
  valid holds no data when it is new. Between the limit of an allocation and 64 bits there are sizes
  of which there is no new surface (`Surface.sizes_exact_unallocated`).

Memory for the data of a surface is taken for granted up to the limit of an allocation.
-/

namespace ImageDispatch

/-- Half of a number, rounded up. -/
def halfUp (n : UInt64) : UInt64 := if 0 < n % 2 then n / 2 + 1 else n / 2

theorem toNat_halfUp (n : UInt64) : (halfUp n).toNat = (n.toNat + 1) / 2 := by
  have hlt := n.toNat_lt
  have hrest : (n % 2).toNat = n.toNat % 2 := UInt64.toNat_mod n 2
  have hhalf : (n / 2).toNat = n.toNat / 2 := UInt64.toNat_div n 2
  unfold halfUp
  split
  next hodd =>
    have hodd : 0 < (n % 2).toNat := UInt64.lt_iff_toNat_lt.1 hodd
    rw [UInt64.toNat_add, hhalf, UInt64.toNat_one]
    omega
  next heven =>
    have heven : ¬0 < (n % 2).toNat := fun h => heven (UInt64.lt_iff_toNat_lt.2 h)
    rw [hhalf]
    omega

namespace PixelFormat

variable {f : PixelFormat}

/-- `PixelFormat.rowCount` in words of 64 bits. -/
def rowWord (f : PixelFormat) (height : UInt32) : UInt64 :=
  let h := height.toUInt64
  if f.isYuv then h + halfUp h else h

/-- The rows of no height pass a word. -/
theorem toNat_rowWord (f : PixelFormat) (height : UInt32) :
    (f.rowWord height).toNat = f.rowCount height.toNat := by
  have hword : height.toUInt64.toNat = height.toNat := UInt32.toNat_toUInt64 height
  have hlt := height.toNat_lt
  unfold rowWord rowCount chromaRows
  split
  · rw [UInt64.toNat_add, toNat_halfUp, hword]
    omega
  · exact hword

theorem minStride?_eq_some {width n : UInt32} :
    f.minStride? width = some n ↔ width.toNat * f.bytesPerPixel = n.toNat := by
  unfold minStride?
  constructor
  · intro h
    dsimp only at h
    split at h
    next hlt => exact (UInt32.toNat_ofNat_of_lt' hlt).symm.trans (congrArg _ (Option.some.inj h))
    next => cases h
  · intro h
    have hlt : width.toNat * f.bytesPerPixel < UInt32.size := h ▸ n.toNat_lt
    rw [if_pos hlt, h, UInt32.ofNat_toNat]

/-- A row has a stride exactly if its bytes fit in 32 bits. -/
theorem isSome_minStride? {width : UInt32} :
    (f.minStride? width).isSome = true ↔ width.toNat * f.bytesPerPixel < UInt32.size := by
  unfold minStride?
  dsimp only
  split <;> simp_all

end PixelFormat

namespace Surface

/-- `Surface.requiredSize?` in words of 64 bits, where it may be too big for one. -/
def sizeWord (s : Surface) : UInt64 := s.stride.toUInt64 * s.format.rowWord s.heightStride

/-- A size of 64 bits is the size in words. -/
theorem toNat_sizeWord {s : Surface} {size : Nat} (h : s.requiredSize? = some size) :
    s.sizeWord.toNat = size := by
  obtain ⟨hproduct, hlt⟩ := sizeProduct?_eq_some.1 h
  rw [sizeWord, UInt64.toNat_mul, UInt32.toNat_toUInt64, PixelFormat.toNat_rowWord, hproduct]
  exact Nat.mod_eq_of_lt hlt

namespace Layout

variable {s : Surface} {rowBytes size : Nat} (h : s.Layout rowBytes size)

include h

theorem validate : s.validate = .ok () :=
  validate_eq_ok.2 (defect?_eq_none.2 ⟨h.width_pos, h.height_pos, rowBytes, size, h.rowBytes_eq,
    h.row_fits, UInt32.le_iff_toNat_le.2 h.rows_fit, h.size_eq, h.data_fits⟩)

theorem rowBytes_spec : rowBytes = s.width.toNat * s.format.bytesPerPixel := by
  obtain ⟨n, hn, rfl⟩ := Option.map_eq_some_iff.1 h.rowBytes_eq
  exact (PixelFormat.minStride?_eq_some.1 hn).symm

/-- There is a row at least, and it fits in the image. -/
theorem rowBytes_le : rowBytes ≤ size := by
  have hheight := h.rows_fit
  have hpos : 0 < s.height.toNat := UInt32.lt_iff_toNat_lt.1 (UInt32.pos_iff_ne_zero.2 h.height_pos)
  have hrow : 1 * s.stride.toNat ≤ size := h.rows_le (by omega)
  exact Nat.le_trans h.row_fits (by omega)

end Layout

/-! ## Surfaces without padding -/

section

variable {width height : UInt32} {format : PixelFormat}

theorem packedStride_eq {n : UInt32} (h : format.minStride? width = some n) :
    packedStride width format = n := by
  rw [packedStride, h]
  rfl

theorem packedStride_of_none (h : format.minStride? width = none) :
    packedStride width format = 0 := by
  rw [packedStride, h]
  rfl

/-- The stride is the bytes of a row, or zero if there is none. -/
theorem toNat_packedStride :
    (packedStride width format).toNat =
      if width.toNat * format.bytesPerPixel < UInt32.size then width.toNat * format.bytesPerPixel
      else 0 := by
  split
  next hrow =>
    obtain ⟨n, hn⟩ := Option.isSome_iff_exists.1 (PixelFormat.isSome_minStride?.2 hrow)
    rw [packedStride_eq hn, PixelFormat.minStride?_eq_some.1 hn]
  next hrow =>
    have hnone := Option.not_isSome_iff_eq_none.1 (mt PixelFormat.isSome_minStride?.1 hrow)
    rw [packedStride_of_none hnone]
    rfl

/-- The size is that of all rows, or zero if a row has no stride or they have no size. -/
theorem packedSize_eq :
    packedSize width height format =
      if width.toNat * format.bytesPerPixel < UInt32.size ∧
          width.toNat * format.bytesPerPixel * format.rowCount height.toNat < UInt64.size then
        width.toNat * format.bytesPerPixel * format.rowCount height.toNat
      else 0 := by
  rw [packedSize, sizeProduct?, toNat_packedStride, apply_ite (Option.getD · 0)]
  by_cases hrow : width.toNat * format.bytesPerPixel < UInt32.size <;> simp [hrow]

/-- With its chroma rows an image can pass 64 bits, and has no data then. -/
example : packedSize 4294967295 4294967295 .nv12 = 0 := by decide

theorem packed_data_size :
    (packed width height format).data.size = packedSize width height format :=
  Array.size_replicate

theorem packed_layout {n : UInt32} (hn : format.minStride? width = some n) (hwidth : width ≠ 0)
    (hheight : height ≠ 0) (hsize : n.toNat * format.rowCount height.toNat < UInt64.size) :
    (packed width height format).Layout n.toNat (n.toNat * format.rowCount height.toNat) := by
  have hstride : (packed width height format).stride = n := packedStride_eq hn
  have hrequired : (packed width height format).requiredSize? =
      some (n.toNat * format.rowCount height.toNat) := by
    rw [requiredSize?, hstride]
    exact if_pos hsize
  refine ⟨congrArg (Option.map UInt32.toNat) hn, hrequired, hwidth, hheight, ?_, Nat.le_refl _, ?_⟩
  · exact Nat.le_of_eq (congrArg UInt32.toNat hstride).symm
  · rw [packed_data_size]
    exact Nat.le_of_eq (congrArg (Option.getD · 0) hrequired).symm

/-- A surface without padding is valid if it has pixels, its rows are no longer than 32 bits tell,
and all of them no more than 64 bits tell. -/
theorem packed_validate_iff :
    (packed width height format).validate = .ok () ↔
      0 < width ∧ 0 < height ∧ width.toNat * format.bytesPerPixel < UInt32.size ∧
        width.toNat * format.bytesPerPixel * format.rowCount height.toNat < UInt64.size := by
  rw [UInt32.pos_iff_ne_zero, UInt32.pos_iff_ne_zero]
  constructor
  · intro h
    obtain ⟨row, size, hl⟩ := exists_layout (validate_eq_ok.1 h)
    obtain ⟨n, hn, -⟩ := Option.map_eq_some_iff.1 hl.rowBytes_eq
    have hn : format.minStride? width = some n := hn
    have hrow := PixelFormat.minStride?_eq_some.1 hn
    obtain ⟨hproduct, hlt⟩ := sizeProduct?_eq_some.1 hl.size_eq
    have hstride : (packed width height format).stride = n := packedStride_eq hn
    rw [hstride] at hproduct
    refine ⟨hl.width_pos, hl.height_pos, hrow ▸ n.toNat_lt, ?_⟩
    rw [hrow]
    exact hproduct.symm ▸ hlt
  · rintro ⟨hwidth, hheight, hrow, hsize⟩
    obtain ⟨n, hn⟩ := Option.isSome_iff_exists.1 (PixelFormat.isSome_minStride?.2 hrow)
    rw [PixelFormat.minStride?_eq_some.1 hn] at hsize
    exact (packed_layout hn hwidth hheight hsize).validate

/-- A surface without padding that is not valid has no data. -/
theorem packedSize_of_invalid (h : (packed width height format).validate ≠ .ok ()) :
    packedSize width height format = 0 := by
  rw [packedSize_eq]
  split
  next hfits =>
    obtain ⟨hrow, hsize⟩ := hfits
    -- The rows fit, so what is wrong are the pixels: the width or the height is zero.
    have hempty : ¬(0 < width ∧ 0 < height) := fun ⟨hwidth, hheight⟩ =>
      h (packed_validate_iff.2 ⟨hwidth, hheight, hrow, hsize⟩)
    rw [UInt32.pos_iff_ne_zero, UInt32.pos_iff_ne_zero, not_and_or, not_not, not_not] at hempty
    obtain rfl | rfl := hempty
    · simp
    · simp [PixelFormat.rowCount, PixelFormat.chromaRows]
  next => rfl

/-! ## Allocation -/

variable {s : Surface}

theorem new?_eq_some :
    new? width height format = some s ↔
      packedSize width height format ≤ allocationLimit ∧ packed width height format = s := by
  simp [new?]

/-- A new surface is valid if it has pixels, its rows are no longer than 32 bits tell, and all of
them no more than one allocation has. -/
theorem new_validate_iff (h : new? width height format = some s) :
    s.validate = .ok () ↔
      0 < width ∧ 0 < height ∧ width.toNat * format.bytesPerPixel < UInt32.size ∧
        width.toNat * format.bytesPerPixel * format.rowCount height.toNat ≤ allocationLimit := by
  obtain ⟨hlimit, rfl⟩ := new?_eq_some.1 h
  have hwords : allocationLimit < UInt64.size := by decide
  rw [packed_validate_iff]
  refine and_congr_right fun _ => and_congr_right fun _ => and_congr_right fun hrow => ?_
  constructor
  · intro hsize
    rwa [packedSize_eq, if_pos ⟨hrow, hsize⟩] at hlimit
  · intro hsize
    exact Nat.lt_of_le_of_lt hsize hwords

/-- The rows of a packed format are 32 bits of strides of 32 bits, so that each that can be
allocated is what was asked for. -/
theorem new_validate_of_packed (hformat : format.isYuv = false)
    (h : new? width height format = some s) :
    s.validate = .ok () ↔
      0 < width ∧ 0 < height ∧ width.toNat * format.bytesPerPixel < UInt32.size := by
  have hrows : format.rowCount height.toNat = height.toNat := by
    simp [PixelFormat.rowCount, PixelFormat.chromaRows, hformat]
  obtain ⟨-, rfl⟩ := new?_eq_some.1 h
  rw [packed_validate_iff, hrows]
  have hsize (hrow : width.toNat * format.bytesPerPixel < UInt32.size) :
      width.toNat * format.bytesPerPixel * height.toNat < UInt64.size :=
    Nat.mul_lt_mul'' hrow height.toNat_lt
  exact ⟨fun ⟨hw, hh, hrow, _⟩ => ⟨hw, hh, hrow⟩, fun ⟨hw, hh, hrow⟩ => ⟨hw, hh, hrow, hsize hrow⟩⟩

/-- Rows, strides and sizes are counted without a number that wraps around. A new surface without
padding is valid if it has pixels, its stride fits in 32 bits and its size in one allocation; if
its row passes 32 bits, its size passes 64 bits or it has no pixels, it holds no data and is an
invalid value. In a surface that is valid, however it came about, the size is that of all strided
rows, it covers a row, and the data covers it. -/
theorem sizes_exact (width height : UInt32) (format : PixelFormat) :
    let row := width.toNat * format.bytesPerPixel
    let rows := format.rowCount height.toNat
    let size := if row < UInt32.size ∧ row * rows < UInt64.size then row * rows else 0
    (format.rowWord height).toNat = rows ∧
    (packedStride width format).toNat = (if row < UInt32.size then row else 0) ∧
    packedSize width height format = size ∧
    (size ≤ allocationLimit → ∃ s, new? width height format = some s) ∧
    (∀ s, new? width height format = some s →
      s.stride = packedStride width format ∧ s.heightStride = height ∧ s.data.size = size ∧
      (s.validate = .ok () ↔
        0 < width ∧ 0 < height ∧ row < UInt32.size ∧ row * rows ≤ allocationLimit) ∧
      (s.validate ≠ .ok () →
        s.data = #[] ∧ ∃ reason, s.validate = .error (.invalidValue reason))) ∧
    ∀ t : Surface, t.validate = .ok () → ∃ rowBytes size,
      t.rowBytes = .ok rowBytes ∧ rowBytes = t.width.toNat * t.format.bytesPerPixel ∧
      t.requiredSize = .ok size ∧
      size = t.stride.toNat * t.format.rowCount t.heightStride.toNat ∧ t.sizeWord.toNat = size ∧
      rowBytes ≤ size ∧ size ≤ t.data.size := by
  refine ⟨format.toNat_rowWord height, toNat_packedStride, packedSize_eq, fun hsize => ?returns,
    fun s hs => ?new, fun t ht => ?valid⟩
  case returns =>
    exact ⟨_, new?_eq_some.2 ⟨Nat.le_trans (Nat.le_of_eq packedSize_eq) hsize, rfl⟩⟩
  case new =>
    obtain ⟨-, rfl⟩ := new?_eq_some.1 hs
    refine ⟨rfl, rfl, packed_data_size.trans packedSize_eq, new_validate_iff hs, fun hinvalid => ?_⟩
    have hempty := packed_data_size.trans (packedSize_of_invalid hinvalid)
    refine ⟨Array.size_eq_zero_iff.1 hempty, ?_⟩
    cases hvalidate : (packed width height format).validate with
    | ok => exact absurd hvalidate hinvalid
    | error e =>
      obtain ⟨reason, rfl⟩ := validate_error hvalidate
      exact ⟨reason, rfl⟩
  case valid =>
    obtain ⟨rowBytes, size, hl⟩ := exists_layout (validate_eq_ok.1 ht)
    obtain ⟨hproduct, -⟩ := sizeProduct?_eq_some.1 hl.size_eq
    exact ⟨rowBytes, size, hl.rowBytes_ok, hl.rowBytes_spec, hl.requiredSize_ok, hproduct.symm,
      toNat_sizeWord hl.size_eq, hl.rowBytes_le, hl.data_fits⟩

/-- There are pixels whose row fits in 32 bits and whose size fits in 64, and there is no new
surface of them, since the size passes what one allocation has. -/
theorem sizes_exact_unallocated :
    let width : UInt32 := 1431655765
    let height : UInt32 := 4294967295
    let row := width.toNat * PixelFormat.rgb888.bytesPerPixel
    (0 < width ∧ 0 < height ∧ row < UInt32.size ∧
      row * PixelFormat.rgb888.rowCount height.toNat < UInt64.size) ∧
    new? width height .rgb888 = none := by
  have hlarge : ¬packedSize 1431655765 4294967295 .rgb888 ≤ allocationLimit := by decide
  exact ⟨by decide, if_neg hlarge⟩

end

end Surface

end ImageDispatch
