import ImageDispatch.Proofs.Surface.Valid

/-!
# Rows and planes

What copying rows does to an array of bytes, and where the rows of a valid surface are.

* `Bytes.getElem?_copyRow`: each byte after a run of bytes was copied.
* `Bytes.getElem?_copyPlane`, `Bytes.getElem?_copyPlane_of_not_holds`: each byte after some rows of a
  plane were.
* `Plane.Fits`: the rows of a plane lie within so many bytes.
* `Surface.Layout`: the numbers of a valid surface. Its planes fit (`Surface.Layout.luma_fits`,
  `Surface.Layout.chroma_fits`), one after the other (`Surface.Layout.luma_before_chroma`).
-/

namespace ImageDispatch

/-! ## Rows -/

namespace Plane

/-- The rows of the plane lie within `size` bytes, the padding of the last one apart. -/
def Fits (p : Plane) (rows n size : Nat) : Prop := ∀ y < rows, p.row y + n ≤ size

/-- The byte belongs to one of the rows of the plane. -/
def Holds (p : Plane) (rows n i : Nat) : Prop := ∃ y < rows, p.row y ≤ i ∧ i < p.row y + n

variable {p : Plane} {n rows size : Nat}

/-- A row ends before the next one begins. -/
theorem row_add_le (hn : n ≤ p.stride) {y z : Nat} (h : y < z) : p.row y + n ≤ p.row z := by
  have hstep : (y + 1) * p.stride ≤ z * p.stride := Nat.mul_le_mul_right _ h
  have hsucc : (y + 1) * p.stride = y * p.stride + p.stride := Nat.succ_mul y p.stride
  unfold row
  omega

theorem Fits.mono (h : p.Fits rows n size) {size' : Nat} (hsize : size ≤ size') :
    p.Fits rows n size' := fun y hy => Nat.le_trans (h y hy) hsize

theorem Fits.of_succ (h : p.Fits (rows + 1) n size) : p.Fits rows n size :=
  fun y hy => h y (Nat.lt_succ_of_lt hy)

end Plane

namespace Bytes

section

variable {src dst : Bytes} {s d n : Nat} (hs : s + n ≤ src.size) (hd : d + n ≤ dst.size)

include hs hd

theorem size_copyRow : (copyRow src dst s d n).size = dst.size := by
  simp only [copyRow, Array.size_append, Array.size_extract]
  omega

theorem getElem?_copyRow (i : Nat) :
    (copyRow src dst s d n)[i]? = if d ≤ i ∧ i < d + n then src[s + (i - d)]? else dst[i]? := by
  have hfront : (dst.extract 0 d).size = d := by rw [Array.size_extract]; omega
  have hboth : (dst.extract 0 d ++ src.extract s (s + n)).size = d + n := by
    rw [Array.size_append, hfront, Array.size_extract]; omega
  unfold copyRow
  rw [Array.getElem?_append, hboth]
  by_cases hend : i < d + n
  · rw [if_pos hend, Array.getElem?_append, hfront]
    by_cases hi : i < d
    · rw [if_pos hi, if_neg (by omega), Array.getElem?_extract, if_pos (by omega), Nat.zero_add]
    · rw [if_neg hi, if_pos (by omega), Array.getElem?_extract, if_pos (by omega)]
  · rw [if_neg hend, if_neg (by omega), Array.getElem?_extract]
    split
    · congr 1
      omega
    · exact (Array.getElem?_eq_none (by omega)).symm

end

variable {src dst : Bytes} {source target : Plane} {n rows : Nat}

theorem size_copyPlane (hs : source.Fits rows n src.size) (ht : target.Fits rows n dst.size) :
    (copyPlane src dst source target n rows).size = dst.size := by
  induction rows with
  | zero => rfl
  | succ rows ih =>
    have hsize := ih hs.of_succ ht.of_succ
    rw [copyPlane, size_copyRow (hs rows (Nat.lt_succ_self _)), hsize]
    rw [hsize]
    exact ht rows (Nat.lt_succ_self _)

/-- A byte of a row is what it is in the source. Later rows do not touch it. -/
theorem getElem?_copyPlane (hs : source.Fits rows n src.size) (ht : target.Fits rows n dst.size)
    (hn : n ≤ target.stride) {y j : Nat} (hy : y < rows) (hj : j < n) :
    (copyPlane src dst source target n rows)[target.row y + j]? = src[source.row y + j]? := by
  induction rows with
  | zero => exact absurd hy (Nat.not_lt_zero y)
  | succ rows ih =>
    have hlast : target.row rows + n ≤ (copyPlane src dst source target n rows).size := by
      rw [size_copyPlane hs.of_succ ht.of_succ]
      exact ht rows (Nat.lt_succ_self _)
    rw [copyPlane, getElem?_copyRow (hs rows (Nat.lt_succ_self _)) hlast]
    rcases Nat.lt_succ_iff_lt_or_eq.1 hy with hlt | rfl
    · have hbefore := Plane.row_add_le hn hlt
      rw [if_neg (by omega), ih hs.of_succ ht.of_succ hlt]
    · rw [if_pos (by omega)]
      congr 1
      omega

/-- Bytes outside of the rows stay. -/
theorem getElem?_copyPlane_of_not_holds (hs : source.Fits rows n src.size)
    (ht : target.Fits rows n dst.size) {i : Nat} (hi : ¬target.Holds rows n i) :
    (copyPlane src dst source target n rows)[i]? = dst[i]? := by
  induction rows with
  | zero => rfl
  | succ rows ih =>
    have hlast : target.row rows + n ≤ (copyPlane src dst source target n rows).size := by
      rw [size_copyPlane hs.of_succ ht.of_succ]
      exact ht rows (Nat.lt_succ_self _)
    have hout : ¬(target.row rows ≤ i ∧ i < target.row rows + n) :=
      fun h => hi ⟨rows, Nat.lt_succ_self _, h⟩
    rw [copyPlane, getElem?_copyRow (hs rows (Nat.lt_succ_self _)) hlast, if_neg hout]
    exact ih hs.of_succ ht.of_succ fun ⟨y, hy, h⟩ => hi ⟨y, Nat.lt_succ_of_lt hy, h⟩

/-- Two runs of bytes are the same if they agree at each place. -/
theorem extract_eq_iff {a b : Bytes} {s t m n : Nat} (ha : s + n ≤ a.size)
    (hb : t + n ≤ b.size) :
    a.extract (s + m) (s + n) = b.extract (t + m) (t + n) ↔
      ∀ j, m ≤ j → j < n → a[s + j]? = b[t + j]? := by
  constructor
  · intro h j hm hn
    have hbyte : (a.extract (s + m) (s + n))[j - m]? = (b.extract (t + m) (t + n))[j - m]? := by
      rw [h]
    rw [Array.getElem?_extract, Array.getElem?_extract, if_pos (by omega), if_pos (by omega)]
      at hbyte
    rwa [Nat.add_assoc, Nat.add_assoc, Nat.add_sub_cancel' hm] at hbyte
  · intro h
    refine Array.ext_getElem? fun j => ?_
    rw [Array.getElem?_extract, Array.getElem?_extract]
    by_cases hj : m + j < n
    · rw [if_pos (by omega), if_pos (by omega), Nat.add_assoc, Nat.add_assoc, h _ (by omega) hj]
    · rw [if_neg (by omega), if_neg (by omega)]

/-- Runs of bytes that agree one by one are the same. -/
theorem extract_congr {a b : Bytes} {s t n : Nat} (ha : s + n ≤ a.size) (hb : t + n ≤ b.size)
    (h : ∀ j < n, a[s + j]? = b[t + j]?) : a.extract s (s + n) = b.extract t (t + n) :=
  (extract_eq_iff (m := 0) ha hb).2 fun j _ hj => h j hj

end Bytes

/-! ## The planes of a surface -/

namespace Surface

/-- The surface has no defect: the bytes of a row and of the image, and how they fit in. -/
structure Layout (s : Surface) (rowBytes size : Nat) : Prop where
  rowBytes_eq : s.rowBytes? = some rowBytes
  size_eq : s.requiredSize? = some size
  width_pos : s.width ≠ 0
  height_pos : s.height ≠ 0
  row_fits : rowBytes ≤ s.stride.toNat
  rows_fit : s.height.toNat ≤ s.heightStride.toNat
  data_fits : size ≤ s.data.size

theorem exists_layout {s : Surface} (h : s.defect? = none) :
    ∃ rowBytes size, s.Layout rowBytes size := by
  obtain ⟨hw, hh, rowBytes, size, hrow, hfits, hrows, hsize, hdata⟩ := defect?_eq_none.1 h
  exact ⟨rowBytes, size, hrow, hsize, hw, hh, hfits, UInt32.le_iff_toNat_le.1 hrows, hdata⟩

theorem sizeProduct?_eq_some {a b n : Nat} :
    sizeProduct? a b = some n ↔ a * b = n ∧ n < UInt64.size := by
  unfold sizeProduct?
  split
  · simp only [Option.some.injEq]
    exact ⟨fun h => ⟨h, h ▸ by assumption⟩, And.left⟩
  · exact ⟨nofun, fun ⟨h, hlt⟩ => absurd (h ▸ hlt) ‹_›⟩

theorem chromaRows_mono (f : PixelFormat) {m n : Nat} (h : m ≤ n) :
    f.chromaRows m ≤ f.chromaRows n := by
  unfold PixelFormat.chromaRows
  split <;> omega

namespace Layout

variable {s : Surface} {rowBytes size : Nat} (h : s.Layout rowBytes size)

include h

/-- The image takes all rows that are allocated, chroma rows included, and no more than 64 bits. -/
theorem size_spec :
    (s.heightStride.toNat + s.format.chromaRows s.heightStride.toNat) * s.stride.toNat = size ∧
      size < UInt64.size := by
  obtain ⟨hproduct, hlt⟩ := sizeProduct?_eq_some.1 h.size_eq
  exact ⟨by rw [Nat.mul_comm]; exact hproduct, hlt⟩

/-- So many rows of one stride lie within the bytes of the image. -/
theorem rows_le {rows : Nat}
    (hrows : rows ≤ s.heightStride.toNat + s.format.chromaRows s.heightStride.toNat) :
    rows * s.stride.toNat ≤ size := by
  rw [← h.size_spec.1]
  exact Nat.mul_le_mul_right _ hrows

theorem luma_fits : s.lumaPlane.Fits s.height.toNat rowBytes size := by
  intro y hy
  have hrows := h.rows_fit
  have hend : (y + 1) * s.stride.toNat ≤ size := h.rows_le (by omega)
  have hsucc : (y + 1) * s.stride.toNat = y * s.stride.toNat + s.stride.toNat :=
    Nat.succ_mul y s.stride.toNat
  have hrow := h.row_fits
  show 0 + y * s.stride.toNat + rowBytes ≤ size
  omega

/-- The chroma rows lie within the image with their padding. -/
theorem chroma_strides_fit :
    s.chromaPlane.Fits (s.format.chromaRows s.height.toNat) s.stride.toNat size := by
  intro y hy
  have hrows := chromaRows_mono s.format h.rows_fit
  have hend : (s.heightStride.toNat + (y + 1)) * s.stride.toNat ≤ size := h.rows_le (by omega)
  have hsplit : (s.heightStride.toNat + (y + 1)) * s.stride.toNat =
      s.heightStride.toNat * s.stride.toNat + y * s.stride.toNat + s.stride.toNat := by
    rw [Nat.add_mul, Nat.succ_mul, Nat.add_assoc]
  show s.heightStride.toNat * s.stride.toNat + y * s.stride.toNat + s.stride.toNat ≤ size
  omega

theorem chroma_fits :
    s.chromaPlane.Fits (s.format.chromaRows s.height.toNat) rowBytes size := fun y hy =>
  Nat.le_trans (Nat.add_le_add_left h.row_fits _) (h.chroma_strides_fit y hy)

/-- The luma rows end before the chroma plane begins. -/
theorem luma_before_chroma {y z : Nat} (hy : y < s.height.toNat) :
    s.lumaPlane.row y + rowBytes ≤ s.chromaPlane.row z := by
  have hrows : (y + 1) * s.stride.toNat ≤ s.heightStride.toNat * s.stride.toNat :=
    Nat.mul_le_mul_right _ (Nat.le_trans hy h.rows_fit)
  have hsucc : (y + 1) * s.stride.toNat = y * s.stride.toNat + s.stride.toNat :=
    Nat.succ_mul y s.stride.toNat
  have hrow := h.row_fits
  show 0 + y * s.stride.toNat + rowBytes ≤ s.heightStride.toNat * s.stride.toNat + z * s.stride.toNat
  omega

end Layout

end Surface

end ImageDispatch
