import ImageDispatch.Proofs.Surface.InPlace

/-!
# What a copy does

* `Surface.CopyOf`: what a copy has from the one surface and from the other.
* `Surface.getElem?_copiedData_luma`, `Surface.getElem?_copiedData_chroma`,
  `Surface.getElem?_copiedData_padding`: the bytes of the copy, which the block copy and the copy by
  rows agree on.
* `Surface.copyFrom_copies`: when there is a copy, and what it is.
-/

namespace ImageDispatch

namespace Surface

/-- `t` is `dst` with the pixels of `src`, where a row is `rowBytes` long and the image of `dst`
takes `size` bytes. -/
structure CopyOf (src dst t : Surface) (rowBytes size : Nat) : Prop where
  layout : t.SameLayout dst
  data_size : t.data.size = dst.data.size
  colorSpace : t.colorSpace = src.colorSpace
  metadataType : t.metadataType = src.metadataType
  metadata : t.metadata = src.metadata
  /-- Each luma row is there in both, and the same. -/
  luma : ∀ y < dst.height.toNat, src.lumaPlane.row y + rowBytes ≤ src.data.size ∧
    dst.lumaPlane.row y + rowBytes ≤ dst.data.size ∧
    t.data.extract (dst.lumaPlane.row y) (dst.lumaPlane.row y + rowBytes) =
      src.data.extract (src.lumaPlane.row y) (src.lumaPlane.row y + rowBytes)
  /-- So is each chroma row. -/
  chroma : dst.format.isYuv = true → ∀ y < (dst.height.toNat + 1) / 2,
    src.chromaPlane.row y + rowBytes ≤ src.data.size ∧
    dst.chromaPlane.row y + rowBytes ≤ dst.data.size ∧
    t.data.extract (dst.chromaPlane.row y) (dst.chromaPlane.row y + rowBytes) =
      src.data.extract (src.chromaPlane.row y) (src.chromaPlane.row y + rowBytes)
  /-- If the geometries differ, no byte outside of the rows changes. -/
  padding : ¬(src.stride = dst.stride ∧ src.heightStride = dst.heightStride) → ∀ i,
    ¬dst.lumaPlane.Holds dst.height.toNat rowBytes i →
    ¬dst.chromaPlane.Holds (dst.format.chromaRows dst.height.toNat) rowBytes i →
      t.data[i]? = dst.data[i]?
  /-- If they agree, the image is copied as it is, and nothing else. -/
  block : src.stride = dst.stride ∧ src.heightStride = dst.heightStride →
    size ≤ src.data.size ∧ size ≤ dst.data.size ∧
    t.data.extract 0 size = src.data.extract 0 size ∧ ∀ i ≥ size, t.data[i]? = dst.data[i]?

section

variable {src dst : Surface} {rowBytes size size' : Nat}
variable (hshape : dst.sameShape src = true)
variable (hs : src.Layout rowBytes size) (hd : dst.Layout rowBytes size')

include hshape hs hd

theorem size_copiedData : (copiedData src dst rowBytes size').size = dst.data.size := by
  have hsfits := hs.data_fits
  have hdfits := hd.data_fits
  unfold copiedData
  split
  next hsame =>
    have hsize := hs.size_congr hshape hd hsame.1 hsame.2
    exact Bytes.size_copyRow (by omega) (by omega)
  next =>
    obtain ⟨hluma, hchroma⟩ := hs.source_fits hshape
    have hlumaSize := Bytes.size_copyPlane (hluma.mono hsfits) (hd.luma_fits.mono hdfits)
    dsimp only
    rw [Bytes.size_copyPlane (hchroma.mono hsfits) (hd.chroma_fits.mono (hlumaSize.symm ▸ hdfits)),
      hlumaSize]

/-- With one geometry, a byte of the image is what it is in the source. -/
theorem getElem?_copiedData_block
    (hsame : src.stride = dst.stride ∧ src.heightStride = dst.heightStride) (i : Nat) :
    (copiedData src dst rowBytes size')[i]? = if i < size' then src.data[i]? else dst.data[i]? := by
  have hsfits := hs.data_fits
  have hdfits := hd.data_fits
  have hsize := hs.size_congr hshape hd hsame.1 hsame.2
  rw [copiedData, if_pos hsame, Bytes.getElem?_copyRow (by omega) (by omega)]
  simp

/-- With two geometries, the luma rows are copied before the chroma rows. -/
theorem copiedData_rows
    (hsame : ¬(src.stride = dst.stride ∧ src.heightStride = dst.heightStride)) :
    ∃ luma : Bytes, luma.size = dst.data.size ∧
      luma = src.data.copyPlane dst.data src.lumaPlane dst.lumaPlane rowBytes dst.height.toNat ∧
      copiedData src dst rowBytes size' =
        src.data.copyPlane luma src.chromaPlane dst.chromaPlane rowBytes
          (dst.format.chromaRows dst.height.toNat) := by
  obtain ⟨hluma, -⟩ := hs.source_fits hshape
  have hlumaSize :=
    Bytes.size_copyPlane (hluma.mono hs.data_fits) (hd.luma_fits.mono hd.data_fits)
  exact ⟨_, hlumaSize, rfl, if_neg hsame⟩

theorem getElem?_copiedData_luma {y j : Nat} (hy : y < dst.height.toNat) (hj : j < rowBytes) :
    (copiedData src dst rowBytes size')[dst.lumaPlane.row y + j]? =
      src.data[src.lumaPlane.row y + j]? := by
  obtain ⟨hluma, hchroma⟩ := hs.source_fits hshape
  by_cases hsame : src.stride = dst.stride ∧ src.heightStride = dst.heightStride
  · have hend := hd.luma_fits y hy
    rw [getElem?_copiedData_block hshape hs hd hsame, if_pos (by omega), lumaPlane, lumaPlane,
      hsame.1]
  · obtain ⟨luma, hlumaSize, rfl, hdata⟩ := copiedData_rows hshape hs hd hsame
    have hout : ¬dst.chromaPlane.Holds (dst.format.chromaRows dst.height.toNat) rowBytes
        (dst.lumaPlane.row y + j) := by
      rintro ⟨z, -, hz, -⟩
      have hbefore := hd.luma_before_chroma hy (z := z)
      omega
    rw [hdata, Bytes.getElem?_copyPlane_of_not_holds (hchroma.mono hs.data_fits)
      (hd.chroma_fits.mono (hlumaSize.symm ▸ hd.data_fits)) hout]
    exact Bytes.getElem?_copyPlane (hluma.mono hs.data_fits) (hd.luma_fits.mono hd.data_fits)
      hd.row_fits hy hj

theorem getElem?_copiedData_chroma {y j : Nat}
    (hy : y < dst.format.chromaRows dst.height.toNat) (hj : j < rowBytes) :
    (copiedData src dst rowBytes size')[dst.chromaPlane.row y + j]? =
      src.data[src.chromaPlane.row y + j]? := by
  obtain ⟨-, hchroma⟩ := hs.source_fits hshape
  by_cases hsame : src.stride = dst.stride ∧ src.heightStride = dst.heightStride
  · have hend := hd.chroma_fits y hy
    rw [getElem?_copiedData_block hshape hs hd hsame, if_pos (by omega), chromaPlane, chromaPlane,
      hsame.1, hsame.2]
  · obtain ⟨luma, hlumaSize, -, hdata⟩ := copiedData_rows hshape hs hd hsame
    rw [hdata]
    exact Bytes.getElem?_copyPlane (hchroma.mono hs.data_fits)
      (hd.chroma_fits.mono (hlumaSize.symm ▸ hd.data_fits)) hd.row_fits hy hj

theorem getElem?_copiedData_padding
    (hsame : ¬(src.stride = dst.stride ∧ src.heightStride = dst.heightStride)) {i : Nat}
    (hluma : ¬dst.lumaPlane.Holds dst.height.toNat rowBytes i)
    (hchroma : ¬dst.chromaPlane.Holds (dst.format.chromaRows dst.height.toNat) rowBytes i) :
    (copiedData src dst rowBytes size')[i]? = dst.data[i]? := by
  obtain ⟨hsluma, hschroma⟩ := hs.source_fits hshape
  obtain ⟨luma, hlumaSize, rfl, hdata⟩ := copiedData_rows hshape hs hd hsame
  rw [hdata, Bytes.getElem?_copyPlane_of_not_holds (hschroma.mono hs.data_fits)
    (hd.chroma_fits.mono (hlumaSize.symm ▸ hd.data_fits)) hchroma]
  exact Bytes.getElem?_copyPlane_of_not_holds (hsluma.mono hs.data_fits)
    (hd.luma_fits.mono hd.data_fits) hluma

theorem copied_copyOf : CopyOf src dst (copied src dst rowBytes size') rowBytes size' := by
  obtain ⟨hluma, hchroma⟩ := hs.source_fits hshape
  have hdata : (copied src dst rowBytes size').data.size = dst.data.size :=
    size_copiedData hshape hs hd
  refine
    { layout := ⟨rfl, rfl, rfl, rfl, rfl⟩, data_size := hdata
      colorSpace := rfl, metadataType := rfl, metadata := rfl
      luma := fun y hy => ?_, chroma := fun hyuv y hy => ?_
      padding := fun hsame i hl hc => getElem?_copiedData_padding hshape hs hd hsame hl hc
      block := fun hsame => ?_ }
  · have hsrow := hluma.mono hs.data_fits y hy
    have hdrow := hd.luma_fits.mono hd.data_fits y hy
    refine ⟨hsrow, hdrow, Bytes.extract_congr (hdata.symm ▸ hdrow) hsrow fun j hj => ?_⟩
    exact getElem?_copiedData_luma hshape hs hd hy hj
  · replace hy : y < dst.format.chromaRows dst.height.toNat := by
      rw [PixelFormat.chromaRows, if_pos hyuv]
      exact hy
    have hsrow := hchroma.mono hs.data_fits y hy
    have hdrow := hd.chroma_fits.mono hd.data_fits y hy
    refine ⟨hsrow, hdrow, Bytes.extract_congr (hdata.symm ▸ hdrow) hsrow fun j hj => ?_⟩
    exact getElem?_copiedData_chroma hshape hs hd hy hj
  · have hbyte := getElem?_copiedData_block hshape hs hd hsame
    have hsize := hs.size_congr hshape hd hsame.1 hsame.2
    have hsfits : size' ≤ src.data.size := hsize ▸ hs.data_fits
    have hdfits := hd.data_fits
    refine ⟨hsfits, hdfits, ?_, fun i hi => (hbyte i).trans (if_neg (by omega))⟩
    have hblock := Bytes.extract_congr (s := 0) (t := 0) (n := size')
      (a := (copied src dst rowBytes size').data) (b := src.data) (by omega) (by omega)
      fun j hj => by
        rw [Nat.zero_add]
        exact (hbyte j).trans (if_pos hj)
    rwa [Nat.zero_add] at hblock

end

/-- Whatever the strides, a surface of the same shape is copied if both are valid: the rows of both
planes, and nothing of the padding unless the geometries agree. The copy works in place without a
byte out of bounds and without an overflow. Without a copy the surface stays as it is. -/
theorem copyFrom_copies (dst src : Surface) :
    ((∃ t, dst.copyFrom src = .ok t) ↔
      (dst.width = src.width ∧ dst.height = src.height ∧ dst.format = src.format) ∧
        src.validate = .ok () ∧ dst.validate = .ok ()) ∧
    (∀ e, dst.copyFrom src = .error e → (copyInto src).run dst = some (.error e, dst)) ∧
    (∀ t, dst.copyFrom src = .ok t → (copyInto src).run dst = some (.ok (), t) ∧
      ∃ rowBytes, dst.format.minStride? dst.width = some rowBytes ∧
        CopyOf src dst t rowBytes.toNat
          (dst.stride.toNat * dst.format.rowCount dst.heightStride.toNat)) ∧
    ∀ s : Surface, s.format.rowCount s.heightStride.toNat < UInt64.size := by
  refine ⟨⟨?ok, ?valid⟩, fun e he => by rw [copyInto_run, he], fun t ht => ⟨?_, ?copy⟩,
    fun s => rowCount_lt s.format s.heightStride⟩
  case ok =>
    rintro ⟨t, ht⟩
    obtain ⟨hshape, hsrc, hdst⟩ := copyFrom_valid ht
    exact ⟨sameShape_iff.1 hshape, validate_eq_ok.2 hsrc, validate_eq_ok.2 hdst⟩
  case valid =>
    rintro ⟨hshape, hsrc, hdst⟩
    have hdst := validate_eq_ok.1 hdst
    obtain ⟨rowBytes, size, hd⟩ := exists_layout hdst
    exact ⟨_, copyFrom_eq_copied (sameShape_iff.2 hshape) (validate_eq_ok.1 hsrc) hdst hd⟩
  · rw [copyInto_run, ht]
  case copy =>
    obtain ⟨hshape, hsrc, hdst⟩ := copyFrom_valid ht
    obtain ⟨rowBytes, size, size', hs, hd⟩ := exists_layouts hshape hsrc hdst
    obtain ⟨n, hn, rfl⟩ := Option.map_eq_some_iff.1 hd.rowBytes_eq
    have hcopy := copied_copyOf hshape hs hd
    obtain rfl := Except.ok.inj (ht.symm.trans (copyFrom_eq_copied hshape hsrc hdst hd))
    obtain ⟨rfl, -⟩ := sizeProduct?_eq_some.1 hd.size_eq
    exact ⟨n, hn, hcopy⟩

end Surface

end ImageDispatch
