import ImageDispatch.Proofs.Surface.Copy
import ImageDispatch.Proofs.Surface.Size

/-!
# Chroma samples

A row of chroma has a pair of samples for every two pixels of the rows above it, and one for a last
single pixel. What a valid surface has room for, and what a copy keeps.

* `PixelFormat.chromaBytes`: bytes of the pairs of a row.
* `Surface.HasChromaRoom`: the pairs fit in a row. `Surface.chromaPairs`: the pairs of a row, of
  which `Surface.lastSample` is what lies behind the bytes that a row of so many pixels takes.
* `Surface.chroma_kept`: which surfaces have room, and which copies keep all pairs.
* `Surface.chroma_kept_loses`: a copy that loses a sample.
-/

namespace ImageDispatch

namespace PixelFormat

/-- Bytes of the chroma pairs of a row: one pair for every two pixels, a last single one
included. -/
def chromaBytes (f : PixelFormat) (width : UInt32) : Nat :=
  2 * ((width.toNat + 1) / 2) * f.bytesPerPixel

variable {f : PixelFormat} {width : UInt32}

theorem chromaBytes_of_even (h : width.toNat % 2 = 0) :
    f.chromaBytes width = width.toNat * f.bytesPerPixel := by
  have hpairs : 2 * ((width.toNat + 1) / 2) = width.toNat := by omega
  rw [chromaBytes, hpairs]

/-- The last pair of an odd width has one sample more than there are pixels. -/
theorem chromaBytes_of_odd (h : width.toNat % 2 = 1) :
    f.chromaBytes width = width.toNat * f.bytesPerPixel + f.bytesPerPixel := by
  have hpairs : 2 * ((width.toNat + 1) / 2) = width.toNat + 1 := by omega
  rw [chromaBytes, hpairs, Nat.succ_mul]

theorem bytesPerPixel_pos (f : PixelFormat) : 0 < f.bytesPerPixel := by cases f <;> decide

end PixelFormat

namespace Surface

/-- The stride has room for the chroma pairs of a row. -/
def HasChromaRoom (s : Surface) : Prop := s.format.chromaBytes s.width ≤ s.stride.toNat

instance (s : Surface) : Decidable s.HasChromaRoom := Nat.decLe _ _

/-- The chroma pairs of a row. -/
def chromaPairs (s : Surface) (y : Nat) : Bytes :=
  s.data.extract (s.chromaPlane.row y) (s.chromaPlane.row y + s.format.chromaBytes s.width)

/-- What the chroma pairs of a row have more than there are pixels: the second sample of the last
pair if the width is odd, else nothing. -/
def lastSample (s : Surface) (y : Nat) : Bytes :=
  s.data.extract (s.chromaPlane.row y + s.width.toNat * s.format.bytesPerPixel)
    (s.chromaPlane.row y + s.format.chromaBytes s.width)

/-! ## Room -/

namespace Layout

variable {s : Surface} {rowBytes size : Nat} (h : s.Layout rowBytes size)

include h

theorem hasChromaRoom_of_even (heven : s.width.toNat % 2 = 0) : s.HasChromaRoom := by
  rw [HasChromaRoom, PixelFormat.chromaBytes_of_even heven, ← h.rowBytes_spec]
  exact h.row_fits

theorem pairs_fit (hroom : s.HasChromaRoom) :
    s.chromaPlane.Fits (s.format.chromaRows s.height.toNat) (s.format.chromaBytes s.width) size :=
  fun y hy => Nat.le_trans (Nat.add_le_add_left hroom _) (h.chroma_strides_fit y hy)

theorem size_chromaPairs (hroom : s.HasChromaRoom) {y : Nat}
    (hy : y < s.format.chromaRows s.height.toNat) :
    (s.chromaPairs y).size = s.format.chromaBytes s.width := by
  have hfits := (h.pairs_fit hroom).mono h.data_fits y hy
  rw [chromaPairs, Array.size_extract]
  omega

/-- The surface of the same shape without padding is valid as well. -/
theorem packed : ∃ size', (packed s.width s.height s.format).Layout rowBytes size' := by
  obtain ⟨n, hn, rfl⟩ := Option.map_eq_some_iff.1 h.rowBytes_eq
  have hle : n.toNat * s.format.rowCount s.height.toNat ≤ size := by
    rw [← h.size_spec.1, Nat.mul_comm]
    exact Nat.mul_le_mul (Nat.add_le_add h.rows_fit (chromaRows_mono s.format h.rows_fit))
      h.row_fits
  exact ⟨_, packed_layout hn h.width_pos h.height_pos (Nat.lt_of_le_of_lt hle h.size_spec.2)⟩

/-- Without padding there is no room for the last pair of an odd width. -/
theorem not_hasChromaRoom_packed (hodd : s.width.toNat % 2 = 1) :
    ¬(Surface.packed s.width s.height s.format).HasChromaRoom := by
  obtain ⟨n, hn, hrow⟩ := Option.map_eq_some_iff.1 h.rowBytes_eq
  intro hroom
  have hstride : (Surface.packed s.width s.height s.format).stride = n := packedStride_eq hn
  rw [HasChromaRoom, hstride, hrow, h.rowBytes_spec] at hroom
  have hpairs := s.format.chromaBytes_of_odd hodd
  have hsample := s.format.bytesPerPixel_pos
  have hroom : s.format.chromaBytes s.width ≤ s.width.toNat * s.format.bytesPerPixel := hroom
  omega

end Layout

/-! ## What a copy keeps -/

section

variable {src dst : Surface} {rowBytes size size' : Nat}
variable (hshape : dst.sameShape src = true)
variable (hs : src.Layout rowBytes size) (hd : dst.Layout rowBytes size')

include hd

/-- What follows the pixels in a row of chroma belongs to no row of either plane. -/
theorem padding_not_holds {y j : Nat} (hj : rowBytes ≤ j) (hstride : j < dst.stride.toNat) :
    ¬dst.lumaPlane.Holds dst.height.toNat rowBytes (dst.chromaPlane.row y + j) ∧
      ¬dst.chromaPlane.Holds (dst.format.chromaRows dst.height.toNat) rowBytes
        (dst.chromaPlane.row y + j) := by
  constructor
  · rintro ⟨z, hz, -, hlt⟩
    have hbefore := hd.luma_before_chroma hz (z := y)
    omega
  · rintro ⟨z, -, hle, hlt⟩
    rcases Nat.lt_trichotomy z y with hzy | rfl | hyz
    · have hbefore := Plane.row_add_le (p := dst.chromaPlane) hd.row_fits hzy
      omega
    · omega
    · have hafter := Plane.row_add_le (p := dst.chromaPlane) (Nat.le_refl dst.stride.toNat) hyz
      omega

include hshape hs

/-- With two geometries, a pair arrives if it is in the bytes that a row of so many pixels takes.
The rest of the pairs is what it was. -/
theorem chromaPairs_copied_iff
    (hsame : ¬(src.stride = dst.stride ∧ src.heightStride = dst.heightStride))
    (hsroom : src.HasChromaRoom) (hdroom : dst.HasChromaRoom) {y : Nat}
    (hy : y < dst.format.chromaRows dst.height.toNat) :
    (copied src dst rowBytes size').chromaPairs y = src.chromaPairs y ↔
      dst.lastSample y = src.lastSample y := by
  obtain ⟨hwidth, hheight, hformat⟩ := sameShape_iff.1 hshape
  have hpairs : src.format.chromaBytes src.width = dst.format.chromaBytes dst.width := by
    rw [hformat, hwidth]
  have hsrow : src.width.toNat * src.format.bytesPerPixel = rowBytes := hs.rowBytes_spec.symm
  have hdrow : dst.width.toNat * dst.format.bytesPerPixel = rowBytes := hd.rowBytes_spec.symm
  have hsfits := (hs.pairs_fit hsroom).mono hs.data_fits y (by rwa [← hformat, ← hheight])
  have hdfits := (hd.pairs_fit hdroom).mono hd.data_fits y hy
  have htfits := hdfits
  rw [← size_copiedData hshape hs hd] at htfits
  rw [hpairs] at hsfits
  have hcopied := Bytes.extract_eq_iff (m := 0) htfits hsfits
  have hlast := Bytes.extract_eq_iff (m := rowBytes) hdfits hsfits
  rw [lastSample, lastSample, hpairs, hsrow, hdrow, hlast, chromaPairs, chromaPairs, hpairs]
  -- The bytes of a row arrive, and what is behind them is padding to the copy.
  refine hcopied.trans ⟨fun h j hj hlt => ?_, fun h j _ hlt => ?_⟩
  · obtain ⟨hluma, hchroma⟩ := padding_not_holds hd (y := y) hj (Nat.lt_of_lt_of_le hlt hdroom)
    rw [← h j (Nat.zero_le j) hlt, getElem?_copiedData_padding hshape hs hd hsame hluma hchroma]
  · rcases Nat.lt_or_ge j rowBytes with hj | hj
    · exact getElem?_copiedData_chroma hshape hs hd hy hj
    · obtain ⟨hluma, hchroma⟩ := padding_not_holds hd (y := y) hj (Nat.lt_of_lt_of_le hlt hdroom)
      rw [getElem?_copiedData_padding hshape hs hd hsame hluma hchroma, h j hj hlt]

/-- With one geometry, all pairs arrive. -/
theorem chromaPairs_copied (hsame : src.stride = dst.stride ∧ src.heightStride = dst.heightStride)
    (hdroom : dst.HasChromaRoom) {y : Nat} (hy : y < dst.format.chromaRows dst.height.toNat) :
    (copied src dst rowBytes size').chromaPairs y = src.chromaPairs y := by
  obtain ⟨hwidth, -, hformat⟩ := sameShape_iff.1 hshape
  have hplane : src.chromaPlane = dst.chromaPlane := by
    rw [chromaPlane, chromaPlane, hsame.1, hsame.2]
  have hfits := hd.pairs_fit hdroom y hy
  have hsize := hs.size_congr hshape hd hsame.1 hsame.2
  have hsfits := hs.data_fits
  have htfits := hd.data_fits
  rw [← size_copiedData hshape hs hd] at htfits
  rw [chromaPairs, chromaPairs, hplane, ← hformat, ← hwidth]
  show (copiedData src dst rowBytes size').extract (dst.chromaPlane.row y)
    (dst.chromaPlane.row y + dst.format.chromaBytes dst.width) = _
  refine Bytes.extract_congr (Nat.le_trans hfits htfits) (by omega) fun j hj => ?_
  exact (getElem?_copiedData_block hshape hs hd hsame _).trans (if_pos (by omega))

theorem all_chromaPairs_copied_iff (hsroom : src.HasChromaRoom) (hdroom : dst.HasChromaRoom) :
    (∀ y < dst.format.chromaRows dst.height.toNat,
        (copied src dst rowBytes size').chromaPairs y = src.chromaPairs y) ↔
      (src.stride = dst.stride ∧ src.heightStride = dst.heightStride) ∨
        ∀ y < dst.format.chromaRows dst.height.toNat, dst.lastSample y = src.lastSample y := by
  by_cases hsame : src.stride = dst.stride ∧ src.heightStride = dst.heightStride
  · exact iff_of_true (fun y hy => chromaPairs_copied hshape hs hd hsame hdroom hy) (.inl hsame)
  · rw [or_iff_right hsame]
    exact forall₂_congr fun y hy =>
      chromaPairs_copied_iff hshape hs hd hsame hsroom hdroom hy

end

theorem lastSample_of_even {s : Surface} (h : s.width.toNat % 2 = 0) (y : Nat) :
    s.lastSample y = #[] := by
  rw [lastSample, PixelFormat.chromaBytes_of_even h]
  exact Array.extract_empty_of_stop_le_start (Nat.le_refl _)

/-- Not every valid surface of an odd width has room for the chroma pairs of a row: the check looks
at the bytes of so many pixels, and the last pair has a second sample. A copy takes over so many
bytes of a row as well. So between surfaces with room it keeps all pairs exactly if the geometries
agree or the samples behind those bytes were the same before. An even width loses nothing. -/
theorem chroma_kept (dst src t : Surface) (hyuv : dst.format.isYuv = true)
    (hcopy : dst.copyFrom src = .ok t) :
    ((∀ s : Surface, s.sameShape dst = true → s.validate = .ok () → s.HasChromaRoom) ↔
      dst.width.toNat % 2 = 0) ∧
    (∀ s : Surface, s.sameShape dst = true → s.validate = .ok () → s.HasChromaRoom →
      ∀ y < (dst.height.toNat + 1) / 2,
        (s.chromaPairs y).size = dst.format.chromaBytes dst.width) ∧
    (src.HasChromaRoom → dst.HasChromaRoom →
      ((∀ y < (dst.height.toNat + 1) / 2, t.chromaPairs y = src.chromaPairs y) ↔
        (src.stride = dst.stride ∧ src.heightStride = dst.heightStride) ∨
          ∀ y < (dst.height.toNat + 1) / 2, dst.lastSample y = src.lastSample y)) ∧
    (dst.width.toNat % 2 = 0 →
      ∀ y < (dst.height.toNat + 1) / 2, t.chromaPairs y = src.chromaPairs y) := by
  obtain ⟨hshape, hsrc, hdst⟩ := copyFrom_valid hcopy
  obtain ⟨rowBytes, size, size', hs, hd⟩ := exists_layouts hshape hsrc hdst
  obtain rfl := Except.ok.inj (hcopy.symm.trans (copyFrom_eq_copied hshape hsrc hdst hd))
  have hrows : dst.format.chromaRows dst.height.toNat = (dst.height.toNat + 1) / 2 := if_pos hyuv
  obtain ⟨hwidth, hheight, hformat⟩ := sameShape_iff.1 hshape
  rw [← hrows]
  refine ⟨⟨fun h => ?odd, fun heven s hss hvalid => ?even⟩, fun s hss hvalid hroom y hy => ?sizes,
    all_chromaPairs_copied_iff hshape hs hd, fun heven => ?copies⟩
  case odd =>
    refine (Nat.mod_two_eq_zero_or_one _).resolve_right fun hodd =>
      hd.not_hasChromaRoom_packed hodd ?_
    obtain ⟨size'', hpacked⟩ := hd.packed
    exact h _ (sameShape_iff.2 ⟨rfl, rfl, rfl⟩) hpacked.validate
  case even =>
    obtain ⟨row, n, hlayout⟩ := exists_layout (validate_eq_ok.1 hvalid)
    exact hlayout.hasChromaRoom_of_even (by rwa [(sameShape_iff.1 hss).1])
  case sizes =>
    obtain ⟨row, n, hlayout⟩ := exists_layout (validate_eq_ok.1 hvalid)
    obtain ⟨hw, hh, hf⟩ := sameShape_iff.1 hss
    rw [← hf, ← hh] at hy
    rw [hlayout.size_chromaPairs hroom hy, hf, hw]
  case copies =>
    have hsroom := hs.hasChromaRoom_of_even (hwidth ▸ heven)
    have hdroom := hd.hasChromaRoom_of_even heven
    refine (all_chromaPairs_copied_iff hshape hs hd hsroom hdroom).2 (.inr fun y _ => ?_)
    rw [lastSample_of_even heven, lastSample_of_even (hwidth ▸ heven)]

/-- One pixel of luma with two chroma samples, in rows of so many bytes. -/
def onePixel (stride : UInt32) (data : Bytes) : Surface :=
  { packed 1 1 .nv12 with stride, data }

/-- There are copies of one pixel, and a surface of one pixel without room for its chroma pair. -/
theorem chroma_kept_onePixel :
    let src := onePixel 2 #[10, 0, 11, 12]
    let dst := onePixel 4 #[0, 0, 0, 0, 0, 0, 0, 0]
    dst.format.isYuv = true ∧ dst.copyFrom src = .ok (onePixel 4 #[10, 0, 0, 0, 11, 0, 0, 0]) ∧
      ¬∀ s : Surface, s.sameShape dst = true → s.validate = .ok () → s.HasChromaRoom := by
  refine ⟨rfl, rfl, fun h => ?_⟩
  have heven := (chroma_kept _ (onePixel 2 #[10, 0, 11, 12]) _ rfl rfl).1.1 h
  exact absurd heven (by decide)

/-- The second chroma sample of the pixel is lost, though there is room for it on both sides. -/
theorem chroma_kept_loses :
    let src := onePixel 2 #[10, 0, 11, 12]
    let dst := onePixel 4 #[0, 0, 0, 0, 0, 0, 0, 0]
    src.HasChromaRoom ∧ dst.HasChromaRoom ∧ ∃ t, dst.copyFrom src = .ok t ∧
      src.chromaPairs 0 = #[11, 12] ∧ t.chromaPairs 0 = #[11, 0] :=
  ⟨by decide, by decide, _, rfl, rfl, rfl⟩

end Surface

end ImageDispatch
