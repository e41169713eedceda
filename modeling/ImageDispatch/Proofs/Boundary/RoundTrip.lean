import ImageDispatch.Proofs.Boundary.Memory

/-!
# Surfaces there and back

What comes back of a surface that is described and read, and of a descriptor that is read and
described.

* `Numbered`: the numbers of a type across the C boundary. What a number is read as is written as
  that number (`Numbered.ofRaw?_eq_some`).
* `ImageDescriptor.Codes`: the numbers of a descriptor are those of a format, of a color space and of
  a metadata layout.
* `ImageDescriptor.outline`: the geometry and the length of a descriptor, to be checked.
* `ImageDescriptor.toSurface_describe`, `ImageDescriptor.describe_toSurface`: there and back.
* `ImageDescriptor.round_trip`: what is read, and that nothing is lost.
-/

namespace ImageDispatch

/-! ## Numbers -/

/-- The values of a type have numbers of one byte, and a number is read as the value that has it. -/
structure Numbered {α : Type} (raw : α → Nat) (ofRaw? : Int → Option α) : Prop where
  ofRaw?_raw : ∀ a, ofRaw? (raw a) = some a
  raw_of : ∀ {n : Int} {a : α}, ofRaw? n = some a → (raw a : Int) = n
  raw_lt : ∀ a, raw a < UInt8.size

namespace Numbered

variable {α : Type} {raw : α → Nat} {ofRaw? : Int → Option α}

variable (h : Numbered raw ofRaw?)

include h

theorem toInt_ofNat (a : α) : (Int32.ofNat (raw a)).toInt = raw a :=
  Int32.toInt_ofNat_of_lt (Nat.lt_trans (h.raw_lt a) (by decide))

/-- A number is read as a value exactly if it is what is written for the value. -/
theorem ofRaw?_eq_some {x : Int32} {a : α} : ofRaw? x.toInt = some a ↔ x = .ofNat (raw a) := by
  constructor
  · intro hx
    apply Int32.toInt_inj.1
    rw [h.toInt_ofNat, h.raw_of hx]
  · rintro rfl
    rw [h.toInt_ofNat, h.ofRaw?_raw]

theorem field_ofNat (what : String) (a : α) :
    ImageDescriptor.field what (.ofNat (raw a)) ofRaw? = .ok a :=
  ImageDescriptor.field_eq_ok.2 (h.ofRaw?_eq_some.2 rfl)

end Numbered

/-- The numbers of the formats are their places. -/
theorem PixelFormat.map_raw_all : all.map raw = List.range 9 := rfl

theorem PixelFormat.numbered : Numbered raw ofRaw? where
  ofRaw?_raw := ofRaw?_raw
  raw_of {n f} h := by
    obtain ⟨place, hplace, hf⟩ := Option.bind_eq_some_iff.1 h
    have hraw : (List.range 9)[place]? = some f.raw := by
      rw [← map_raw_all, List.getElem?_map, hf]
      rfl
    obtain ⟨_, hget⟩ := List.getElem?_eq_some_iff.1 hraw
    rw [← hget, List.getElem_range, Int.mem_toNat?.1 hplace]
  raw_lt f := Nat.lt_trans f.raw_lt (by decide)

theorem ColorPrimaries.numbered : Numbered raw ofRaw? where
  ofRaw?_raw := ofRaw?_raw
  raw_of h := by
    unfold ofRaw? at h
    split at h <;> cases h <;> rfl
  raw_lt x := Nat.lt_trans x.raw_lt (by decide)

theorem TransferFunction.numbered : Numbered raw ofRaw? where
  ofRaw?_raw := ofRaw?_raw
  raw_of h := by
    unfold ofRaw? at h
    split at h <;> cases h <;> rfl
  raw_lt x := Nat.lt_trans x.raw_lt (by decide)

theorem MatrixCoefficients.numbered : Numbered raw ofRaw? where
  ofRaw?_raw := ofRaw?_raw
  raw_of h := by
    unfold ofRaw? at h
    split at h <;> cases h <;> rfl
  raw_lt x := Nat.lt_trans x.raw_lt (by decide)

theorem ColorRange.numbered : Numbered raw ofRaw? where
  ofRaw?_raw := ofRaw?_raw
  raw_of h := by
    unfold ofRaw? at h
    split at h <;> cases h <;> rfl
  raw_lt x := Nat.lt_trans x.raw_lt (by decide)

theorem HdrMetadataType.numbered : Numbered raw ofRaw? where
  ofRaw?_raw := ofRaw?_raw
  raw_of h := by
    unfold ofRaw? at h
    split at h <;> cases h <;> rfl
  raw_lt x := Nat.lt_trans x.raw_lt (by decide)

namespace ImageDescriptor

/-! ## Failures -/

/-- Each failure is an invalid value. -/
def OnlyInvalid {α : Type} (x : Except Error α) : Prop :=
  ∀ e, x = .error e → ∃ reason, e = .invalidValue reason

theorem OnlyInvalid.bind {α β : Type} {x : Except Error α} {f : α → Except Error β}
    (hx : OnlyInvalid x) (hf : ∀ a, OnlyInvalid (f a)) : OnlyInvalid (x >>= f) := by
  cases x with
  | error e =>
    rintro e' h
    obtain rfl := Except.error.inj h
    exact hx e rfl
  | ok a => exact hf a

theorem field_onlyInvalid {α : Type} (what : String) (raw : Int32) (ofRaw? : Int → Option α) :
    OnlyInvalid (field what raw ofRaw?) := by
  intro e h
  unfold field at h
  cases hr : ofRaw? raw.toInt with
  | some a => rw [hr] at h; cases h
  | none => rw [hr] at h; exact ⟨_, (Except.error.inj h).symm⟩

theorem toSurface_onlyInvalid (d : ImageDescriptor) : OnlyInvalid d.toSurface := by
  unfold toSurface
  iterate 6 refine .bind (field_onlyInvalid _ _ _) fun _ => ?_
  cases d.data with
  | none => exact fun e h => ⟨_, (Except.error.inj h).symm⟩
  | some bytes => exact .bind (fun _ => Surface.validate_error) fun _ e h => by cases h

/-! ## There and back -/

/-- The numbers of the descriptor are those of the format, the color space and the metadata
layout. -/
structure Codes (d : ImageDescriptor) (f : PixelFormat) (c : ColorSpace) (t : HdrMetadataType) :
    Prop where
  format : d.format = .ofNat f.raw
  primaries : d.primaries = .ofNat c.primaries.raw
  transfer : d.transfer = .ofNat c.transfer.raw
  matrix : d.matrix = .ofNat c.matrix.raw
  range : d.range = .ofNat c.range.raw
  metadataType : d.metadataType = .ofNat t.raw

/-- The pointer leads to at least as many bytes as the descriptor says. -/
def Readable (d : ImageDescriptor) : Prop := ∀ bytes, d.data = some bytes → d.length ≤ bytes.size

/-- The geometry and the length of the descriptor, with blank data. -/
def outline (d : ImageDescriptor) (f : PixelFormat) (c : ColorSpace) (t : HdrMetadataType) :
    Surface where
  width := d.width
  height := d.height
  stride := d.stride
  heightStride := d.heightStride
  format := f
  colorSpace := c
  metadataType := t
  metadata := {}
  data := Array.replicate d.length 0

variable {d : ImageDescriptor} {s : Surface}

theorem Describes.codes (h : d.Describes s) : d.Codes s.format s.colorSpace s.metadataType where
  format := PixelFormat.numbered.ofRaw?_eq_some.1 h.format
  primaries := ColorPrimaries.numbered.ofRaw?_eq_some.1 h.primaries
  transfer := TransferFunction.numbered.ofRaw?_eq_some.1 h.transfer
  matrix := MatrixCoefficients.numbered.ofRaw?_eq_some.1 h.matrix
  range := ColorRange.numbered.ofRaw?_eq_some.1 h.range
  metadataType := HdrMetadataType.numbered.ofRaw?_eq_some.1 h.metadataType

/-- A surface that is described is read again if it is valid, but for the metadata. -/
theorem toSurface_describe (s : Surface) :
    (describe s).toSurface = s.validate.map fun _ => { s with metadata := {} } := by
  unfold toSurface describe
  simp only [PixelFormat.numbered.field_ofNat, ColorPrimaries.numbered.field_ofNat,
    TransferFunction.numbered.field_ofNat, MatrixCoefficients.numbered.field_ofNat,
    ColorRange.numbered.field_ofNat, HdrMetadataType.numbered.field_ofNat, Array.extract_size]
  show (s.validate >>= fun _ => .ok { s with metadata := {} }) = _
  cases s.validate <;> rfl

/-- A descriptor whose surface is read is described again. -/
theorem describe_toSurface (hd : d.Readable) (h : d.Describes s) :
    describe s = { d with
      data := d.data.map fun bytes => bytes.extract 0 d.length
      staticMetadata := none, staticCapacity := 0, staticLength := 0 } := by
  obtain ⟨bytes, hbytes, hdata⟩ := h.data
  have hsize : s.data.size = d.length := by
    have hfits := hd bytes hbytes
    rw [hdata, Array.size_extract]
    omega
  have hcodes := h.codes
  rw [describe, h.width, h.height, h.stride, h.heightStride, ← hcodes.format, ← hcodes.primaries,
    ← hcodes.transfer, ← hcodes.matrix, ← hcodes.range, ← hcodes.metadataType, hsize, hdata, hbytes]
  rfl

/-- A descriptor is read exactly if its numbers are known ones, there are pixels, and its geometry
fits in its length. -/
theorem exists_describes_iff (hd : d.Readable) :
    (∃ s, d.Describes s) ↔
      ∃ f c t, d.Codes f c t ∧ d.data ≠ none ∧ (d.outline f c t).validate = .ok () := by
  constructor
  · rintro ⟨s, h⟩
    obtain ⟨bytes, hbytes, hdata⟩ := h.data
    refine ⟨_, _, _, h.codes, by rw [hbytes]; nofun, Surface.validate_eq_ok.2 ?_⟩
    refine Surface.SameLayout.defect?
      ⟨h.width.symm, h.height.symm, h.stride.symm, h.heightStride.symm, rfl⟩ ?_ h.valid
    rw [hdata, Array.size_extract, outline, Array.size_replicate]
    omega
  · rintro ⟨f, c, t, h, hsome, hvalid⟩
    obtain ⟨bytes, hbytes⟩ := Option.ne_none_iff_exists'.1 hsome
    refine ⟨{ d.outline f c t with data := bytes.extract 0 d.length }, {
      width := rfl
      height := rfl
      stride := rfl
      heightStride := rfl
      format := PixelFormat.numbered.ofRaw?_eq_some.2 h.format
      primaries := ColorPrimaries.numbered.ofRaw?_eq_some.2 h.primaries
      transfer := TransferFunction.numbered.ofRaw?_eq_some.2 h.transfer
      matrix := MatrixCoefficients.numbered.ofRaw?_eq_some.2 h.matrix
      range := ColorRange.numbered.ofRaw?_eq_some.2 h.range
      metadataType := HdrMetadataType.numbered.ofRaw?_eq_some.2 h.metadataType
      metadata := rfl
      data := ⟨bytes, hbytes, rfl⟩
      valid := ?_ }⟩
    refine Surface.SameLayout.defect? (t := d.outline f c t) ⟨rfl, rfl, rfl, rfl, rfl⟩ ?_
      (Surface.validate_eq_ok.1 hvalid)
    have hfits := hd bytes hbytes
    show (Array.replicate d.length 0).size ≤ (bytes.extract 0 d.length).size
    rw [Array.size_replicate, Array.size_extract]
    omega

/-- A surface that is described is read as it was exactly if it is valid, but for the metadata
beside the pixels, and is an invalid value if not. A descriptor, whatever its numbers, is read
exactly if they all are known ones, the pointer leads somewhere, and its geometry and its length are
those of a valid surface. It is an invalid value if not. Described again, it has the same geometry,
numbers, length and pixels. -/
theorem round_trip (s : Surface) (d : ImageDescriptor) (hd : d.Readable) :
    ((describe s).toSurface = .ok { s with metadata := {} } ↔ s.validate = .ok ()) ∧
    (s.validate ≠ .ok () → ∃ reason, (describe s).toSurface = .error (.invalidValue reason)) ∧
    ((∃ t, d.toSurface = .ok t) ↔
      ∃ f c t, d.Codes f c t ∧ d.data ≠ none ∧ (d.outline f c t).validate = .ok ()) ∧
    (∀ e, d.toSurface = .error e → ∃ reason, e = .invalidValue reason) ∧
    ∀ t, d.toSurface = .ok t →
      describe t = { d with
        data := d.data.map fun bytes => bytes.extract 0 d.length
        staticMetadata := none, staticCapacity := 0, staticLength := 0 } := by
  refine ⟨?valid, fun hvalid => ?invalid, ?readable, d.toSurface_onlyInvalid,
    fun t ht => describe_toSurface hd (toSurface_eq_ok.1 ht)⟩
  case valid =>
    rw [toSurface_describe]
    cases s.validate with
    | error e => exact ⟨nofun, nofun⟩
    | ok => exact ⟨fun _ => rfl, fun _ => rfl⟩
  case invalid =>
    rw [toSurface_describe]
    cases he : s.validate with
    | error e =>
      obtain ⟨reason, rfl⟩ := Surface.validate_error he
      exact ⟨reason, rfl⟩
    | ok => exact absurd he hvalid
  case readable =>
    simp only [toSurface_eq_ok]
    exact exists_describes_iff hd

/-- A picture of one pixel with metadata. -/
def hlgPixel : Surface :=
  { Surface.packed 1 1 .nv12 with
    colorSpace := .bt2020HlgLimited, metadataType := .videoHlg, metadata := ⟨#[7], #[]⟩ }

/-- The picture in memory that goes on behind it, with room for metadata. -/
def hlgPixelBuffer : ImageDescriptor :=
  { describe hlgPixel with
    data := some #[1, 2, 3], staticMetadata := some #[0], staticCapacity := 1 }

theorem round_trip_hlgPixel :
    hlgPixelBuffer.Readable ∧ (describe hlgPixel).toSurface = .ok { hlgPixel with metadata := {} } ∧
      ∃ t, hlgPixelBuffer.toSurface = .ok t ∧ describe t = { hlgPixelBuffer with
        data := some #[1, 2], staticMetadata := none, staticCapacity := 0 } := by
  have hd : hlgPixelBuffer.Readable := fun _ h => by cases h; decide
  have ht : hlgPixelBuffer.toSurface = .ok { hlgPixel with metadata := {}, data := #[1, 2] } := rfl
  obtain ⟨hs, -, -, -, hback⟩ := round_trip hlgPixel hlgPixelBuffer hd
  exact ⟨hd, hs.2 rfl, _, ht, hback _ ht⟩

end ImageDescriptor

end ImageDispatch
