import ImageDispatch.Proofs.Surface.Planes

/-!
# Copying in place

`Surface.copyFrom` gives the copied surface. Here is the copy as it works on the memory: row after
row, with sizes of 64 bits, and with a look at the ends of each run of bytes before it is read and
written.

* `Surface.InPlace`: runs on a surface that can fail, or panic half-way.
* `Surface.copyInto`: the copy as such a run.
* `Surface.copyInto_run`: it never panics, it does what `Surface.copyFrom` does, and a failure leaves
  the surface as it was.
-/

namespace ImageDispatch

/-- A sum of two sizes, unless it passes 64 bits. -/
def sizeSum? (a b : Nat) : Option Nat := if a + b < UInt64.size then some (a + b) else none

theorem sizeSum?_eq_some {a b : Nat} (h : a + b < UInt64.size) : sizeSum? a b = some (a + b) :=
  if_pos h

/-- Offset of a row of the plane, unless it passes 64 bits on the way. -/
def Plane.row? (p : Plane) (y : Nat) : Option Nat := do sizeSum? p.base (← sizeProduct? y p.stride)

theorem Plane.row?_eq_some {p : Plane} {y : Nat} (h : p.row y < UInt64.size) :
    p.row? y = some (p.row y) := by
  unfold row at h
  have hproduct : sizeProduct? y p.stride = some (y * p.stride) := if_pos (by omega)
  rw [row?, hproduct]
  exact sizeSum?_eq_some h

/-- `Bytes.copyRow`, unless one of the two runs of bytes ends past 64 bits or past its array. -/
def Bytes.copyRow? (src dst : Bytes) (s d n : Nat) : Option Bytes := do
  let sourceEnd ← sizeSum? s n
  let targetEnd ← sizeSum? d n
  if sourceEnd ≤ src.size ∧ targetEnd ≤ dst.size then some (copyRow src dst s d n) else none

theorem Bytes.copyRow?_eq_some {src dst : Bytes} {s d n : Nat} (hs : s + n ≤ src.size)
    (hd : d + n ≤ dst.size) (hs' : s + n < UInt64.size) (hd' : d + n < UInt64.size) :
    src.copyRow? dst s d n = some (src.copyRow dst s d n) := by
  rw [copyRow?, sizeSum?_eq_some hs', sizeSum?_eq_some hd']
  exact if_pos ⟨hs, hd⟩

namespace Surface

/-- A run that works on a surface in place. One that is `none` has stopped with a panic; an error
leaves the surface as it was at that point. -/
abbrev InPlace := ExceptT Error (StateT Surface Option)

/-- The answer with the surface that is left. -/
def InPlace.run {α : Type} (x : InPlace α) (s : Surface) : Option (Except Error α × Surface) :=
  StateT.run (ExceptT.run x) s

/-- Goes on with the value, or panics. -/
def orPanic {α : Type} (x : Option α) : InPlace α := liftM x

/-- Goes on with the value, or leaves with the error. -/
def orLeave {α : Type} (x : Except Error α) : InPlace α := liftExcept x

/-- Copies one run of bytes to the surface. -/
def copyRowInto (src : Bytes) (s d n : Nat) : InPlace Unit := do
  let data ← orPanic (src.copyRow? (← get).data s d n)
  modify ({ · with data })

/-- Copies rows of a plane to the surface, from the top down. -/
def copyPlaneInto (src : Bytes) (source target : Plane) (n : Nat) : Nat → InPlace Unit
  | 0 => pure ()
  | rows + 1 => do
    copyPlaneInto src source target n rows
    copyRowInto src (← orPanic (source.row? rows)) (← orPanic (target.row? rows)) n

/-- Where the chroma plane starts, unless that passes 64 bits. -/
def chromaPlane? (s : Surface) : Option Plane :=
  (sizeProduct? s.heightStride.toNat s.stride.toNat).map (⟨·, s.stride.toNat⟩)

/-- Copies the pixels of `src` to the surface, which starts as `dst`. -/
def copyPixelsInto (src dst : Surface) (rowBytes : Nat) : InPlace Unit :=
  if src.stride = dst.stride ∧ src.heightStride = dst.heightStride then do
    copyRowInto src.data 0 0 (← orLeave dst.requiredSize)
  else do
    let lumaRows := dst.height.toNat
    copyPlaneInto src.data src.lumaPlane dst.lumaPlane rowBytes lumaRows
    if dst.format.isYuv then
      let rows ← orPanic (sizeSum? lumaRows ((lumaRows + 1) / 2))
      let source ← orPanic src.chromaPlane?
      let target ← orPanic dst.chromaPlane?
      copyPlaneInto src.data source target rowBytes (rows - lumaRows)

/-- `Surface.copyFrom` in place. All arithmetic is on sizes of 64 bits, and each run of bytes is
looked at before it is read and written. -/
def copyInto (src : Surface) : InPlace Unit := do
  let dst ← get
  if dst.sameShape src then
    orLeave src.validate
    orLeave dst.validate
    let rowBytes ← orLeave dst.rowBytes
    copyPixelsInto src dst rowBytes
    modify fun s => { s with
      colorSpace := src.colorSpace
      metadataType := src.metadataType
      metadata := src.metadata }
  else
    throw (.invalidValue (s!"cannot copy {src.width}x{src.height} {src.format.name} into " ++
      s!"{dst.width}x{dst.height} {dst.format.name}"))

namespace InPlace

variable {α β : Type} {x : InPlace α} {f : α → InPlace β} {a : α} {e : Error} {s s' : Surface}

theorem run_bind_ok (h : x.run s = some (.ok a, s')) : (x >>= f).run s = (f a).run s' := by
  simp only [run, ExceptT.run, StateT.run, bind, ExceptT.bind, ExceptT.mk, StateT.bind] at h ⊢
  rw [h]
  rfl

theorem run_bind_error (h : x.run s = some (.error e, s')) :
    (x >>= f).run s = some (.error e, s') := by
  simp only [run, ExceptT.run, StateT.run, bind, ExceptT.bind, ExceptT.mk, StateT.bind] at h ⊢
  rw [h]
  rfl

theorem run_get : InPlace.run get s = some (.ok s, s) := rfl

theorem run_orPanic {x : Option α} (h : x = some a) : (orPanic x).run s = some (.ok a, s) := by
  subst h
  rfl

theorem run_orLeave (x : Except Error α) : (orLeave x).run s = some (x, s) := by
  cases x <;> rfl

end InPlace

open InPlace

section

variable {src : Bytes} {dst : Surface} {source target : Plane} {s d n rows size size' : Nat}
variable (hsrc : size ≤ src.size) (hdst : size' ≤ dst.data.size)
variable (hsize : size < UInt64.size) (hsize' : size' < UInt64.size)

include hsrc hdst hsize hsize'

theorem copyRowInto_run (hs : s + n ≤ size) (hd : d + n ≤ size') :
    (copyRowInto src s d n).run dst =
      some (.ok (), { dst with data := src.copyRow dst.data s d n }) := by
  have hrow : src.copyRow? dst.data s d n = some (src.copyRow dst.data s d n) :=
    Bytes.copyRow?_eq_some (by omega) (by omega) (by omega) (by omega)
  rw [copyRowInto, run_bind_ok run_get, run_bind_ok (run_orPanic hrow)]
  rfl

theorem copyPlaneInto_run (hs : source.Fits rows n size) (hd : target.Fits rows n size') :
    (copyPlaneInto src source target n rows).run dst =
      some (.ok (), { dst with data := src.copyPlane dst.data source target n rows }) := by
  induction rows with
  | zero => rfl
  | succ rows ih =>
    have hsrow := hs rows (Nat.lt_succ_self _)
    have hdrow := hd rows (Nat.lt_succ_self _)
    have hdata := Bytes.size_copyPlane (hs.of_succ.mono hsrc) (hd.of_succ.mono hdst)
    rw [copyPlaneInto, run_bind_ok (ih hs.of_succ hd.of_succ),
      run_bind_ok (run_orPanic (Plane.row?_eq_some (by omega))),
      run_bind_ok (run_orPanic (Plane.row?_eq_some (by omega)))]
    exact copyRowInto_run hsrc (hdata.symm ▸ hdst) hsize hsize' hsrow hdrow

end

/-- The product of two numbers of 32 bits takes 64 bits. -/
theorem chromaPlane?_eq_some (s : Surface) : s.chromaPlane? = some s.chromaPlane := by
  have hlt : s.heightStride.toNat * s.stride.toNat < UInt64.size :=
    Nat.mul_lt_mul'' s.heightStride.toNat_lt s.stride.toNat_lt
  rw [chromaPlane?, sizeProduct?, if_pos hlt]
  rfl

/-- Rows with their chroma rows are a number of 34 bits at most. -/
theorem rowCount_lt (f : PixelFormat) (height : UInt32) :
    f.rowCount height.toNat < UInt64.size := by
  have hlt := height.toNat_lt
  have hsize : UInt64.size = 2 ^ 64 := rfl
  unfold PixelFormat.rowCount PixelFormat.chromaRows
  split <;> omega

section

variable {src dst : Surface} {rowBytes size size' : Nat}

theorem Layout.rowBytes_ok (h : dst.Layout rowBytes size) : dst.rowBytes = .ok rowBytes := by
  rw [Surface.rowBytes, h.rowBytes_eq]

theorem Layout.requiredSize_ok (h : dst.Layout rowBytes size) : dst.requiredSize = .ok size := by
  rw [Surface.requiredSize, h.size_eq]

theorem sameShape_iff :
    dst.sameShape src = true ↔
      dst.width = src.width ∧ dst.height = src.height ∧ dst.format = src.format := by
  simp [sameShape, and_assoc]

/-- Surfaces of one shape that both are valid have rows of as many bytes. -/
theorem exists_layouts (hshape : dst.sameShape src = true) (hsrc : src.defect? = none)
    (hdst : dst.defect? = none) :
    ∃ rowBytes size size', src.Layout rowBytes size ∧ dst.Layout rowBytes size' := by
  obtain ⟨rowBytes, size, hs⟩ := exists_layout hsrc
  obtain ⟨rowBytes', size', hd⟩ := exists_layout hdst
  obtain ⟨hwidth, -, hformat⟩ := sameShape_iff.1 hshape
  have hrows : some rowBytes' = some rowBytes := by
    rw [← hd.rowBytes_eq, ← hs.rowBytes_eq, rowBytes?, rowBytes?, hwidth, hformat]
  cases hrows
  exact ⟨rowBytes, size, size', hs, hd⟩

variable (hshape : dst.sameShape src = true)
variable (hs : src.Layout rowBytes size) (hd : dst.Layout rowBytes size')

include hshape hs

/-- The rows of the source are as many as those of the target. -/
theorem Layout.source_fits :
    src.lumaPlane.Fits dst.height.toNat rowBytes size ∧
      src.chromaPlane.Fits (dst.format.chromaRows dst.height.toNat) rowBytes size := by
  obtain ⟨-, hheight, hformat⟩ := sameShape_iff.1 hshape
  rw [hheight, hformat]
  exact ⟨hs.luma_fits, hs.chroma_fits⟩

/-- Images of one geometry take the same number of bytes. -/
theorem Layout.size_congr (hd : dst.Layout rowBytes size') (hstride : src.stride = dst.stride)
    (hrows : src.heightStride = dst.heightStride) : size' = size := by
  obtain ⟨-, -, hformat⟩ := sameShape_iff.1 hshape
  have hsizes : some size' = some size := by
    rw [← hd.size_eq, ← hs.size_eq, requiredSize?, requiredSize?, hstride, hrows, hformat]
  exact Option.some.inj hsizes

include hd

theorem copyPixelsInto_run :
    (copyPixelsInto src dst rowBytes).run dst =
      some (.ok (), { dst with data := copiedData src dst rowBytes size' }) := by
  unfold copyPixelsInto copiedData
  by_cases hsame : src.stride = dst.stride ∧ src.heightStride = dst.heightStride
  · rw [if_pos hsame, if_pos hsame, hd.requiredSize_ok, run_bind_ok (run_orLeave _)]
    have hsize := hs.size_congr hshape hd hsame.1 hsame.2
    exact copyRowInto_run hs.data_fits hd.data_fits hs.size_spec.2 hd.size_spec.2 (by omega)
      (by omega)
  · rw [if_neg hsame, if_neg hsame]
    obtain ⟨hluma, hchroma⟩ := hs.source_fits hshape
    have hlumaRun := copyPlaneInto_run hs.data_fits hd.data_fits hs.size_spec.2 hd.size_spec.2
      hluma hd.luma_fits
    have hdata := Bytes.size_copyPlane (hluma.mono hs.data_fits) (hd.luma_fits.mono hd.data_fits)
    rw [run_bind_ok hlumaRun]
    by_cases hyuv : dst.format.isYuv = true
    · have hrows : dst.format.chromaRows dst.height.toNat = (dst.height.toNat + 1) / 2 :=
        if_pos hyuv
      have hlt : dst.height.toNat + (dst.height.toNat + 1) / 2 < UInt64.size :=
        hrows ▸ rowCount_lt dst.format dst.height
      rw [if_pos hyuv, run_bind_ok (run_orPanic (sizeSum?_eq_some hlt)),
        run_bind_ok (run_orPanic (chromaPlane?_eq_some src)),
        run_bind_ok (run_orPanic (chromaPlane?_eq_some dst)), Nat.add_sub_cancel_left, ← hrows]
      exact copyPlaneInto_run hs.data_fits (hdata.symm ▸ hd.data_fits) hs.size_spec.2
        hd.size_spec.2 hchroma hd.chroma_fits
    · have hrows : dst.format.chromaRows dst.height.toNat = 0 := if_neg hyuv
      rw [if_neg hyuv, hrows]
      rfl

end

section

variable {src dst : Surface}

/-- The copy of a surface. -/
def copied (src dst : Surface) (rowBytes size : Nat) : Surface :=
  { dst with
    colorSpace := src.colorSpace
    metadataType := src.metadataType
    metadata := src.metadata
    data := copiedData src dst rowBytes size }

theorem copyFrom_eq_copied (hshape : dst.sameShape src = true) (hsrc : src.defect? = none)
    (hdst : dst.defect? = none) {rowBytes size : Nat} (hd : dst.Layout rowBytes size) :
    dst.copyFrom src = .ok (copied src dst rowBytes size) := by
  rw [Surface.copyFrom, hshape, validate_eq_ok (u := ()).2 hsrc, validate_eq_ok (u := ()).2 hdst,
    hd.rowBytes_ok, hd.requiredSize_ok]
  rfl

theorem copyFrom_valid {t : Surface} (h : dst.copyFrom src = .ok t) :
    dst.sameShape src = true ∧ src.defect? = none ∧ dst.defect? = none := by
  unfold Surface.copyFrom at h
  by_cases hshape : dst.sameShape src = true
  · rw [hshape] at h
    obtain ⟨_, hsrc, h⟩ := Except.bind_eq_ok.1 h
    obtain ⟨_, hdst, -⟩ := Except.bind_eq_ok.1 h
    exact ⟨hshape, validate_eq_ok.1 hsrc, validate_eq_ok.1 hdst⟩
  · rw [Bool.eq_false_iff.2 hshape] at h
    nomatch h

/-- A copy in place does not panic. It does what the copy does, and leaves everything if there is
none. -/
theorem copyInto_run (src dst : Surface) :
    (copyInto src).run dst = some (match dst.copyFrom src with
      | .ok copied => (.ok (), copied)
      | .error e => (.error e, dst)) := by
  rw [copyInto, run_bind_ok run_get]
  by_cases hshape : dst.sameShape src = true
  · rw [if_pos hshape]
    cases hsrc : src.defect? with
    | some d =>
      have hvalidate : src.validate = .error d.error := by rw [validate, hsrc]
      rw [hvalidate, run_bind_error (run_orLeave _), Surface.copyFrom, hshape, hvalidate]
      rfl
    | none =>
      have hsrcOk : src.validate = .ok () := validate_eq_ok.2 hsrc
      rw [hsrcOk, run_bind_ok (run_orLeave _)]
      cases hdst : dst.defect? with
      | some d =>
        have hvalidate : dst.validate = .error d.error := by rw [validate, hdst]
        rw [hvalidate, run_bind_error (run_orLeave _), Surface.copyFrom, hshape, hsrcOk, hvalidate]
        rfl
      | none =>
        obtain ⟨rowBytes, size, size', hs, hd⟩ := exists_layouts hshape hsrc hdst
        rw [validate_eq_ok (u := ()).2 hdst, run_bind_ok (run_orLeave _), hd.rowBytes_ok,
          run_bind_ok (run_orLeave _), run_bind_ok (copyPixelsInto_run hshape hs hd),
          copyFrom_eq_copied hshape hsrc hdst hd]
        rfl
  · rw [if_neg hshape, Surface.copyFrom, Bool.eq_false_iff.2 hshape]
    rfl

end

end Surface

end ImageDispatch
