import ImageDispatch.Proofs.Attempts.Basic
import ImageDispatch.Proofs.Boundary.Outcome
import ImageDispatch.Proofs.Selection.Find
import ImageDispatch.Proofs.Surface.Valid

/-!
# The memory of callers in C

* `ImageDescriptor.Describes`: a descriptor is one of a surface, `ImageDescriptor.toSurface_eq_ok`.
* `ImageDescriptor.Receives`: what the caller has of a surface that is written back, and what stays
  as it was.
* `Host.Delivers`: the caller has what the façade behind an id left.
* `processImage_memory`: a call that fails leaves the memory as it was, and one that succeeds
  delivers.
* `processImage_reread`: what the caller reads back is what the façade left, but for the color
  space.
-/

namespace ImageDispatch

open Act

variable {σ : Type}

/-! ## Bytes -/

/-- `after` has its first `n` bytes from `bytes`, and the others from `before`. -/
def Bytes.Covered (before bytes : Bytes) (n : Nat) (after : Bytes) : Prop :=
  ∀ i : Nat, after[i]? = if i < n then bytes[i]? else before[i]?

theorem Bytes.overwrite_covered (old new : Bytes) (capacity : Nat) :
    Covered old new (min capacity new.size) (ImageDescriptor.overwrite old new capacity) := by
  intro i
  unfold ImageDescriptor.overwrite
  dsimp only
  rw [Array.getElem?_append, Array.size_extract, Array.getElem?_extract, Array.getElem?_extract]
  by_cases hi : i < min capacity new.size
  · rw [if_pos (by omega), if_pos (by omega), if_pos hi, Nat.zero_add]
  · rw [if_neg (by omega), if_neg hi]
    split
    · congr 1
      omega
    · exact (Array.getElem?_eq_none (by omega)).symm

/-- Bytes that are covered as a whole are what they are covered with. -/
theorem Bytes.Covered.extract {before bytes after : Bytes} {n : Nat}
    (h : Covered before bytes n after) (hn : bytes.size = n) : after.extract 0 n = bytes := by
  refine Array.ext_getElem? fun i => ?_
  rw [Array.getElem?_extract]
  by_cases hi : i < n
  · have hbytes : i < bytes.size := hn.symm ▸ hi
    have hat := h i
    rw [if_pos hi, Array.getElem?_eq_getElem hbytes] at hat
    have hsize : i < after.size := (Array.getElem?_eq_some_iff.1 hat).1
    rw [if_pos (by omega), Nat.zero_add, h i, if_pos hi]
  · rw [if_neg (by omega), Array.getElem?_eq_none (by omega)]

/-! ## Descriptors -/

namespace ImageDescriptor

/-- The descriptor is one of the surface, which is valid. -/
structure Describes (d : ImageDescriptor) (s : Surface) : Prop where
  width : s.width = d.width
  height : s.height = d.height
  stride : s.stride = d.stride
  heightStride : s.heightStride = d.heightStride
  format : PixelFormat.ofRaw? d.format.toInt = some s.format
  primaries : ColorPrimaries.ofRaw? d.primaries.toInt = some s.colorSpace.primaries
  transfer : TransferFunction.ofRaw? d.transfer.toInt = some s.colorSpace.transfer
  matrix : MatrixCoefficients.ofRaw? d.matrix.toInt = some s.colorSpace.matrix
  range : ColorRange.ofRaw? d.range.toInt = some s.colorSpace.range
  metadataType : HdrMetadataType.ofRaw? d.metadataType.toInt = some s.metadataType
  /-- Metadata beside the pixels is not read. -/
  metadata : s.metadata = {}
  data : ∃ bytes, d.data = some bytes ∧ s.data = bytes.extract 0 d.length
  valid : s.defect? = none

theorem field_eq_ok {α : Type} {what : String} {raw : Int32} {ofRaw? : Int → Option α} {a : α} :
    field what raw ofRaw? = .ok a ↔ ofRaw? raw.toInt = some a := by
  unfold field
  cases ofRaw? raw.toInt <;> simp

theorem toSurface_eq_ok {d : ImageDescriptor} {s : Surface} :
    d.toSurface = .ok s ↔ d.Describes s := by
  unfold toSurface
  simp only [Except.bind_eq_ok, field_eq_ok]
  constructor
  · rintro ⟨format, hf, primaries, hp, transfer, ht, matrix, hm, range, hr, type, hy, h⟩
    split at h
    next bytes hdata =>
      obtain ⟨_, hvalid, h⟩ := Except.bind_eq_ok.1 h
      cases h
      exact ⟨rfl, rfl, rfl, rfl, hf, hp, ht, hm, hr, hy, rfl, ⟨bytes, hdata, rfl⟩,
        Surface.validate_eq_ok.1 hvalid⟩
    next => cases h
  · intro h
    obtain ⟨bytes, hdata, hextract⟩ := h.data
    refine ⟨_, h.format, _, h.primaries, _, h.transfer, _, h.matrix, _, h.range, _,
      h.metadataType, ?_⟩
    have hs : s = { s with
        width := d.width, height := d.height, stride := d.stride, heightStride := d.heightStride
        metadata := {}, data := bytes.extract 0 d.length } := by
      rw [← h.width, ← h.height, ← h.stride, ← h.heightStride, ← h.metadata, ← hextract]
    rw [hdata]
    refine Except.bind_eq_ok.2 ⟨(), Surface.validate_eq_ok.2 (Eq.trans ?_ h.valid), ?_⟩
    · exact congrArg Surface.defect? hs.symm
    · exact congrArg Except.ok hs.symm

/-- Of a surface that is written back the caller has the pixels, the metadata layout, and as much of
the static metadata as there is room for. Everything else is as before. -/
structure Receives (d : ImageDescriptor) (s : Surface) (d' : ImageDescriptor) : Prop where
  size : s.data.size = d.length
  pixels : ∃ old new, d.data = some old ∧ d'.data = some new ∧
    Bytes.Covered old s.data d.length new
  metadataType : d'.metadataType = .ofNat s.metadataType.raw
  /-- Without a place for static metadata, none is written. -/
  nowhere : d.staticMetadata = none →
    d'.staticMetadata = none ∧ d'.staticLength = d.staticLength
  somewhere : ∀ old, d.staticMetadata = some old →
    d'.staticLength = min d.staticCapacity s.metadata.fixed.size ∧
      ∃ new, d'.staticMetadata = some new ∧
        Bytes.Covered old s.metadata.fixed d'.staticLength new
  rest : { d' with
    metadataType := d.metadataType, data := d.data
    staticMetadata := d.staticMetadata, staticLength := d.staticLength } = d

theorem writeBack_receives {d d' : ImageDescriptor} {s : Surface} {old : Bytes}
    (hold : d.data = some old) (h : d.writeBack s = .ok d') : d.Receives s d' := by
  unfold writeBack at h
  split at h
  · cases h
  next hsize =>
    rw [not_not] at hsize
    have hpixels := Bytes.overwrite_covered old s.data d.length
    rw [hsize, Nat.min_self] at hpixels
    dsimp only at h
    rw [hold] at h
    split at h
    next hnone =>
      cases h
      exact ⟨hsize, ⟨old, _, hold, rfl, hpixels⟩, rfl, fun _ => ⟨hnone, rfl⟩,
        fun _ ho => absurd (hnone.symm.trans ho) nofun, rfl⟩
    next blob hblob =>
      cases h
      refine ⟨hsize, ⟨old, _, hold, rfl, hpixels⟩, rfl,
        fun hn => absurd (hblob.symm.trans hn) nofun, fun o ho => ⟨rfl, _, rfl, ?_⟩, rfl⟩
      cases hblob.symm.trans ho
      exact Bytes.overwrite_covered blob s.metadata.fixed d.staticCapacity

/-- What the caller reads back has its pixels and its metadata layout from the surface that it has
received, and everything else from the one that it described before. -/
theorem Receives.describes {d d' : ImageDescriptor} {s target : Surface} (h : d.Receives s d')
    (ht : d.Describes target) :
    d'.Describes { target with metadataType := s.metadataType, data := s.data } := by
  obtain ⟨before, after, hbefore, hafter, hcovered⟩ := h.pixels
  obtain ⟨bytes, hbytes, hextract⟩ := ht.data
  have hr := h.rest
  refine {
    width := ht.width.trans (by rw [← hr])
    height := ht.height.trans (by rw [← hr])
    stride := ht.stride.trans (by rw [← hr])
    heightStride := ht.heightStride.trans (by rw [← hr])
    format := Eq.trans (by rw [← hr]) ht.format
    primaries := Eq.trans (by rw [← hr]) ht.primaries
    transfer := Eq.trans (by rw [← hr]) ht.transfer
    matrix := Eq.trans (by rw [← hr]) ht.matrix
    range := Eq.trans (by rw [← hr]) ht.range
    metadataType := ?_
    metadata := ht.metadata
    data := ⟨after, hafter, ?_⟩
    valid := ?_ }
  · rw [h.metadataType]
    cases s.metadataType <;> rfl
  · rw [show d'.length = d.length by rw [← hr]]
    exact (hcovered.extract h.size).symm
  · refine Surface.SameLayout.defect? (t := target) ⟨rfl, rfl, rfl, rfl, rfl⟩ ?_ ht.valid
    show target.data.size ≤ s.data.size
    rw [hextract, Array.size_extract, h.size]
    omega

end ImageDescriptor

/-! ## Calls -/

namespace Host

/-- The output of a call is behind a pointer, and is a valid surface. -/
theorem readSurfaces_output {family : InstanceFamily} {input output : Option ImageDescriptor}
    {source target : Surface} (h : readSurfaces family input output = .ok (source, target)) :
    ∃ d, output = some d ∧ d.Describes target := by
  have read : ∀ {what : String}, readSurface what output = .ok target →
      ∃ d, output = some d ∧ d.Describes target := fun hr => by
    cases output with
    | none => cases hr
    | some d => exact ⟨d, rfl, ImageDescriptor.toSurface_eq_ok.1 hr⟩
  unfold readSurfaces at h
  split at h
  · obtain ⟨_, -, h⟩ := Except.bind_eq_ok.1 h
    obtain ⟨s, hs, h⟩ := Except.bind_eq_ok.1 h
    cases h
    exact read hs
  · obtain ⟨s, hs, h⟩ := Except.bind_eq_ok.1 h
    cases h
    exact read hs

theorem exists_written (job : Job) : ∃ s, written job = some s := by
  cases job <;> exact ⟨_, rfl⟩

/-- The caller with an output `d` has `d'` from the surface `s`, which the façade behind the id has
left when it was called in `w`. -/
structure Delivers (host : Host σ) (family : InstanceFamily) (id : Int32)
    (input : Option ImageDescriptor) (d : ImageDescriptor) (w : World σ) (s : Surface)
    (d' : ImageDescriptor) : Prop where
  worked : ∃ f kind source target job, w.behind? id = some (f, kind) ∧ family.has kind = true ∧
    readSurfaces family input (some d) = .ok (source, target) ∧
    (host.process f (family.task source target) (pin (.facade f) w).2).1 = .worked (.ok ()) job ∧
    written job = some s
  received : d.Receives s d'

/-- What a call leaves of the output of its caller. The world `w` is the one in which the id is
looked up. -/
structure Leaves (host : Host σ) (family : InstanceFamily) (id : Int32)
    (input output : Option ImageDescriptor) (w : World σ) (status : Status)
    (output' : Option ImageDescriptor) : Prop where
  failed : status ≠ .ok → output' = output
  succeeded : status = .ok → ∃ d s d', output = some d ∧ output' = some d' ∧
    host.Delivers family id input d w s d'

theorem status_ne_ok (e : Error) : e.status ≠ .ok := by cases e <;> nofun

/-- The façade fails, and the output stays as it is, or the caller receives what it left. -/
theorem processSurfaces_outcome (host : Host σ) (f : FacadeId) (family : InstanceFamily)
    (input output : Option ImageDescriptor) (w : World σ) :
    (∃ e, (host.processSurfaces f family input output w).1 = (.error e, output)) ∨
      ∃ d s d' source target job,
        (host.processSurfaces f family input output w).1 = (.ok (), some d') ∧
        output = some d ∧ readSurfaces family input output = .ok (source, target) ∧
        (host.process f (family.task source target) w).1 = .worked (.ok ()) job ∧
        written job = some s ∧ d.Receives s d' := by
  unfold processSurfaces
  cases hread : readSurfaces family input output with
  | error e => exact .inl ⟨e, rfl⟩
  | ok surfaces =>
    obtain ⟨source, target⟩ := surfaces
    obtain ⟨d, rfl, hd⟩ := readSurfaces_output hread
    dsimp only
    rw [bind_run]
    cases hreply : (host.process f (family.task source target) w).1 with
    | worked r job =>
      cases r with
      | error e => exact .inl ⟨e, rfl⟩
      | ok =>
        obtain ⟨s, hs⟩ := exists_written job
        dsimp only
        rw [hs]
        dsimp only
        cases hback : d.writeBack s with
        | error e => exact .inl ⟨e, rfl⟩
        | ok d' =>
          obtain ⟨bytes, hbytes, -⟩ := hd.data
          exact .inr ⟨d, s, d', source, target, job, rfl, rfl, rfl, hreply, hs,
            ImageDescriptor.writeBack_receives hbytes hback⟩
    | _ => exact .inl ⟨gone, rfl⟩

theorem processOutcome_leaves (host : Host σ) (family : InstanceFamily) (id : Int32)
    (input output : Option ImageDescriptor) (w : World σ) :
    host.Leaves family id input output w
      (Status.ofOutcome (host.processOutcome family id input output w).1.1)
      (host.processOutcome family id input output w).1.2 := by
  have fails : ∀ {r : Except Error Unit × Option ImageDescriptor} {e : Error},
      r = (.error e, output) →
        host.Leaves family id input output w (Status.ofOutcome r.1) r.2 := fun hr => by
    subst hr
    exact ⟨fun _ => rfl, fun hs => absurd hs (status_ne_ok _)⟩
  unfold processOutcome
  rw [bind_run, lookUp_run]
  cases hbehind : w.behind? id with
  | none => exact fails rfl
  | some x =>
    obtain ⟨f, kind⟩ := x
    dsimp only [Option.elim_some]
    split
    · exact fails rfl
    next hk =>
      rw [not_not] at hk
      obtain ⟨e, he⟩ | ⟨d, s, d', source, target, job, hr, rfl, hread, hreply, hs, hd⟩ :=
        host.processSurfaces_outcome f family input output (pin (.facade f) w).2
      · exact fails he
      · rw [bind_run, bind_run]
        show host.Leaves _ _ _ _ _ (Status.ofOutcome (host.processSurfaces f family input (some d)
          (pin (.facade f) w).2).1.1) (host.processSurfaces f family input (some d)
          (pin (.facade f) w).2).1.2
        rw [hr]
        exact ⟨fun hn => absurd rfl hn, fun _ => ⟨d, s, d', rfl, rfl,
          ⟨f, kind, source, target, job, hbehind, (family.has_eq_true kind).2 hk, hread, hreply,
            hs⟩, hd⟩⟩

/-- A call ends with the outcome of its work, told by a status code. -/
theorem processImage_run (host : Host σ) (announcement : List Event) (family : InstanceFamily)
    (id : Int32) (input output : Option ImageDescriptor) (w : World σ) :
    (host.processImage announcement family id input output w).1 =
      (Status.ofOutcome
          (host.processOutcome family id input output (begin announcement w).2).1.1,
        (host.processOutcome family id input output (begin announcement w).2).1.2) := by
  unfold processImage
  rw [bind_run, bind_run]
  exact congrArg (·, _) (status_told _ _).1

/-- A surface that an image detail enhancer was given to work on, with one of the same shape, is a
copy of that one afterwards. -/
theorem process_copy {host : Host σ} {f : FacadeId} {facade : Facade} {w : World σ}
    {source target : Surface} {job : Job} (hf : w.facade? f = some facade)
    (hk : facade.kind = .detail) (hc : source.sameShape target = true)
    (h : (host.process f (.detail source target) w).1 = .worked (.ok ()) job) :
    ∃ copied, target.copyFrom source = .ok copied ∧ copied.colorSpace = source.colorSpace ∧
      job = .transform source copied := by
  have hd : facade.kind.does (.detail source target) = true := by rw [hk]; rfl
  have hshape : target.sameShape source = true := (target.sameShape_comm source).trans hc
  cases hv : (Task.detail source target).job.validate with
  | error e =>
    rw [process_invalid hf hd hv] at h
    cases h
  | ok =>
    have hvalid := Job.validate_eq_ok.1 hv
    obtain ⟨copied, hcopy, hspace⟩ := Surface.copyFrom_ok hshape
      (hvalid source (by simp [Task.job, Job.surfaces]))
      (hvalid target (by simp [Task.job, Job.surfaces]))
    obtain ⟨-, -, -, hdispatch⟩ := dispatch_copy hc
    rw [process_valid hf hd hv, hk, hdispatch copied hcopy] at h
    cases h
    exact ⟨copied, hcopy, hspace, rfl⟩

end Host

/-- A call that fails leaves the memory of its caller as it was, whatever the numbers and pointers
in the descriptors are and whatever the code of others does. One that succeeds leaves there the
pixels, the metadata layout and the static metadata of the surface that the façade behind the id has
left, and changes nothing else. -/
theorem processImage_memory (host : Host σ) (announcement : List Event) (family : InstanceFamily)
    (id : Int32) (input output : Option ImageDescriptor) (w : World σ) :
    let r := (host.processImage announcement family id input output w).1
    host.Leaves family id input output (Host.begin announcement w).2 r.1 r.2 := by
  intro r
  have h := host.processOutcome_leaves family id input output (Host.begin announcement w).2
  rw [show r = _ from host.processImage_run announcement family id input output w]
  exact h

/-- What the caller reads back after a call that has succeeded is the surface that the façade has
left, if that one still has the layout of the output, but for the color space. That one is still
as the caller has described it, also where the façade has copied a surface of one shape together
with its color space. -/
theorem processImage_reread (host : Host σ) (announcement : List Event) (family : InstanceFamily)
    (id : Int32) (input output : Option ImageDescriptor) (w : World σ) {f : FacadeId}
    {kind : FacadeKind} {source target s : Surface} {job : Job}
    (hok : (host.processImage announcement family id input output w).1.1 = .ok)
    (hid : (Host.begin announcement w).2.behind? id = some (f, kind))
    (hread : Host.readSurfaces family input output = .ok (source, target))
    (hwork : (host.process f (family.task source target)
      (pin (.facade f) (Host.begin announcement w).2).2).1 = .worked (.ok ()) job)
    (hs : Host.written job = some s) (hlayout : s.SameLayout target) :
    (∃ d', (host.processImage announcement family id input output w).1.2 = some d' ∧
      d'.toSurface = .ok { s with colorSpace := target.colorSpace, metadata := {} }) ∧
    (kind = .detail → source.sameShape target = true →
      target.copyFrom source = .ok s ∧ s.colorSpace = source.colorSpace) := by
  have hrun := host.processImage_run announcement family id input output w
  have hleaves := host.processOutcome_leaves family id input output (Host.begin announcement w).2
  rw [hrun] at hok
  obtain ⟨d, s', d', rfl, hd', hdelivers⟩ := hleaves.succeeded hok
  -- What was delivered is what the façade has left.
  obtain ⟨f', kind', source', target', job', hid', hhas, hread', hwork', hs'⟩ := hdelivers.worked
  cases hid.symm.trans hid'
  cases hread.symm.trans hread'
  cases hwork.symm.trans hwork'
  cases hs.symm.trans hs'
  obtain ⟨_, hd, hdescribes⟩ := Host.readSurfaces_output hread
  cases hd
  refine ⟨⟨d', by rw [hrun, hd'], ?_⟩, ?_⟩
  · rw [ImageDescriptor.toSurface_eq_ok.2 (hdelivers.received.describes hdescribes),
      hlayout.width, hlayout.height, hlayout.stride, hlayout.heightStride, hlayout.format,
      ← hdescribes.metadata]
  · rintro rfl hc
    have hfamily : family = .detail := by
      cases family <;> first | rfl | cases hhas
    subst hfamily
    obtain ⟨-, facade, hf, hk⟩ := World.behind?_eq_some.1 hid
    have hpinned : (pin (.facade f) (Host.begin announcement w).2).2.facade? f = some facade := hf
    obtain ⟨copied, hcopy, hspace, rfl⟩ := Host.process_copy hpinned hk hc hwork
    cases hs
    exact ⟨hcopy, hspace⟩

/-- The pixels of a copied surface are read back, in the color space of the output. -/
theorem processImage_reread_copied :
    let host := Host.nested (.linked []) 1
    let w := (host.createInstance [] .detail 2 (some (-7)) { memory := () }).2
    let source : Surface := { Surface.packed 1 1 .rgba8888 with
      colorSpace := .displayP3, data := #[1, 2, 3, 4] }
    let target := Surface.packed 1 1 .rgba8888
    let output := (host.processImage [] .detail 0 (some (.describe source))
      (some (.describe target)) w).1
    output.1 = .ok ∧
      (∃ d', output.2 = some d' ∧ d'.toSurface = .ok { source with colorSpace := .srgb }) ∧
      target.copyFrom source = .ok source := by
  intro host w source target output
  have hok : output.1 = .ok := by decide +kernel
  have hid : (Host.begin [] w).2.behind? 0 = some (0, .detail) := by decide +kernel
  have hread : Host.readSurfaces .detail (some (.describe source)) (some (.describe target)) =
    .ok (source, target) := by rfl
  have hwork : (host.process 0 (.detail source target)
    (pin (.facade 0) (Host.begin [] w).2).2).1 = .worked (.ok ()) (.transform source source) := rfl
  obtain ⟨hreread, hcopy⟩ := processImage_reread host [] .detail 0 (some (.describe source))
    (some (.describe target)) w hok hid hread hwork rfl ⟨rfl, rfl, rfl, rfl, rfl⟩
  exact ⟨hok, hreread, (hcopy rfl rfl).1⟩

/-- A surface in another color space than the output is copied. The façade leaves the color space of
the input in the output, and the caller does not see it. -/
theorem processImage_reread_other :
    let host := Host.nested (.linked []) 1
    let w := (host.createInstance [] .detail 2 (some (-7)) { memory := () }).2
    let source : Surface := { Surface.packed 1 1 .rgba8888 with
      colorSpace := .displayP3, data := #[1, 2, 3, 4] }
    let target := Surface.packed 1 1 .rgba8888
    let output := (host.processImage [] .detail 0 (some (.describe source))
      (some (.describe target)) w).1
    (host.process 0 (.detail source target) (pin (.facade 0) w).2).1 =
        .worked (.ok ()) (.transform source source) ∧
      source.SameLayout target ∧ source.data.size = target.data.size ∧
      output.1 = .ok ∧ ∃ d' s', output.2 = some d' ∧ d'.toSurface = .ok s' ∧
        s'.colorSpace = target.colorSpace ∧ s'.colorSpace ≠ source.colorSpace := by
  intro host w source target output
  refine ⟨rfl, ⟨rfl, rfl, rfl, rfl, rfl⟩, rfl, by decide +kernel,
    .describe { source with colorSpace := .srgb }, { source with colorSpace := .srgb },
    by decide +kernel, by rfl, rfl, by decide⟩

end ImageDispatch
