import ImageDispatch.Dispatch.Request
import Mathlib.Data.List.Basic

/-!
# Valid surfaces

* `Surface.defect?_eq_none`: what it means for a surface to be valid.
* `Surface.SameLayout.defect?`: only the layout and the amount of data matter.
* `Surface.copyFrom_ok`: valid surfaces of one shape can be copied.
* `Job.validate_eq_ok`, `Job.validate_error`: the check of all surfaces of a job.
-/

namespace ImageDispatch

theorem Except.bind_eq_ok {ε α β : Type} {x : Except ε α} {f : α → Except ε β} {b : β} :
    x >>= f = .ok b ↔ ∃ a, x = .ok a ∧ f a = .ok b := by
  cases x <;> simp [bind, Except.bind]

namespace Surface

variable {s t : Surface}

/-- There are pixels, each row fits in the stride, the rows that are allocated are enough, and so is
the data. -/
theorem defect?_eq_none : s.defect? = none ↔ s.width ≠ 0 ∧ s.height ≠ 0 ∧ ∃ row required,
    s.rowBytes? = some row ∧ row ≤ s.stride.toNat ∧ s.height ≤ s.heightStride ∧
      s.requiredSize? = some required ∧ required ≤ s.data.size := by
  unfold defect?
  by_cases hempty : s.width = 0 ∨ s.height = 0
  · rw [if_pos hempty]
    exact ⟨nofun, fun ⟨hw, hh, _⟩ => absurd hempty (not_or.2 ⟨hw, hh⟩)⟩
  · rw [if_neg hempty]
    obtain ⟨hw, hh⟩ := not_or.1 hempty
    cases s.rowBytes? with
    | none => exact ⟨nofun, fun ⟨_, _, _, _, hrow, _⟩ => nomatch hrow⟩
    | some row =>
      cases s.requiredSize? with
      | none =>
        dsimp only
        split
        · simp
        · split <;> simp
      | some required =>
        dsimp only
        split
        · simp; omega
        · split
          next hlt => simp [UInt32.not_le.2 hlt]
          · split
            · simp; omega
            · simp_all

theorem validate_eq_ok {u : Unit} : s.validate = .ok u ↔ s.defect? = none := by
  unfold validate
  cases s.defect? <;> simp

/-- A surface that is not valid is an invalid value. -/
theorem validate_error {e : Error} (h : s.validate = .error e) :
    ∃ reason, e = .invalidValue reason := by
  unfold validate at h
  cases hd : s.defect? with
  | none => rw [hd] at h; cases h
  | some d => rw [hd] at h; exact ⟨d.message, (Except.error.inj h).symm⟩

/-- Geometry and format agree, strides included. -/
structure SameLayout (s t : Surface) : Prop where
  width : s.width = t.width
  height : s.height = t.height
  stride : s.stride = t.stride
  heightStride : s.heightStride = t.heightStride
  format : s.format = t.format

/-- Only the layout and the amount of data decide whether a surface is valid. More data does no
harm. -/
theorem SameLayout.defect? (h : s.SameLayout t) (hd : t.data.size ≤ s.data.size)
    (ht : t.defect? = none) : s.defect? = none := by
  obtain ⟨hw, hh, row, required, hrow, hfits, hrows, hrequired, hdata⟩ := defect?_eq_none.1 ht
  refine defect?_eq_none.2
    ⟨h.width ▸ hw, h.height ▸ hh, row, required, ?_, h.stride ▸ hfits, ?_, ?_,
    Nat.le_trans hdata hd⟩
  · rw [← hrow, rowBytes?, rowBytes?, h.width, h.format]
  · rw [h.height, h.heightStride]; exact hrows
  · rw [← hrequired, requiredSize?, requiredSize?, h.stride, h.heightStride, h.format]

theorem sameShape_comm (s t : Surface) : s.sameShape t = t.sameShape s := by
  rw [Bool.eq_iff_iff]
  unfold sameShape
  simp only [Bool.and_eq_true, decide_eq_true_eq]
  exact and_congr (and_congr eq_comm eq_comm) eq_comm

/-- Valid surfaces of one shape can be copied, and the color space comes along. -/
theorem copyFrom_ok (h : t.sameShape s = true) (hs : s.defect? = none) (ht : t.defect? = none) :
    ∃ copied, t.copyFrom s = .ok copied ∧ copied.colorSpace = s.colorSpace := by
  obtain ⟨-, -, row, required, hrow, -, -, hrequired, -⟩ := defect?_eq_none.1 ht
  unfold copyFrom rowBytes requiredSize
  rw [h, validate_eq_ok (u := ()).2 hs, validate_eq_ok (u := ()).2 ht, hrow, hrequired]
  exact ⟨_, rfl, rfl⟩

end Surface

namespace Job

theorem forM_validate_cons (s : Surface) (rest : List Surface) :
    (s :: rest).forM Surface.validate = s.validate >>= fun _ => rest.forM Surface.validate := rfl

theorem validate_eq_ok {job : Job} :
    job.validate = .ok () ↔ ∀ s ∈ job.surfaces, s.defect? = none := by
  unfold validate
  induction job.surfaces with
  | nil => exact ⟨fun _ _ hs => absurd hs List.not_mem_nil, fun _ => rfl⟩
  | cons s rest ih =>
    rw [forM_validate_cons, Except.bind_eq_ok, List.forall_mem_cons, ← ih]
    simp [Surface.validate_eq_ok]

/-- A job with a surface that is not valid is an invalid value. -/
theorem validate_error {job : Job} {e : Error} (h : job.validate = .error e) :
    ∃ reason, e = .invalidValue reason := by
  unfold validate at h
  generalize job.surfaces = surfaces at h
  induction surfaces with
  | nil => simp [pure, Except.pure] at h
  | cons s rest ih =>
    rw [forM_validate_cons] at h
    cases hs : s.validate with
    | ok => rw [hs] at h; exact ih h
    | error e' =>
      rw [hs] at h
      obtain rfl := Except.error.inj h
      exact Surface.validate_error hs

end Job

end ImageDispatch
