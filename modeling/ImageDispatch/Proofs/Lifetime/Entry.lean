import ImageDispatch.Proofs.Instance.Slots
import ImageDispatch.Proofs.Lifetime.Facades

/-!
# Triples of entry points

The instance table keeps façades as clients do. `Tidy.enroll` hands a façade over to it and
`Tidy.retire` takes one back, so that it goes with its last holder. Callers in C do nothing else
to what lives.
-/

namespace ImageDispatch

open Act World

variable {σ α : Type}

/-- A table that takes over the façade that the running call took last. -/
theorem World.OrderlyBut.enroll {w : World σ} (h : w.Orderly) {f : FacadeId} {ps : List Ref}
    (hp : w.pins = .facade f :: ps) {table : InstanceTable FacadeId}
    (hf : f ∈ table.handles) (hold : ∀ x ∈ w.table.handles, x ∈ table.handles) :
    { w with table, pins := ps : World σ }.Orderly := by
  refine h.rehold (.inl rfl) rfl rfl (fun r _ hr => ?_) fun o ho => ?_
  · rw [refersTo_iff, hp] at hr
    rw [refersTo_iff]
    rcases hr with hr | hr | hr
    · exact .inl hr
    · rcases List.mem_cons.1 hr with rfl | hr
      · exact .inr (.inr hf)
      · exact .inr (.inl hr)
    · refine .inr (.inr ?_)
      cases r with
      | object o => exact hr
      | facade f' => exact hold f' hr
      | lease => exact hr
  · apply h.live_of_kept
    rw [refersTo_iff] at ho
    rw [refersTo_iff, hp]
    exact ho.imp_right (Or.imp_left (List.mem_cons_of_mem _))

/-- A running call that takes a façade over from the table. -/
theorem World.OrderlyBut.retire {w : World σ} (h : w.Orderly) {f : FacadeId}
    {table : InstanceTable FacadeId} (hold : ∀ x ∈ w.table.handles, x = f ∨ x ∈ table.handles) :
    { w with table, pins := .facade f :: w.pins : World σ }.Orderly := by
  refine h.rehold (.inl rfl) rfl rfl (fun r _ hr => ?_) fun o ho => ?_
  · rw [refersTo_iff] at hr ⊢
    rcases hr with hr | hr | hr
    · exact .inl hr
    · exact .inr (.inl (List.mem_cons_of_mem _ hr))
    · cases r with
      | object o => exact .inr (.inr hr)
      | facade f' =>
        rcases hold f' hr with rfl | hr
        · exact .inr (.inl (by simp))
        · exact .inr (.inr hr)
      | lease => exact absurd hr id
  · apply h.live_of_kept
    rw [refersTo_iff] at ho ⊢
    exact ho.imp_right (Or.imp_left fun hm => (List.mem_cons.1 hm).resolve_left (by simp))

/-- The announcement of a dispatcher that is there already, or is made from settings. -/
def opening : Option (String → Option String) → List Event
  | none => []
  | some lookup => Host.announcement lookup

theorem isReport_opening {settings : Option (String → Option String)} {e : Event}
    (he : e ∈ opening settings) : e.isReport = true := by
  cases settings with
  | none => cases he
  | some lookup =>
    rcases List.mem_cons.1 he with rfl | he
    · rfl
    · unfold Config.settingReport at he
      split at he
      · cases he
      · split at he
        · cases he
        · rw [List.mem_singleton.1 he]; rfl

theorem begin_opening_plain (host : Host σ) (settings : Option (String → Option String)) :
    host.Plain (Host.begin (opening settings)) :=
  host.begin_plain fun _ => isReport_opening

namespace Host.Tidy

variable {host : Host σ} (ht : host.Tidy)

include ht

theorem enroll (f : FacadeId) (family : String) :
    Triple [.facade f] (host.enroll f family) fun _ => [] := by
  intro w ps hw hp
  unfold Host.enroll
  rw [get_run]
  cases hi : w.table.insert f with
  | error e =>
    exact ((log_triple [.facade f] _ _).bind fun _ => (ht.unpin (.facade f)).bind fun _ =>
      .ret _) hw hp
  | ok x =>
    obtain ⟨id, table⟩ := x
    have he : w.pins.erase (.facade f) = ps := by rw [hp]; simp
    have hmem := InstanceTable.mem_handles_insert hi
    have h : w.Reaches ps { w with table, pins := w.pins.erase (.facade f) : World σ } := by
      rw [he]
      exact ⟨hw.enroll hp ((hmem f).2 (.inl rfl)) fun x hx => (hmem x).2 (.inr hx), rfl,
        .of_eq (fun _ => rfl) fun _ => rfl⟩
    dsimp only
    rw [bind_run]
    exact ((emit_triple [] fun _ => rfl).bind fun _ => (log_triple [] _ _).bind fun _ =>
      .ret _).follow h

theorem retire (id : Int32) (family : String) :
    Triple [] (host.retire id family) fun _ => [] := by
  unfold Host.retire
  refine ((host.lookUp_plain id).triple ht []).bind fun r => ?_
  split
  · exact .ret _
  · split
    · exact (log_triple [] _ _).bind fun _ => .ret _
    · intro w ps hw hp
      rw [get_run]
      cases hr : w.table.remove id with
      | error e => exact ⟨hw, hp, .refl w⟩
      | ok x =>
        obtain ⟨f, table⟩ := x
        have h : w.Reaches (.facade f :: ps)
            { w with table, pins := .facade f :: w.pins : World σ } :=
          ⟨hw.retire (InstanceTable.mem_handles_remove hr).2.2, congrArg _ hp,
            .of_eq (fun _ => rfl) fun _ => rfl⟩
        dsimp only
        rw [bind_run]
        exact ((emit_triple [.facade f] fun _ => rfl).bind fun _ => (log_triple _ _ _).bind fun _ =>
          (ht.unpin (.facade f)).bind fun _ => .ret _).follow h

/-! ## Entry points -/

theorem createOutcome (family : InstanceFamily) (level : Int32) :
    Triple [] (host.createOutcome family level) fun _ => [] := by
  unfold Host.createOutcome
  split
  · exact .ret _
  · rename_i kind p _
    refine (ht.makeFacade kind).bind fun f => ?_
    cases p with
    | none => exact ht.enroll f _
    | some p =>
      have set : Triple [.facade f] (discard (Host.setParameter f p) : Act σ Unit)
          fun _ => [.facade f] := ((setParameter_triple f p).keep [.facade f]).map
      exact set.bind fun _ => ht.enroll f _

theorem createInstance (settings : Option (String → Option String)) (family : InstanceFamily)
    (level : Int32) (pointer : Option Int32) :
    Triple [] (host.createInstance (opening settings) family level pointer) fun _ => [] := by
  unfold Host.createInstance
  cases pointer with
  | none => exact .ret _
  | some _ =>
    refine ((begin_opening_plain host settings).triple ht []).bind fun _ =>
      (ht.createOutcome family level).bind fun r => ?_
    cases r <;> exact ((host.status_plain _).triple ht []).bind fun _ => .ret _

theorem destroyInstance (settings : Option (String → Option String)) (family : InstanceFamily)
    (pointer : Option Int32) :
    Triple [] (host.destroyInstance (opening settings) family pointer) fun _ => [] := by
  unfold Host.destroyInstance
  cases pointer with
  | none => exact .ret _
  | some id =>
    exact ((begin_opening_plain host settings).triple ht []).bind fun _ =>
      (ht.retire id _).bind fun r => ((host.status_plain r).triple ht []).bind fun _ => .ret _

theorem processSurfaces (f : FacadeId) (family : InstanceFamily)
    (input output : Option ImageDescriptor) :
    Triple [] (host.processSurfaces f family input output) fun _ => [] := by
  unfold Host.processSurfaces
  split
  · exact .ret _
  · refine (ht.process f _).bind fun r => ?_
    split
    · split
      · split <;> exact .ret _
      · exact .ret _
    · exact .ret _
    · exact .ret _

theorem processOutcome (family : InstanceFamily) (id : Int32)
    (input output : Option ImageDescriptor) :
    Triple [] (host.processOutcome family id input output) fun _ => [] := by
  unfold Host.processOutcome
  refine ((host.lookUp_plain id).triple ht []).bind fun r => ?_
  split
  · exact .ret _
  · rename_i f kind
    split
    · exact .ret _
    · exact (pin_facade_triple f).bind fun _ =>
        ((ht.processSurfaces f family input output).keep [.facade f]).bind fun _ =>
          (ht.unpin (.facade f)).bind fun _ => .ret _

theorem processImage (settings : Option (String → Option String)) (family : InstanceFamily)
    (id : Int32) (input output : Option ImageDescriptor) :
    Triple [] (host.processImage (opening settings) family id input output) fun _ => [] :=
  ((begin_opening_plain host settings).triple ht []).bind fun _ =>
    (ht.processOutcome family id input output).bind fun _ =>
      ((host.status_plain _).triple ht []).bind fun _ => .ret _

end Host.Tidy

end ImageDispatch
