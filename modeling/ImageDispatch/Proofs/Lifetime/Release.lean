import ImageDispatch.Proofs.Lifetime.Plain

/-!
# Triples of holding and letting go

* `Settles r a`: `a` settles the thing `r` if it has lost its last holder, and leaves the holds of
  running calls as they are.
* `Tidy.settleObject`: an object that nothing keeps any more is released. It stops to live before
  its release begins, so nothing that comes up meanwhile can reach it.
* `Tidy.settleFacade`: a façade hands its objects to the running call, which lets go of one after
  the other.
-/

namespace ImageDispatch

open Act World

variable {σ α β : Type}

/-- The action settles the thing, if it has lost its last holder (module doc). -/
def Settles (r : Ref) (a : Act σ α) : Prop :=
  ∀ ⦃w : World σ⦄, w.OrderlyBut (some r) → w.Reaches w.pins (a w).2

theorem Settles.of_triple {r : Ref} {a : Act σ α} (hr : r = .lease)
    (h : Triple [] a fun _ => []) : Settles r a :=
  fun _ hw => h (hw.settled (by simp [hr]) (by simp [hr])) rfl

theorem Settles.bind {r : Ref} {a : Act σ α} {f : α → Act σ β} (h : Settles r a)
    (hf : ∀ x, Triple [] (f x) fun _ => []) : Settles r (a >>= f) :=
  fun _ hw => reaches_bind [] (fun _ => []) (h hw) hf

/-- A thing may be settled a little later. -/
theorem Settles.after {r : Ref} {a : Act σ α} {f : α → Act σ β}
    (ha : ∀ w : World σ, w.Unmoved (a w).2) (h : ∀ x, Settles r (f x)) :
    Settles r (a >>= f) := by
  intro w hw
  obtain ⟨h₁, h₂, h₃⟩ := h (a w).1 ((ha w).orderlyBut hw)
  exact ⟨h₁, h₂.trans (ha w).pins, (ha w).evolves.trans h₃⟩

/-- A client that lets go of a thing has it settled. -/
theorem Settles.unhold {r : Ref} {a : Act σ α} (h : Settles r a) :
    Triple [] (do modify fun w : World σ => { w with held := w.held.erase r }; a)
      fun _ => [] := by
  intro w ps hw hp
  obtain ⟨h₁, h₂, h₃⟩ := h (hw.unhold r)
  exact ⟨h₁, h₂.trans hp, (Evolves.of_eq (fun _ => rfl) fun _ => rfl).trans h₃⟩

/-- To let go of the thing that was taken last is to forget it, and to settle it. -/
theorem Settles.unpin {r : Ref} {a : Act σ α} (h : Settles r a) :
    Triple [r] (do modify fun w : World σ => { w with pins := w.pins.erase r }; a)
      fun _ => [] := by
  intro w ps hw hp
  have he : w.pins.erase r = ps := by rw [hp]; simp
  have hw' : { w with pins := w.pins.erase r : World σ }.OrderlyBut (some r) := by
    rw [he]; exact hw.unpin hp
  obtain ⟨h₁, h₂, h₃⟩ := h hw'
  exact ⟨h₁, h₂.trans he, (Evolves.of_eq (fun _ => rfl) fun _ => rfl).trans h₃⟩

namespace Host.Tidy

variable {host : Host σ} (ht : host.Tidy)

include ht

/-! ## The vendor library and the bootstrap service -/

theorem openSource : Triple [] host.openSource fun _ => [] := by
  unfold Host.openSource
  cases host.env.source with
  | none => exact .ret _
  | provider p =>
    exact (ht.runForeign [] p.openUp).bind fun r => (emit_triple [] fun _ => rfl).bind fun _ =>
      .ret r
  | library path =>
    refine .read fun w => ?_
    split
    · exact (emit_triple [] fun _ => rfl).bind fun _ => .ret _
    · cases host.env.loader path w.memory with
      | error reason => exact (emit_triple [] fun _ => rfl).bind fun _ => .ret _
      | ok library =>
        refine (log_triple [] _ _).bind fun _ => ?_
        refine .bind (.of_unmoved fun _ => ⟨rfl, rfl, rfl, rfl, rfl, fun _ => rfl⟩) fun _ => ?_
        exact (emit_triple [] fun _ => rfl).bind fun _ => .ret _

theorem closeSource : Triple [] host.closeSource fun _ => [] := by
  unfold Host.closeSource
  cases host.env.source with
  | none => exact .ret _
  | provider p =>
    exact (emit_triple [] fun _ => rfl).bind fun _ => ht.runForeign [] p.close
  | library path =>
    refine (emit_triple [] fun _ => rfl).bind fun _ => .read fun w => ?_
    split
    · refine .bind (.of_unmoved fun _ => ⟨rfl, rfl, rfl, rfl, rfl, fun _ => rfl⟩) fun _ => ?_
      exact log_triple [] _ _
    · exact .ret _

omit ht in
theorem exclusively {change : Act σ Unit} (h : Triple [] change fun _ => []) :
    Triple [] (Host.exclusively change) fun _ => [] := by
  unfold Host.exclusively
  refine .read fun w => ?_
  split
  · exact emit_triple [] fun _ => rfl
  · refine .bind (.of_unmoved fun _ => ⟨rfl, rfl, rfl, rfl, rfl, fun _ => rfl⟩) fun _ => ?_
    exact h.bind fun _ => .of_unmoved fun _ => ⟨rfl, rfl, rfl, rfl, rfl, fun _ => rfl⟩

theorem increase : Triple [] host.increase fun _ => [] := by
  have count : Triple [] (do
      modify fun w : World σ => { w with instances := w.instances + 1 }
      emit (.gauge .vendorInstances (← get).instances)) fun _ => [] :=
    .bind (.of_unmoved fun _ => ⟨rfl, rfl, rfl, rfl, rfl, fun _ => rfl⟩) fun _ =>
      .read fun w => emit_triple [] fun _ => rfl
  refine exclusively (.read fun w => ?_)
  split
  · refine ht.openSource.bind fun r => ?_
    cases r with
    | ok => exact count
    | error e => exact (log_triple [] _ _).bind fun _ => count
  · exact count

theorem decrease : Triple [] host.decrease fun _ => [] := by
  refine exclusively (.read fun w => ?_)
  split
  · exact log_triple [] _ _
  · refine .bind (.of_unmoved fun _ => ⟨rfl, rfl, rfl, rfl, rfl, fun _ => rfl⟩) fun _ => ?_
    refine .read fun w => ?_
    split
    · exact ht.closeSource.bind fun _ => .read fun w => emit_triple [] fun _ => rfl
    · exact .read fun w => emit_triple [] fun _ => rfl

theorem giveBack : Triple [] host.giveBack fun _ => [] :=
  (emit_triple [] fun _ => rfl).bind fun _ => ht.decrease

theorem announce : Triple [] host.announce fun _ => [] :=
  (host.connect_plain.triple ht []).bind fun _ => .read fun _ => emit_triple [] fun _ => rfl

theorem takeLeave (f : FacadeId) : Triple [] (host.takeLeave f) fun _ => [] :=
  (emit_triple [] fun _ => rfl).bind fun _ => host.disconnect_plain.triple ht []

/-! ## Objects and façades -/

/-- The release of an object that lived before in `v`, and has stopped to. -/
theorem deinit {v w : World σ} {o : ObjectId} (hw : w.Orderly)
    (hs : w.stage? o = some .finished) (hv : v.stage? o = some .live)
    (hc : ∀ o', w.calls o' = v.calls o') (hvs : ∀ o', o' ≠ o → w.stage? o' = v.stage? o')
    (succeeded : α → Bool) (code : σ → Foreign σ α) :
    v.Reaches w.pins (host.invoke o .deinit succeeded code w).2 := by
  have hw₁ : (w.note (.began o .deinit)).Orderly := hw.same rfl rfl rfl rfl rfl
  obtain ⟨hw₂, hp₂, he⟩ := ht.runForeign [] code hw₁ rfl
  refine ⟨hw₂.same rfl rfl rfl rfl rfl, hp₂,
    he.around hc hvs (fun _ => rfl) (fun _ _ => rfl) fun t hpass => ?_⟩
  rw [hs] at hpass
  rw [hv]
  -- Nothing else can happen to an object that is over.
  generalize hs₂ : World.stage? _ o = s₂ at hpass
  cases hpass
  exact hs₂.symm ▸ Passage.released .nil _

/-- An object that has lost its last holder is released. -/
theorem settleObject (o : ObjectId) : Settles (.object o) (host.settleObject o) := by
  intro w hw
  have kept (hk : w.stage? o = some .live → w.refersTo (.object o) = true) :
      w.Reaches w.pins w :=
    ⟨hw.settled (by rintro _ ⟨⟩; exact hk) (by simp), rfl, .refl w⟩
  unfold Host.settleObject
  rw [get_run]
  cases ho : w.objects[o]? with
  | none => exact kept (by simp [stage?, ho])
  | some object =>
    have hs : w.stage? o = some object.stage := by simp [stage?, ho]
    by_cases hl : object.stage = .live ∧ w.refersTo (.object o) = false
    · simp only [hl, and_self, ↓reduceIte]
      obtain ⟨hlive, hr⟩ := hl
      have hs₁ := stage?_modify w o
      have h := ht.deinit (v := w) (hw.finish hr) (by rw [hs₁, if_pos rfl, hs]; rfl)
        (by rw [hs, hlive]) (fun _ => rfl) (fun o' hne => by rw [hs₁, if_neg hne]) Except.isOk
        (host.env.code.deinit object.token)
      rw [bind_run]
      refine reaches_bind [] (fun _ => []) h fun r => ?_
      cases r <;> exact log_triple [] _ _
    · simp only [hl, ↓reduceIte]
      exact kept fun hlive => by
        rw [hs] at hlive
        by_contra hr
        exact hl ⟨Option.some.inj hlive, by simpa using hr⟩

/-- A running call lets go of the object that it took last. -/
theorem unpinObject (o : ObjectId) : Triple [.object o] (host.unpinObject o) fun _ => [] :=
  (ht.settleObject o).unpin

/-- A running call lets go of objects, the last one it took first. -/
theorem unpinObjects :
    (os : List ObjectId) → Triple (os.map Ref.object) (os.forM host.unpinObject) fun _ => []
  | [] => .ret ()
  | o :: os => ((ht.unpinObject o).frame (os.map Ref.object)).bind fun _ => unpinObjects os

/-- A façade that has lost its last holder is taken apart. -/
theorem settleFacade (f : FacadeId) : Settles (.facade f) (host.settleFacade f) := by
  intro w hw
  have kept (hk : w.facade? f ≠ none → w.refersTo (.facade f) = true) : w.Reaches w.pins w :=
    ⟨hw.settled (by simp) (by rintro _ ⟨⟩; exact hk), rfl, .refl w⟩
  unfold Host.settleFacade
  rw [get_run]
  cases hf : w.facade? f with
  | none => exact kept fun h => absurd hf h
  | some facade =>
    by_cases hr : w.refersTo (.facade f) = false
    · simp only [hr, ↓reduceIte]
      rw [bind_run]
      have h₁ : w.Reaches (facade.objects.map Ref.object ++ w.pins) { w with
          facades := w.facades.modify f fun _ => none
          pins := facade.objects.map Ref.object ++ w.pins : World σ } :=
        ⟨hw.dismantle hf, rfl, .of_eq (fun _ => rfl) fun _ => rfl⟩
      have rest : Triple (facade.objects.map Ref.object) (do
          facade.objects.forM host.unpinObject
          if facade.kind.usesService then host.takeLeave f
          emit (.dissolved f)
          host.decrease) fun _ => [] := by
        have dissolve : Triple [] (do emit (.dissolved f); host.decrease) fun _ => [] :=
          (emit_triple [] fun _ => rfl).bind fun _ => ht.decrease
        refine (ht.unpinObjects _).bind fun _ => ?_
        split
        · exact (ht.takeLeave f).bind fun _ => dissolve
        · exact dissolve
      exact h₁.trans (rest h₁.orderly rfl)
    · simp only [hr]
      exact kept fun _ => by simpa using hr

/-- Whatever has lost its last holder goes. -/
theorem settle : (r : Ref) → Settles r (host.settle r)
  | .object o => ht.settleObject o
  | .facade f => ht.settleFacade f
  | .lease => .of_triple rfl ht.giveBack

theorem unpin (r : Ref) : Triple [r] (host.unpin r) fun _ => [] := (ht.settle r).unpin

/-! ## Holders outside -/

theorem drop (r : Ref) : Triple [] (host.drop r) fun _ => [] := by
  unfold Host.drop
  refine .read fun w => ?_
  split
  · exact ((ht.settle r).bind fun _ => .ret _).unhold
  · exact .ret _

theorem takeLease : Triple [] host.takeLease fun _ => [] := by
  refine ht.increase.bind fun _ => (emit_triple [] fun _ => rfl).bind fun _ => ?_
  exact fun w ps hw hp => ⟨hw.hold (by simp), hp, .of_eq (fun _ => rfl) fun _ => rfl⟩

theorem enter (kind : FacadeKind) : Triple [] (host.enter kind) fun f => [.facade f] := by
  refine ht.increase.bind fun _ => fun w ps hw hp => ?_
  have note := unmoved_note w (e := .founded w.facades.size kind) fun _ => rfl
  exact ⟨(note.orderlyBut hw).make kind _, congrArg _ hp,
    note.evolves.trans (.of_eq (fun _ => rfl) fun _ => rfl)⟩

theorem makeFacade (kind : FacadeKind) :
    Triple [] (host.makeFacade kind) fun f => [.facade f] := by
  unfold Host.makeFacade
  split
  · exact ht.announce.bind fun _ => ht.enter kind
  · exact ht.enter kind

end Host.Tidy

/-- A client takes over what the running call took last. -/
theorem Host.handOver_triple (r : Ref) :
    Triple [r] (Host.handOver r : Act σ Unit) fun _ => [] := by
  intro w ps hw hp
  have he : w.pins.erase r = ps := by rw [hp]; simp
  refine ⟨?_, he, .of_eq (fun _ => rfl) fun _ => rfl⟩
  show World.Orderly { w with held := r :: w.held, pins := w.pins.erase r }
  rw [he]
  exact hw.handOver hp

theorem Host.hold_triple (r : Ref) : Triple [] (Host.hold r : Act σ Reply) fun _ => [] := by
  intro w ps hw hp
  show w.Reaches _ ((if w.held.contains r ∧ r ≠ .lease then _ else _ : Act σ Reply) w).2
  by_cases h : w.held.contains r ∧ r ≠ .lease
  · rw [if_pos h]
    refine ⟨hw.hold fun o he => ?_, hp, .of_eq (fun _ => rfl) fun _ => rfl⟩
    subst he
    exact hw.live_of_kept (refersTo_iff.2 (.inl (by simpa using h.1)))
  · rw [if_neg h]
    exact ⟨hw, hp, .refl w⟩

end ImageDispatch
