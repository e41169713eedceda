import ImageDispatch.Proofs.Leases.Users
import ImageDispatch.Proofs.Lifetime.Creation

/-!
# Objects in the books

* `Host.Fair.settleObject`: while an object is released the façade that has created it is busy.
* `Host.Fair.create_newborn`: a creation is accounted for. What it leads to is new
  (`World.Newborn`): it was not there before, and nothing but the running call has it.
-/

namespace ImageDispatch

open Act World

variable {σ : Type}

/-- The object is new since `w`, and nothing but a running call has it. -/
structure World.Newborn (w w' : World σ) (o : ObjectId) : Prop where
  size : w.objects.size ≤ o
  adopted : ∀ f, .adopted f o ∉ w'.journal
  held : .object o ∉ w'.held
  cached : ∀ f facade, w'.facade? f = some facade → o ∉ facade.objects

namespace Host.Fair

variable {host : Host σ} (hf : host.Fair)

include hf

/-! ## Letting go -/

/-- An object that has lost its last holder is released, in a world that comes from `v`. -/
theorem settleObject {v w : World σ} {o : ObjectId} (h : v.Handled host.env w)
    (hw : w.OrderlyBut (some (.object o)))
    (hb : v.Balanced host.env → ¬w.Disturbed → ∀ f, .adopted f o ∈ w.journal → w.Busy f) :
    v.Handled host.env (host.settleObject o w).2 := by
  unfold Host.settleObject
  rw [get_run]
  cases ho : w.objects[o]? with
  | none => exact h
  | some object =>
    by_cases hl : object.stage = .live ∧ w.refersTo (.object o) = false
    · simp only [hl, and_self, ↓reduceIte]
      obtain ⟨hlive, hr⟩ := hl
      have hs : w.stage? o = some .live := by simp [stage?, ho, hlive]
      have h₁ : v.Handled host.env (setStage o .finished w).2 := by
        refine ⟨⟨h.journal, fun hv hd => ?_⟩, h.table⟩
        obtain ⟨hbal, hst⟩ := h.balanced hv hd
        exact ⟨⟨hbal.books.finish hs (hb hv hd), hbal.connected⟩,
          hst.trans (.of_eq rfl rfl rfl rfl Array.size_modify.ge)⟩
      have h₂ := hf.invoke_handled (hw.finish hr) o .deinit Except.isOk
        (host.env.code.deinit object.token)
      rw [bind_run]
      refine handled_bind (h₁.trans h₂) fun r u => ?_
      cases r <;> exact handled_note u rfl
    · simp only [hl, ↓reduceIte]
      exact h

/-- A running call lets go of the object that it took last. -/
theorem unpinObject (o : ObjectId) :
    Act.Fair host.env [.object o] (host.unpinObject o) fun _ => [] := by
  refine ⟨hf.tidy.unpinObject o, fun w ps hw hp => ?_⟩
  have he : w.pins.erase (.object o) = ps := by rw [hp]; simp
  have h₁ : w.Handled host.env { w with pins := w.pins.erase (.object o) } :=
    ⟨⟨fun _ => id, fun h _ => ⟨⟨h.books.unpin_object o, h.connected⟩,
      .of_eq rfl rfl rfl rfl (Nat.le_refl _)⟩⟩, rfl⟩
  have hw₁ : { w with pins := w.pins.erase (.object o) : World σ }.OrderlyBut
      (some (.object o)) := by
    rw [he]; exact hw.unpin hp
  refine hf.settleObject h₁ hw₁ fun hv _ f ha => ?_
  have hb := hv.books.pinned ha (by simp [hp])
  exact hb.imp_left (List.mem_erase_of_ne (by simp)).2

/-- A running call lets go of objects, the last one it took first. -/
theorem unpinObjects :
    (os : List ObjectId) →
      Act.Fair host.env (os.map Ref.object) (os.forM host.unpinObject) fun _ => []
  | [] => .ret ()
  | o :: os => ((hf.unpinObject o).frame (os.map Ref.object)).bind fun _ => unpinObjects os

/-! ## Creating -/

omit hf in
/-- An object that is starting is not in the books, and nothing has it. -/
theorem newborn_of_starting {v w : World σ} {o : ObjectId} (hw : w.Orderly)
    (hb : w.Balanced host.env) (hs : w.stage? o = some .starting) (ho : v.objects.size ≤ o) :
    v.Newborn w o := by
  have free : w.refersTo (.object o) ≠ true := fun hr => by
    cases hs.symm.trans (hw.live_of_kept hr)
  refine ⟨ho, fun f ha => ?_, fun hm => free (refersTo_iff.2 (.inl hm)),
    fun f facade hfacade hm => free (refersTo_iff.2 (.inr (.inr ⟨f, facade, hfacade, hm⟩)))⟩
  rcases hb.books.stage ha with hl | hl <;> cases hs.symm.trans hl

/-- A new object is initialized. It is new after that, and the running call holds it if it went
well. -/
theorem instantiate_newborn (s : Selection) {w : World σ} (hw : w.Orderly) :
    w.Handled host.env (host.instantiate s w).2 ∧
      (w.Balanced host.env → ¬(host.instantiate s w).2.Disturbed → ∀ o,
        (host.instantiate s w).1 = .ok o → w.Newborn (host.instantiate s w).2 o) := by
  unfold Host.instantiate
  rw [bind_run]
  have hc := hf.runForeign [] (host.env.code.create s.creator)
  have hv := hc.handled hw rfl
  have hwv := (hc.triple hw rfl).orderly
  generalize host.runForeign (host.env.code.create s.creator) w = x at hv hwv ⊢
  obtain ⟨token, v⟩ := x
  cases token with
  | none =>
    refine ⟨(hv.trans (handled_note _ rfl)).trans (handled_note _ rfl), fun _ _ o ho => ?_⟩
    cases ho
  | some token =>
    have hadd : addObject s.info token v = (v.objects.size, { v with
        objects := v.objects.push ⟨s.info, token, .starting⟩ }) := rfl
    have h₁ : v.Handled host.env { v with
        objects := v.objects.push ⟨s.info, token, .starting⟩ } :=
      ⟨⟨fun _ => id, fun h _ => ⟨⟨h.books.create _, h.connected⟩,
        .of_eq rfl rfl rfl rfl (by simp)⟩⟩, rfl⟩
    have hwv₁ : World.Orderly { v with
        objects := v.objects.push ⟨s.info, token, .starting⟩ } := hwv.create rfl
    have h₂ := h₁.trans (hf.invoke_handled hwv₁ v.objects.size .init Except.isOk
      (host.env.code.init token))
    obtain ⟨hwx, -, hs, -⟩ := hf.tidy.init hwv ⟨s.info, token, .starting⟩ rfl
      (host.env.code.init token)
    dsimp only
    rw [bind_run, hadd, bind_run]
    generalize host.invoke _ _ _ _ _ = x at hwx hs h₂ ⊢
    obtain ⟨r, u⟩ := x
    have h₃ := hv.trans h₂
    cases r with
    | error e =>
      refine ⟨(h₃.trans (handled_note _ rfl)).trans (handled_note _ rfl), fun _ _ o ho => ?_⟩
      cases ho
    | ok =>
      have h₄ : u.Handled host.env (enliven v.objects.size u).2 :=
        ⟨⟨fun _ => id, fun h _ => ⟨⟨h.books.enliven hs, h.connected⟩,
          .of_eq rfl rfl rfl rfl Array.size_modify.ge⟩⟩, rfl⟩
      refine ⟨((h₃.trans h₄).trans (handled_note _ rfl)).trans (handled_note _ rfl),
        fun hb hd o ho => ?_⟩
      cases ho
      have hdu : ¬u.Disturbed := Accounted.not_disturbed (fun _ he => .tail _ (.tail _ he)) hd
      obtain ⟨hbu, -⟩ := h₃.balanced hb hdu
      obtain ⟨-, hst⟩ := hv.balanced hb (Accounted.not_disturbed h₂.journal hdu)
      have hn : w.Newborn u v.objects.size := newborn_of_starting hwx hbu hs hst.objects
      refine ⟨hn.size, fun f hm => hn.adopted f ?_, hn.held, hn.cached⟩
      exact (List.mem_cons.1 ((List.mem_cons.1 hm).resolve_left (by simp))).resolve_left (by simp)

theorem create_newborn (q : Query) {w : World σ} (hw : w.Orderly) :
    w.Handled host.env (host.create q w).2 ∧
      (w.Balanced host.env → ¬(host.create q w).2.Disturbed → ∀ o,
        (host.create q w).1 = .ok o → w.Newborn (host.create q w).2 o) := by
  unfold Host.create
  rw [bind_run]
  have hq := hf.plain (host.find_plain q) []
  have hv := hq.handled hw rfl
  have hwv := (hq.triple hw rfl).orderly
  generalize host.find q w = x at hv hwv ⊢
  obtain ⟨s, v⟩ := x
  cases s with
  | none =>
    refine ⟨hv, fun _ _ o ho => ?_⟩
    cases ho
  | some s =>
    obtain ⟨h, hnew⟩ := hf.instantiate_newborn s hwv
    refine ⟨hv.trans h, fun hb hd o ho => ?_⟩
    obtain ⟨hbv, hst⟩ := hv.balanced hb (Accounted.not_disturbed h.journal hd)
    have hn := hnew hbv hd o ho
    exact ⟨hst.objects.trans hn.size, hn.adopted, hn.held, hn.cached⟩

end Host.Fair

end ImageDispatch
