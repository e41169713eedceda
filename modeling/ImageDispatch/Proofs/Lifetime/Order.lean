import ImageDispatch.Proofs.Cache.Contents
import ImageDispatch.Proofs.Lifetime.Calls

/-!
# Who lives and who is kept

A world is orderly if its things live exactly as long as something keeps them.

* `World.refersTo_iff`: what keeps a thing is a holder outside, a running call, or a place inside.
  The caches of façades are the places of objects, and the instance table has those of façades.
* `OrderlyBut x`: the invariant, of all things but `x`. A thing that has lost a holder is such an
  exception until it is settled. `Orderly` has no exception.
* The lemmas after it: what a change of holders, objects or façades does to the invariant.
-/

namespace ImageDispatch

namespace Facade

/-- No cache of the façade has two entries for a key. -/
def Keyed (f : Facade) : Prop := ∀ op, (f.cache op).Keyed

theorem mem_objects {f : Facade} {o : ObjectId} :
    o ∈ f.objects ↔ ∃ op, o ∈ (f.cache op).values := by
  simp only [objects, operations, List.mem_flatMap]
  exact ⟨fun ⟨op, _, h⟩ => ⟨op, h⟩, fun ⟨op, h⟩ => ⟨op, by cases op <;> simp, h⟩⟩

theorem objects_new (kind : FacadeKind) (p : CachePolicy) : (new kind p).objects = [] := rfl

theorem keyed_new (kind : FacadeKind) (p : CachePolicy) : (new kind p).Keyed := by
  intro op
  cases op <;> exact Cache.keyed_empty p

end Facade

namespace World

variable {σ : Type} {w w' : World σ}

theorem facade?_eq_some {f : FacadeId} {facade : Facade} :
    w.facade? f = some facade ↔ w.facades[f]? = some (some facade) := by
  unfold facade?
  cases w.facades[f]? <;> simp

/-- Only what was made is there. -/
theorem facade?_lt {f : FacadeId} {facade : Facade} (h : w.facade? f = some facade) :
    f < w.facades.size := (Array.getElem?_eq_some_iff.1 (facade?_eq_some.1 h)).1

/-- A place inside keeps the thing. -/
def Stores (w : World σ) : Ref → Prop
  | .object o => ∃ f facade, w.facade? f = some facade ∧ o ∈ facade.objects
  | .facade f => f ∈ w.table.handles
  | .lease => False

theorem refersTo_iff {r : Ref} :
    w.refersTo r = true ↔ r ∈ w.held ∨ r ∈ w.pins ∨ w.Stores r := by
  simp only [refersTo, Bool.or_eq_true, List.contains_iff_mem, or_assoc]
  refine or_congr_right (or_congr_right ?_)
  cases r with
  | object o =>
    simp only [Array.any_eq_true, Option.any_eq_true, List.contains_iff_mem, Stores,
      facade?_eq_some]
    constructor
    · rintro ⟨f, hf, facade, hfacade, ho⟩
      exact ⟨f, facade, by rw [Array.getElem?_eq_getElem hf, hfacade], ho⟩
    · rintro ⟨f, facade, hfacade, ho⟩
      obtain ⟨hf, he⟩ := Array.getElem?_eq_some_iff.1 hfacade
      exact ⟨f, hf, facade, he, ho⟩
  | facade f => exact List.contains_iff_mem
  | lease => simp [Stores]

/-- Things live exactly as long as something keeps them, `x` apart. It may have lost its last
holder and not be settled yet. -/
structure OrderlyBut (x : Option Ref) (w : World σ) : Prop where
  live_of_kept : ∀ {o}, w.refersTo (.object o) = true → w.stage? o = some .live
  kept_of_live : ∀ {o}, w.stage? o = some .live → x ≠ some (.object o) →
    w.refersTo (.object o) = true
  facade_kept : ∀ {f facade}, w.facade? f = some facade → x ≠ some (.facade f) →
    w.refersTo (.facade f) = true
  keyed : ∀ {f facade}, w.facade? f = some facade → facade.Keyed

/-- Things live exactly as long as something keeps them. -/
abbrev Orderly (w : World σ) : Prop := OrderlyBut none w

variable {x y : Option Ref}

/-- In an orderly world no exception is needed. -/
theorem Orderly.but (h : w.Orderly) (x : Option Ref) : w.OrderlyBut x :=
  ⟨h.live_of_kept, fun hl _ => h.kept_of_live hl (by simp),
    fun hf _ => h.facade_kept hf (by simp), h.keyed⟩

theorem OrderlyBut.mono (h : w.OrderlyBut x) (hxy : x = none ∨ x = y) : w.OrderlyBut y := by
  rcases hxy with rfl | rfl
  · exact Orderly.but h y
  · exact h

/-- A thing that is still kept, or does not live, is no exception. -/
theorem OrderlyBut.settled {r : Ref} (h : w.OrderlyBut (some r))
    (ho : ∀ o, r = .object o → w.stage? o = some .live → w.refersTo r = true)
    (hf : ∀ f, r = .facade f → w.facade? f ≠ none → w.refersTo r = true) : w.Orderly := by
  refine ⟨h.live_of_kept, fun {o} hl _ => ?_, fun {f facade} hfacade _ => ?_, h.keyed⟩
  · by_cases hr : r = .object o
    · rw [← hr]; exact ho o hr hl
    · exact h.kept_of_live hl (by simpa using hr)
  · by_cases hr : r = .facade f
    · rw [← hr]; exact hf f hr (by simp [hfacade])
    · exact h.facade_kept hfacade (by simpa using hr)

/-- The invariant is about holders, places, objects and façades only. -/
theorem OrderlyBut.same (h : w.OrderlyBut x) (hh : w'.held = w.held) (hp : w'.pins = w.pins)
    (hf : w'.facades = w.facades) (ho : w'.objects = w.objects) (ht : w'.table = w.table) :
    w'.OrderlyBut x := by
  have hr : ∀ r, w'.refersTo r = w.refersTo r := by
    intro r; unfold refersTo; rw [hh, hp, hf, ht]
  have hs : ∀ o, w'.stage? o = w.stage? o := by intro o; unfold stage?; rw [ho]
  have hf' : ∀ f, w'.facade? f = w.facade? f := by intro f; unfold facade?; rw [hf]
  exact ⟨fun hk => by rw [hs]; exact h.live_of_kept (by rw [← hr]; exact hk),
    fun hl hx => by rw [hr]; exact h.kept_of_live (by rw [← hs]; exact hl) hx,
    fun hfacade hx => by rw [hr]; exact h.facade_kept (by rw [← hf']; exact hfacade) hx,
    fun hfacade => h.keyed (by rw [← hf']; exact hfacade)⟩

/-! ## Holders -/

/-- Holders change, and only `y` may lose its last one. -/
theorem OrderlyBut.rehold (h : w.OrderlyBut x) (hxy : x = none ∨ x = y)
    (ho : w'.objects = w.objects) (hf : w'.facades = w.facades)
    (hkeep : ∀ r, y ≠ some r → w.refersTo r = true → w'.refersTo r = true)
    (hnew : ∀ o, w'.refersTo (.object o) = true → w.stage? o = some .live) :
    w'.OrderlyBut y := by
  have hs : ∀ o, w'.stage? o = w.stage? o := by intro o; unfold stage?; rw [ho]
  have hf' : ∀ f, w'.facade? f = w.facade? f := by intro f; unfold facade?; rw [hf]
  have h := h.mono hxy
  refine ⟨fun hk => by rw [hs]; exact hnew _ hk, fun hl hy => ?_, fun hfacade hy => ?_,
    fun hfacade => h.keyed (by rw [← hf']; exact hfacade)⟩
  · exact hkeep _ hy (h.kept_of_live (by rw [← hs]; exact hl) hy)
  · exact hkeep _ hy (h.facade_kept (by rw [← hf']; exact hfacade) hy)

/-- A running call may hold a façade, and any object that lives. -/
theorem OrderlyBut.pin (h : w.OrderlyBut x) {r : Ref}
    (hr : ∀ o, r = .object o → w.stage? o = some .live) :
    { w with pins := r :: w.pins : World σ }.OrderlyBut x := by
  refine h.rehold (.inr rfl) rfl rfl (fun s _ hs => ?_) fun o ho => ?_
  · rw [refersTo_iff] at hs ⊢
    exact hs.imp_right (Or.imp_left (List.mem_cons_of_mem _))
  · rw [refersTo_iff] at ho
    rcases ho with ho | ho | ho
    · exact h.live_of_kept (refersTo_iff.2 (.inl ho))
    · rcases List.mem_cons.1 ho with ho | ho
      · exact hr o ho.symm
      · exact h.live_of_kept (refersTo_iff.2 (.inr (.inl ho)))
    · exact h.live_of_kept (refersTo_iff.2 (.inr (.inr ho)))

/-- A running call lets go of what it took last. -/
theorem OrderlyBut.unpin (h : w.Orderly) {r : Ref} {ps : List Ref} (hp : w.pins = r :: ps) :
    { w with pins := ps : World σ }.OrderlyBut (some r) := by
  refine h.rehold (.inl rfl) rfl rfl (fun s hne hs => ?_) fun o ho => ?_
  · rw [refersTo_iff, hp] at hs
    rw [refersTo_iff]
    refine hs.imp_right (Or.imp_left fun hm => ?_)
    exact (List.mem_cons.1 hm).resolve_left fun e => hne (by rw [e])
  · apply h.live_of_kept
    rw [refersTo_iff] at ho
    rw [refersTo_iff, hp]
    exact ho.imp_right (Or.imp_left (List.mem_cons_of_mem _))

/-- A client holds one thing more. -/
theorem OrderlyBut.hold (h : w.OrderlyBut x) {r : Ref}
    (hr : ∀ o, r = .object o → w.stage? o = some .live) :
    { w with held := r :: w.held : World σ }.OrderlyBut x := by
  refine h.rehold (.inr rfl) rfl rfl (fun s _ hs => ?_) fun o ho => ?_
  · rw [refersTo_iff] at hs ⊢
    exact hs.imp_left (List.mem_cons_of_mem _)
  · rw [refersTo_iff] at ho
    rcases ho with ho | ho
    · rcases List.mem_cons.1 ho with ho | ho
      · exact hr o ho.symm
      · exact h.live_of_kept (refersTo_iff.2 (.inl ho))
    · exact h.live_of_kept (refersTo_iff.2 (.inr ho))

/-- A client lets go of a thing. -/
theorem OrderlyBut.unhold (h : w.Orderly) (r : Ref) :
    { w with held := w.held.erase r : World σ }.OrderlyBut (some r) := by
  refine h.rehold (.inl rfl) rfl rfl (fun s hne hs => ?_) fun o ho => ?_
  · rw [refersTo_iff] at hs ⊢
    exact hs.imp_left (List.mem_erase_of_ne fun e => hne (by rw [e])).2
  · apply h.live_of_kept
    rw [refersTo_iff] at ho ⊢
    exact ho.imp_left List.mem_of_mem_erase

/-- A client takes over what a running call took last. -/
theorem OrderlyBut.handOver (h : w.Orderly) {r : Ref} {ps : List Ref} (hp : w.pins = r :: ps) :
    { w with held := r :: w.held, pins := ps : World σ }.Orderly := by
  refine h.rehold (.inl rfl) rfl rfl (fun s _ hs => ?_) fun o ho => ?_
  · rw [refersTo_iff, hp] at hs
    rw [refersTo_iff]
    simp only [List.mem_cons] at hs ⊢
    tauto
  · apply h.live_of_kept
    rw [refersTo_iff] at ho
    rw [refersTo_iff, hp]
    simp only [List.mem_cons] at ho ⊢
    tauto

/-! ## Objects -/

theorem stage?_push (w : World σ) (object : AlgorithmObject) (o : ObjectId) :
    { w with objects := w.objects.push object : World σ }.stage? o =
      if o = w.objects.size then some object.stage else w.stage? o := by
  simp only [stage?, Array.getElem?_push]
  split <;> rfl

theorem stage?_modify (w : World σ) (o o' : ObjectId) (s : Stage) (pins : List Ref) :
    { w with
      objects := w.objects.modify o fun object => { object with stage := s }
      pins : World σ }.stage? o' =
      if o' = o then (w.stage? o).map fun _ => s else w.stage? o' := by
  simp only [stage?, Array.getElem?_modify]
  by_cases h : o' = o
  · subst h
    cases w.objects[o']? <;> simp
  · simp [h, Ne.symm h]

theorem stage?_size (w : World σ) : w.stage? w.objects.size = none := by simp [stage?]

/-- A new object does not live yet. -/
theorem OrderlyBut.create (h : w.OrderlyBut x) {object : AlgorithmObject}
    (hs : object.stage = .starting) :
    { w with objects := w.objects.push object : World σ }.OrderlyBut x := by
  refine ⟨fun {o} ho => ?_, fun {o} hl hx => ?_, h.facade_kept, h.keyed⟩
  · have hl := h.live_of_kept ho
    rw [stage?_push, if_neg, hl]
    rintro rfl
    rw [stage?_size] at hl
    cases hl
  · rw [stage?_push] at hl
    split at hl
    · rw [hs] at hl; cases hl
    · exact h.kept_of_live hl hx

/-- An object starts to live, held by the running call. -/
theorem OrderlyBut.enliven (h : w.OrderlyBut x) {o : ObjectId} (hs : w.stage? o ≠ none) :
    { w with
      objects := w.objects.modify o fun object => { object with stage := .live }
      pins := .object o :: w.pins : World σ }.OrderlyBut x := by
  have hk : ∀ r, { w with
      objects := w.objects.modify o fun object => { object with stage := .live }
      pins := .object o :: w.pins : World σ }.refersTo r = true ↔
      r = .object o ∨ w.refersTo r = true := by
    intro r
    rw [refersTo_iff, refersTo_iff]
    show r ∈ w.held ∨ r ∈ .object o :: w.pins ∨ w.Stores r ↔ _
    rw [List.mem_cons]
    tauto
  refine ⟨fun {o'} ho => ?_, fun {o'} hl hx => ?_, fun hf hx => ?_, h.keyed⟩
  · rw [stage?_modify]
    split
    · cases hw : w.stage? o with
      | none => exact absurd hw hs
      | some s => rfl
    · rename_i hne
      exact h.live_of_kept (((hk _).1 ho).resolve_left fun e => hne (Ref.object.inj e))
  · rw [stage?_modify] at hl
    split at hl
    · rename_i he; exact (hk _).2 (.inl (by rw [he]))
    · exact (hk _).2 (.inr (h.kept_of_live hl hx))
  · exact (hk _).2 (.inr (h.facade_kept hf hx))

/-- An object that nothing keeps stops to live. -/
theorem OrderlyBut.finish {o : ObjectId} (h : w.OrderlyBut (some (.object o)))
    (hr : w.refersTo (.object o) = false) :
    { w with
      objects := w.objects.modify o fun object => { object with stage := .finished }
      : World σ }.Orderly := by
  refine ⟨fun {o'} ho => ?_, fun {o'} hl _ => ?_, fun hf _ => h.facade_kept hf (by simp), h.keyed⟩
  · have hne : o' ≠ o := by
      rintro rfl
      exact Bool.false_ne_true (hr.symm.trans ho)
    rw [stage?_modify, if_neg hne]
    exact h.live_of_kept ho
  · rw [stage?_modify] at hl
    split at hl
    · cases hw : w.stage? o <;> rw [hw] at hl <;> cases hl
    · rename_i hne
      exact h.kept_of_live hl (by simpa using Ne.symm hne)

/-! ## Façades -/

theorem facade?_modify (w : World σ) (f f' : FacadeId) (change : Facade → Facade) :
    { w with facades := w.facades.modify f (Option.map change) : World σ }.facade? f' =
      if f' = f then (w.facade? f).map change else w.facade? f' := by
  simp only [facade?, Array.getElem?_modify]
  by_cases h : f' = f
  · subst h
    cases w.facades[f']? <;> simp
  · simp [h, Ne.symm h]

/-- The façade that changes. -/
theorem facade?_modify_self {w : World σ} {f : FacadeId} {facade : Facade}
    (h : w.facade? f = some facade) (change : Facade → Facade) :
    { w with facades := w.facades.modify f (Option.map change) : World σ }.facade? f =
      some (change facade) := by rw [facade?_modify, if_pos rfl, h]; rfl

theorem facade?_push (w : World σ) (facade : Facade) (pins : List Ref) (f : FacadeId) :
    { w with facades := w.facades.push (some facade), pins : World σ }.facade? f =
      if f = w.facades.size then some facade else w.facade? f := by
  simp only [facade?, Array.getElem?_push]
  split <;> rfl

theorem facade?_remove (w : World σ) (pins : List Ref) (f f' : FacadeId) :
    { w with facades := w.facades.modify f fun _ => none, pins : World σ }.facade? f' =
      if f' = f then none else w.facade? f' := by
  simp only [facade?, Array.getElem?_modify]
  by_cases h : f' = f
  · subst h
    cases w.facades[f']? <;> simp
  · simp [h, Ne.symm h]

/-- A façade changes. It may take in objects that live, and only `y` may lose its place. -/
theorem OrderlyBut.change (h : w.OrderlyBut x) (hxy : x = none ∨ x = y) {f : FacadeId}
    {change : Facade → Facade}
    (hk : ∀ facade, w.facade? f = some facade → (change facade).Keyed)
    (hnew : ∀ facade, w.facade? f = some facade → ∀ o ∈ (change facade).objects,
      w.stage? o = some .live)
    (hkeep : ∀ facade, w.facade? f = some facade → ∀ o ∈ facade.objects,
      y ≠ some (.object o) → o ∈ (change facade).objects) :
    { w with facades := w.facades.modify f (Option.map change) : World σ }.OrderlyBut y := by
  have h := h.mono hxy
  constructor
  case live_of_kept =>
    intro o ho
    rw [refersTo_iff] at ho
    rcases ho with ho | ho | ⟨f', facade', hf, ho⟩
    · exact h.live_of_kept (refersTo_iff.2 (.inl ho))
    · exact h.live_of_kept (refersTo_iff.2 (.inr (.inl ho)))
    · rw [facade?_modify] at hf
      split at hf
      · obtain ⟨facade, he, rfl⟩ := Option.map_eq_some_iff.1 hf
        exact hnew facade he o ho
      · exact h.live_of_kept (refersTo_iff.2 (.inr (.inr ⟨f', facade', hf, ho⟩)))
  case kept_of_live =>
    intro o hl hy
    have hr := h.kept_of_live hl hy
    rw [refersTo_iff] at hr ⊢
    refine hr.imp_right (Or.imp_right ?_)
    rintro ⟨f', facade', hf, ho⟩
    by_cases he : f' = f
    · subst he
      exact ⟨f', change facade', facade?_modify_self hf change, hkeep facade' hf o ho hy⟩
    · exact ⟨f', facade', by rw [facade?_modify, if_neg he]; exact hf, ho⟩
  case facade_kept =>
    intro f' facade' hf hy
    have hr : w.refersTo (.facade f') = true := by
      rw [facade?_modify] at hf
      split at hf
      · rename_i he
        obtain ⟨facade, hf, -⟩ := Option.map_eq_some_iff.1 hf
        exact h.facade_kept (he ▸ hf) hy
      · exact h.facade_kept hf hy
    rw [refersTo_iff] at hr ⊢
    exact hr
  case keyed =>
    intro f' facade' hf
    rw [facade?_modify] at hf
    split at hf
    · obtain ⟨facade, he, rfl⟩ := Option.map_eq_some_iff.1 hf
      exact hk facade he
    · exact h.keyed hf

/-- A change of a façade that leaves its objects as they are. -/
theorem OrderlyBut.change_of_eq (h : w.OrderlyBut x) {f : FacadeId} {change : Facade → Facade}
    (hk : ∀ facade, facade.Keyed → (change facade).Keyed)
    (ho : ∀ facade o, o ∈ (change facade).objects ↔ o ∈ facade.objects) :
    { w with facades := w.facades.modify f (Option.map change) : World σ }.OrderlyBut x :=
  h.change (.inr rfl) (fun _ hf => hk _ (h.keyed hf))
    (fun facade hf o hm => h.live_of_kept
      (refersTo_iff.2 (.inr (.inr ⟨f, facade, hf, (ho facade o).1 hm⟩))))
    fun facade _ o hm _ => (ho facade o).2 hm

/-- A new façade has no objects, and the running call holds it. -/
theorem OrderlyBut.make (h : w.OrderlyBut x) (kind : FacadeKind) (p : CachePolicy) :
    { w with
      facades := w.facades.push (some (.new kind p))
      pins := .facade w.facades.size :: w.pins : World σ }.OrderlyBut x := by
  constructor
  case live_of_kept =>
    intro o ho
    apply h.live_of_kept
    rw [refersTo_iff] at ho ⊢
    rcases ho with ho | ho | ⟨f, facade, hf, ho⟩
    · exact .inl ho
    · exact .inr (.inl (by simpa using ho))
    · rw [facade?_push] at hf
      split at hf
      · cases hf
        rw [Facade.objects_new] at ho
        cases ho
      · exact .inr (.inr ⟨f, facade, hf, ho⟩)
  case kept_of_live =>
    intro o hl hx
    have hr := h.kept_of_live hl hx
    rw [refersTo_iff] at hr ⊢
    refine hr.imp_right (Or.imp (List.mem_cons_of_mem _) ?_)
    rintro ⟨f, facade, hf, ho⟩
    have hne : f ≠ w.facades.size := by
      rintro rfl
      simp [facade?] at hf
    exact ⟨f, facade, by rw [facade?_push, if_neg hne]; exact hf, ho⟩
  case facade_kept =>
    intro f facade hf hx
    rw [facade?_push] at hf
    split at hf
    · rename_i he
      exact refersTo_iff.2 (.inr (.inl (by simp [he])))
    · have hr := h.facade_kept hf hx
      rw [refersTo_iff] at hr ⊢
      exact hr.imp_right (Or.imp_left (List.mem_cons_of_mem _))
  case keyed =>
    intro f facade hf
    rw [facade?_push] at hf
    split at hf
    · cases hf; exact Facade.keyed_new kind p
    · exact h.keyed hf

/-- A façade goes away, and the running call takes over its objects. -/
theorem OrderlyBut.dismantle {f : FacadeId} {facade : Facade}
    (h : w.OrderlyBut (some (.facade f))) (hfacade : w.facade? f = some facade) :
    { w with
      facades := w.facades.modify f fun _ => none
      pins := facade.objects.map Ref.object ++ w.pins : World σ }.Orderly := by
  constructor
  case live_of_kept =>
    intro o ho
    apply h.live_of_kept
    rw [refersTo_iff] at ho ⊢
    rcases ho with ho | ho | ⟨f', facade', hf, ho⟩
    · exact .inl ho
    · rcases List.mem_append.1 ho with ho | ho
      · obtain ⟨o', ho', he⟩ := List.mem_map.1 ho
        cases he
        exact .inr (.inr ⟨f, facade, hfacade, ho'⟩)
      · exact .inr (.inl ho)
    · rw [facade?_remove] at hf
      split at hf
      · cases hf
      · exact .inr (.inr ⟨f', facade', hf, ho⟩)
  case kept_of_live =>
    intro o hl _
    have hr := h.kept_of_live hl (by simp)
    rw [refersTo_iff] at hr ⊢
    rcases hr with hr | hr | ⟨f', facade', hf, ho⟩
    · exact .inl hr
    · exact .inr (.inl (List.mem_append_right _ hr))
    · by_cases he : f' = f
      · subst he
        cases hfacade.symm.trans hf
        exact .inr (.inl (List.mem_append_left _ (List.mem_map_of_mem ho)))
      · exact .inr (.inr ⟨f', facade', by rw [facade?_remove, if_neg he]; exact hf, ho⟩)
  case facade_kept =>
    intro f' facade' hf _
    rw [facade?_remove] at hf
    split at hf
    · cases hf
    · rename_i he
      have hr := h.facade_kept hf (by simpa using Ne.symm he)
      rw [refersTo_iff] at hr ⊢
      exact hr.imp_right (Or.imp_left (List.mem_append_right _))
  case keyed =>
    intro f' facade' hf
    rw [facade?_remove] at hf
    split at hf
    · cases hf
    · exact h.keyed hf

end World

end ImageDispatch
