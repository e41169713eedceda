import ImageDispatch.Proofs.Lifetime.Order

/-!
# Triples of running calls

`Triple before a after`: in an orderly world in which running calls hold `before` and whatever
else, `a` leads to an orderly world in which they hold `after` and the same else, and every object
makes a passage. What calls further out hold is in the definition, so the frame rule
(`Triple.frame`) holds of every action.

* Rules for the ways in which actions are put together (`bind`, `map`, `forM`).
* `Triple.of_unmoved`: an action that only reports, or changes what is neither a holder nor held.
* `Host.Tidy`: the dispatcher answers each request of code of others tidily. All code of others
  that runs on it is tidy then, whatever it does (`Host.Tidy.runForeign`).
* `Host.Tidy.invoke`: a call of an object that the caller holds.
-/

namespace ImageDispatch

namespace World

variable {σ : Type}

/-- `w'` comes from `w`, and its running calls hold `pins`. -/
structure Reaches (w : World σ) (pins : List Ref) (w' : World σ) : Prop where
  orderly : w'.Orderly
  pins_eq : w'.pins = pins
  evolves : w.Evolves w'

theorem Reaches.trans {w₁ w₂ w₃ : World σ} {ps qs : List Ref} (h₁ : w₁.Reaches ps w₂)
    (h₂ : w₂.Reaches qs w₃) : w₁.Reaches qs w₃ :=
  ⟨h₂.orderly, h₂.pins_eq, h₁.evolves.trans h₂.evolves⟩

/-- Nothing that lives or keeps has changed, and no object was called. -/
structure Unmoved (w w' : World σ) : Prop where
  held : w'.held = w.held
  pins : w'.pins = w.pins
  facades : w'.facades = w.facades
  objects : w'.objects = w.objects
  table : w'.table = w.table
  calls : ∀ o, w'.calls o = w.calls o

theorem Unmoved.orderlyBut {w w' : World σ} (h : w.Unmoved w') {x : Option Ref}
    (hw : w.OrderlyBut x) : w'.OrderlyBut x :=
  hw.same h.held h.pins h.facades h.objects h.table

theorem Unmoved.evolves {w w' : World σ} (h : w.Unmoved w') : w.Evolves w' :=
  .of_eq h.calls fun o => by unfold stage?; rw [h.objects]

/-- A call of an object, with what happens before it begins (from `w` to `w₁`), while it runs
(to `w₂`) and after it has ended (to `w'`). Other objects make their passage while it runs. -/
theorem Evolves.around {w w₁ w₂ w' : World σ} {o : ObjectId} {m : Method} {ok : Bool}
    (h : (w₁.note (.began o m)).Evolves w₂) (hc : ∀ o, w₁.calls o = w.calls o)
    (hs : ∀ o', o' ≠ o → w₁.stage? o' = w.stage? o')
    (hc' : ∀ o', w'.calls o' = (w₂.note (.ended o m ok)).calls o')
    (hs' : ∀ o', o' ≠ o → w'.stage? o' = w₂.stage? o')
    (ho : ∀ t, Passage o (w₁.stage? o) (w₂.stage? o) t →
      Passage o (w.stage? o) (w'.stage? o) (.began o m :: (t ++ [.ended o m ok]))) :
    w.Evolves w' := by
  intro o'
  obtain ⟨t, ht, hpass⟩ := h o'
  by_cases he : o' = o
  · subst he
    refine ⟨_, ?_, ho t hpass⟩
    rw [hc', calls_note, ht, calls_note, hc]
    simp [Event.concerns]
  · refine ⟨t, ?_, ?_⟩
    · rw [hc', calls_note, ht, calls_note, hc]
      simp [Event.concerns, Ne.symm he]
    · rw [hs' o' he, ← hs o' he]
      exact hpass

/-- An event that is no call does not move anything. -/
theorem unmoved_note (w : World σ) {e : Event} (h : ∀ o, e.concerns o = false) :
    w.Unmoved (w.note e) :=
  ⟨rfl, rfl, rfl, rfl, rfl, fun o => by rw [calls_note, h]; simp⟩

end World

namespace Act

variable {σ α β : Type}

open World

/-- One action runs after another. -/
theorem bind_run (a : Act σ α) (f : α → Act σ β) (w : World σ) :
    (a >>= f) w = f (a w).1 (a w).2 := rfl

theorem bind_of_run {a : Act σ α} {f : α → Act σ β} {w w' : World σ} {x : α}
    (h : a w = (x, w')) : (a >>= f) w = f x w' := by rw [bind_run, h]

theorem map_of_run {a : Act σ α} {f : α → β} {w w' : World σ} {x : α} (h : a w = (x, w')) :
    (f <$> a) w = (f x, w') := by
  show (f (a w).1, (a w).2) = _
  rw [h]

/-- An action that begins with a read of the state. -/
theorem get_run (f : World σ → Act σ β) (w : World σ) : (get >>= f) w = f w w := rfl

/-- An action that begins with a look at a façade. -/
theorem facade?_run (f : FacadeId) (g : Option Facade → Act σ β) (w : World σ) :
    (Act.facade? f >>= g) w = g (w.facade? f) w := rfl

/-- Of an action on worlds in which running calls hold `before` (module doc). -/
def Triple (before : List Ref) (a : Act σ α) (after : α → List Ref) : Prop :=
  ∀ ⦃w : World σ⦄ ⦃ps : List Ref⦄, w.Orderly → w.pins = before ++ ps →
    w.Reaches (after (a w).1 ++ ps) (a w).2

namespace Triple

variable {ps qs rs : List Ref} {a : Act σ α} {after : α → List Ref}

/-- An action that runs after others. -/
theorem follow {v w : World σ} (ha : Triple ps a after) (h : v.Reaches (ps ++ qs) w) :
    v.Reaches (after (a w).1 ++ qs) (a w).2 :=
  h.trans (ha h.orderly h.pins_eq)

theorem ret_of {x : α} (after : α → List Ref) (h : after x = ps) :
    Triple ps (pure x : Act σ α) after :=
  fun w _ hw hp => ⟨hw, by rw [← h] at hp; exact hp, .refl w⟩

theorem ret (x : α) : Triple ps (pure x : Act σ α) fun _ => ps := .ret_of _ rfl

theorem bind {f : α → Act σ β} {last : β → List Ref} (ha : Triple ps a after)
    (hf : ∀ x, Triple (after x) (f x) last) : Triple ps (a >>= f) last := by
  intro w qs hw hp
  exact (hf (a w).1).follow (ha hw hp)

/-- What calls further out hold stays as it is. -/
theorem frame (h : Triple ps a after) (qs : List Ref) :
    Triple (ps ++ qs) a fun x => after x ++ qs := by
  intro w rs hw hp
  have := h hw (by rw [hp, List.append_assoc])
  rwa [← List.append_assoc] at this

/-- An action that leaves the holds of running calls as they are may be used in any place. -/
theorem keep (h : Triple [] a fun _ => []) (ps : List Ref) : Triple ps a fun _ => ps :=
  h.frame ps

theorem of_unmoved (h : ∀ w : World σ, w.Unmoved (a w).2) : Triple ps a fun _ => ps :=
  fun w _ hw hp => ⟨(h w).orderlyBut hw, (h w).pins.trans hp, (h w).evolves⟩

/-- A read of the state, where what is read does not matter. -/
theorem read {f : World σ → Act σ α} (h : ∀ w, Triple ps (f w) after) :
    Triple ps (get >>= f) after := fun w _ hw hp => h w hw hp

theorem map {f : α → β} {last : β → List Ref} (h : Triple ps a fun x => last (f x)) :
    Triple ps (f <$> a) last := fun _ _ hw hp => h hw hp

theorem forM {γ : Type} {f : γ → Act σ Unit} (hf : ∀ x, Triple ps (f x) fun _ => ps) :
    (l : List γ) → Triple ps (l.forM f) fun _ => ps
  | [] => ret ()
  | x :: rest => (hf x).bind fun _ => forM hf rest

end Triple

/-- An action after one whose world is known. -/
theorem reaches_bind {v w : World σ} {qs : List Ref} {a : Act σ α} {f : α → Act σ β}
    (ps : List Ref) (after : β → List Ref) (h : v.Reaches (ps ++ qs) (a w).2)
    (hf : ∀ x, Triple ps (f x) after) :
    v.Reaches (after ((a >>= f) w).1 ++ qs) ((a >>= f) w).2 :=
  (hf (a w).1).follow h

/-! ## Reports -/

theorem emit_triple (ps : List Ref) {e : Event} (h : ∀ o, e.concerns o = false) :
    Triple ps (emit e : Act σ Unit) fun _ => ps :=
  .of_unmoved fun w => unmoved_note w h

theorem log_triple (ps : List Ref) (severity : Severity) (text : String) :
    Triple ps (log severity text : Act σ Unit) fun _ => ps :=
  emit_triple ps fun _ => rfl

theorem count_triple (ps : List Ref) (counter : Counter) :
    Triple ps (count counter : Act σ Unit) fun _ => ps :=
  emit_triple ps fun _ => rfl

/-- A running call takes hold of a façade. -/
theorem pin_facade_triple (f : FacadeId) :
    Triple [] (pin (.facade f) : Act σ Unit) fun _ => [.facade f] := by
  intro w ps hw hp
  exact ⟨hw.pin (by simp), congrArg (Ref.facade f :: ·) hp, .of_eq (fun _ => rfl) fun _ => rfl⟩

end Act

/-! ## Code of others -/

open Act World

variable {σ α : Type}

/-- The dispatcher answers each request of code of others tidily. -/
def Host.Tidy (host : Host σ) : Prop := ∀ r, Triple [] (host.serve r) fun _ => []

theorem Foreign.run_triple {serve : Request → Act σ Reply}
    (hs : ∀ r, Triple [] (serve r) fun _ => []) (code : Foreign σ α) :
    Triple [] (code.run serve) fun _ => [] := by
  -- The memory is no holder; each reply is tidy, and so is what the code makes of it.
  induction code with
  | done memory x =>
    refine .bind (.of_unmoved fun w => ⟨rfl, rfl, rfl, rfl, rfl, fun _ => rfl⟩) fun _ => ?_
    exact .ret x
  | ask memory request resume ih =>
    refine .bind (.of_unmoved fun w => ⟨rfl, rfl, rfl, rfl, rfl, fun _ => rfl⟩) fun _ => ?_
    exact (hs request).bind fun reply => .read fun w => ih w.memory reply

namespace Host.Tidy

variable {host : Host σ} (ht : host.Tidy)

include ht

theorem runForeign (ps : List Ref) (code : σ → Foreign σ α) :
    Triple ps (host.runForeign code) fun _ => ps :=
  .keep (.read fun w => Foreign.run_triple ht (code w.memory)) ps

/-- A call of an object that the caller holds. The object lives when the call begins, and the
caller still holds it when the call ends. What the object sees in between is work, too. -/
theorem invoke {o : ObjectId} {m : Method} (hi : m ≠ .init) (hd : m ≠ .deinit)
    (succeeded : α → Bool) (code : σ → Foreign σ α) :
    Triple [.object o] (host.invoke o m succeeded code) fun _ => [.object o] := by
  intro w ps hw hp
  have hlive : ∀ {v : World σ}, v.Orderly → v.pins = [.object o] ++ ps →
      v.stage? o = some .live := fun hv hvp =>
    hv.live_of_kept (refersTo_iff.2 (.inr (.inl (by simp [hvp]))))
  have hw₁ : (w.note (.began o m)).Orderly := hw.same rfl rfl rfl rfl rfl
  -- The hold of the caller is in the frame of the code that runs, so the object lives before and
  -- after it, and the only passage from life to life is work.
  obtain ⟨hw₂, hp₂, he⟩ := ht.runForeign [.object o] code hw₁ hp
  refine ⟨hw₂.same rfl rfl rfl rfl rfl, hp₂,
    he.around (fun _ => rfl) (fun _ _ => rfl) (fun _ => rfl) (fun _ _ => rfl) fun t hpass => ?_⟩
  rw [hlive hw hp, hlive hw₂ hp₂] at hpass
  cases hpass with
  | works hwork =>
    rw [hlive hw hp]
    exact (hlive hw₂ hp₂).symm ▸ .works (hwork.single hi hd _)

end Host.Tidy

end ImageDispatch
