import ImageDispatch.Dispatch.World

/-!
# The calls that an object sees

The journal has the calls of all objects. `World.calls` picks out those of one object, in the
order of time, each with its return.

* `Work`: calls that set, read or work. They nest, since an algorithm may ask for something that
  leads back to it, and each returns before what is around it does.
* `Passage`: the calls that take an object from one stage to another. Passages follow each other
  (`Passage.trans`).
* `Life`: the calls of an object from its creation to a stage. An object whose initialization
  fails sees nothing more, and the release of another one is its last call.
* `Evolves`: between two worlds every object makes a passage.
-/

namespace ImageDispatch

/-- The event is a call of the object, or its return. -/
def Event.concerns (o : ObjectId) : Event → Bool
  | .began o' _ => o' = o
  | .ended o' _ _ => o' = o
  | _ => false

/-- The initialization of an object with success. -/
def acceptance (o : ObjectId) : List Event := [.began o .init, .ended o .init true]

/-- The initialization of an object that fails. -/
def refusal (o : ObjectId) : List Event := [.began o .init, .ended o .init false]

/-- The release of an object. -/
def release (o : ObjectId) (ok : Bool) : List Event := [.began o .deinit, .ended o .deinit ok]

/-- Calls of an object that neither initialize nor release it, nested in each other. -/
inductive Work (o : ObjectId) : List Event → Prop
  | nil : Work o []
  /-- A call, the calls while it runs, and the calls after it. -/
  | call {m : Method} {ok : Bool} {inner rest : List Event} (hi : m ≠ .init) (hd : m ≠ .deinit)
    (inside : Work o inner) (after : Work o rest) :
    Work o (.began o m :: (inner ++ .ended o m ok :: rest))

theorem Work.append {o : ObjectId} {s t : List Event} (hs : Work o s) (ht : Work o t) :
    Work o (s ++ t) := by
  induction hs with
  | nil => exact ht
  | call hi hd inside _ _ ih =>
    simpa using Work.call hi hd inside ih

theorem Work.single {o : ObjectId} {m : Method} {t : List Event} (hi : m ≠ .init)
    (hd : m ≠ .deinit) (ok : Bool) (h : Work o t) :
    Work o (.began o m :: (t ++ [.ended o m ok])) :=
  .call hi hd h .nil

/-- The calls of an object while it goes from a stage to another. An object without a stage is
not there yet. -/
inductive Passage (o : ObjectId) : Option Stage → Option Stage → List Event → Prop
  | absent : Passage o none none []
  | refused : Passage o none (some .starting) (refusal o)
  | born {b : List Event} (h : Work o b) : Passage o none (some .live) (acceptance o ++ b)
  | passed {b : List Event} (h : Work o b) (ok : Bool) :
    Passage o none (some .finished) (acceptance o ++ b ++ release o ok)
  | idle : Passage o (some .starting) (some .starting) []
  | works {b : List Event} (h : Work o b) : Passage o (some .live) (some .live) b
  | released {b : List Event} (h : Work o b) (ok : Bool) :
    Passage o (some .live) (some .finished) (b ++ release o ok)
  | rests : Passage o (some .finished) (some .finished) []

theorem Passage.refl (o : ObjectId) : (s : Option Stage) → Passage o s s []
  | none => .absent
  | some .starting => .idle
  | some .live => .works .nil
  | some .finished => .rests

theorem Passage.trans {o : ObjectId} {s₁ s₂ s₃ : Option Stage} {t₁ t₂ : List Event}
    (h₁ : Passage o s₁ s₂ t₁) (h₂ : Passage o s₂ s₃ t₂) : Passage o s₁ s₃ (t₁ ++ t₂) := by
  cases h₁ with
  | absent => exact h₂
  | refused => cases h₂; rw [List.append_nil]; exact .refused
  | born h =>
    cases h₂ with
    | works h' => rw [List.append_assoc]; exact .born (h.append h')
    | released h' ok =>
      rw [List.append_assoc, ← List.append_assoc _ _ (release o ok), ← List.append_assoc]
      exact .passed (h.append h') ok
  | passed h ok => cases h₂; rw [List.append_nil]; exact .passed h ok
  | idle => exact h₂
  | works h =>
    cases h₂ with
    | works h' => exact .works (h.append h')
    | released h' ok => rw [← List.append_assoc]; exact .released (h.append h') ok
  | released h ok => cases h₂; rw [List.append_nil]; exact .released h ok
  | rests => exact h₂

/-- The calls of an object from its creation on, at a stage. -/
inductive Life (o : ObjectId) : Stage → List Event → Prop
  /-- Its initialization failed, and nothing came after it. -/
  | refused : Life o .starting (refusal o)
  /-- It was initialized, and works. -/
  | working {b : List Event} (h : Work o b) : Life o .live (acceptance o ++ b)
  /-- It was initialized, worked, and was released in the end. -/
  | released {b : List Event} (h : Work o b) (ok : Bool) :
    Life o .finished (acceptance o ++ b ++ release o ok)

theorem Passage.life {o : ObjectId} {s : Stage} {t : List Event} (h : Passage o none (some s) t) :
    Life o s t := by
  cases h with
  | refused => exact .refused
  | born h => exact .working h
  | passed h ok => exact .released h ok

namespace World

variable {σ : Type}

/-- The calls of an object so far. -/
def calls (w : World σ) (o : ObjectId) : List Event :=
  (w.journal.filter (Event.concerns o)).reverse

/-- How far an object has come, if it is there. -/
def stage? (w : World σ) (o : ObjectId) : Option Stage :=
  (w.objects[o]?).map AlgorithmObject.stage

/-- Every object makes a passage from one world to the other. -/
def Evolves (w w' : World σ) : Prop :=
  ∀ o, ∃ t, w'.calls o = w.calls o ++ t ∧ Passage o (w.stage? o) (w'.stage? o) t

theorem Evolves.refl (w : World σ) : w.Evolves w := fun o => ⟨[], by simp, .refl o _⟩

theorem Evolves.trans {w₁ w₂ w₃ : World σ} (h₁ : w₁.Evolves w₂) (h₂ : w₂.Evolves w₃) :
    w₁.Evolves w₃ := by
  intro o
  obtain ⟨t₁, e₁, p₁⟩ := h₁ o
  obtain ⟨t₂, e₂, p₂⟩ := h₂ o
  exact ⟨t₁ ++ t₂, by rw [e₂, e₁, List.append_assoc], p₁.trans p₂⟩

/-- Nothing happens to objects between worlds with the same calls and the same objects. -/
theorem Evolves.of_eq {w w' : World σ} (hc : ∀ o, w'.calls o = w.calls o)
    (hs : ∀ o, w'.stage? o = w.stage? o) : w.Evolves w' := fun o =>
  ⟨[], by simp [hc], by rw [hs]; exact .refl o _⟩

/-- The world after one more event. -/
def note (w : World σ) (e : Event) : World σ := { w with journal := e :: w.journal }

@[simp] theorem journal_note (w : World σ) (e : Event) : (w.note e).journal = e :: w.journal := rfl

theorem calls_note (w : World σ) (e : Event) (o : ObjectId) :
    (w.note e).calls o = w.calls o ++ if e.concerns o then [e] else [] := by
  unfold calls note
  cases h : e.concerns o <;> simp [h]

end World

end ImageDispatch
