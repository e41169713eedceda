import ImageDispatch.Proofs.Lifetime.Plain

/-!
# Triples of creating

A created object sees its initialization (`Tidy.instantiate`). If that goes well the running call
holds the object, and if not the object is never called again.
-/

namespace ImageDispatch

open Act World

variable {σ α : Type}

/-- What a running call holds after a creation. -/
def gained : Except Error ObjectId → List Ref
  | .ok o => [.object o]
  | .error _ => []

namespace Host.Tidy

variable {host : Host σ} (ht : host.Tidy)

include ht

/-- The initialization of a new object. It goes on as it is if that fails. -/
theorem init {w : World σ} (hw : w.Orderly) (object : AlgorithmObject)
    (hs : object.stage = .starting) (code : σ → Foreign σ (Except Error Unit)) :
    let o := w.objects.size
    let x := host.invoke o .init Except.isOk code
      { w with objects := w.objects.push object }
    x.2.Orderly ∧ x.2.pins = w.pins ∧ x.2.stage? o = some .starting ∧
      ∀ v : World σ, (∀ o', v.calls o' = x.2.calls o') →
        (∀ o', o' ≠ o → v.stage? o' = x.2.stage? o') →
        v.stage? o = some (if x.1.isOk then .live else .starting) → w.Evolves v := by
  intro o x
  have hs₁ := stage?_push w object
  have hw₁ : ({ w with objects := w.objects.push object : World σ }.note
      (.began o .init)).Orderly := (hw.create hs).same rfl rfl rfl rfl rfl
  obtain ⟨hw₂, hp₂, he⟩ := ht.runForeign [] code hw₁ rfl
  -- An object that is starting makes no passage but to stay as it is, so nothing that the
  -- initialization leads to can call it.
  have stays : ∀ t, Passage o (some .starting) (x.2.stage? o) t →
      x.2.stage? o = some .starting ∧ t = [] := by
    intro t hpass
    cases h : x.2.stage? o <;> rw [h] at hpass <;> cases hpass
    exact ⟨rfl, rfl⟩
  have hstart : World.stage? { w with objects := w.objects.push object } o = some .starting := by
    rw [hs₁, if_pos rfl, hs]
  obtain ⟨t, -, hpass⟩ := he o
  refine ⟨hw₂.same rfl rfl rfl rfl rfl, hp₂, (stays t (hstart ▸ hpass)).1, fun v hc hs' hv => ?_⟩
  refine he.around (fun _ => rfl) (fun o' hne => by rw [hs₁, if_neg hne]) hc hs' fun t hpass => ?_
  rw [hstart] at hpass
  obtain ⟨-, rfl⟩ := stays t hpass
  rw [stage?_size, hv]
  have first : ∀ ok : Bool, Passage o none (some (if ok then .live else .starting))
      [.began o .init, .ended o .init ok]
    | false => .refused
    | true => .born .nil
  exact first _

/-- A new object is initialized. The running call holds it afterwards, unless that fails. -/
theorem instantiate (s : Selection) :
    Triple [] (host.instantiate s) gained := by
  unfold Host.instantiate
  refine (ht.runForeign [] _).bind fun token => ?_
  cases token with
  | none =>
    exact (log_triple [] _ _).bind fun _ => (count_triple [] _).bind fun _ =>
      .ret_of gained rfl
  | some token =>
    intro w ps hw hp
    have hadd : addObject s.info token w = (w.objects.size, { w with
        objects := w.objects.push ⟨s.info, token, .starting⟩ }) := rfl
    have hinit := ht.init hw ⟨s.info, token, .starting⟩ rfl (host.env.code.init token)
    dsimp only at hinit ⊢
    rw [bind_run, hadd, bind_run]
    generalize host.invoke _ _ _ _ _ = x at hinit ⊢
    obtain ⟨r, w₁⟩ := x
    obtain ⟨hw₁, hp₁, hs₁, he⟩ := hinit
    cases r with
    | error e =>
      have h : w.Reaches ps w₁ := ⟨hw₁, hp₁.trans hp, he w₁ (fun _ => rfl) (fun _ _ => rfl) hs₁⟩
      exact ((log_triple [] _ _).bind fun _ => (count_triple [] _).bind fun _ =>
        .ret_of gained rfl).follow h
    | ok =>
      have hs := stage?_modify w₁ w.objects.size
      have h : w.Reaches (.object w.objects.size :: ps) (enliven w.objects.size w₁).2 :=
        ⟨hw₁.enliven (by simp [hs₁]), congrArg _ (hp₁.trans hp), he _ (fun _ => rfl)
          (fun o' hne => (hs o' .live _).trans (if_neg hne))
          ((hs _ .live _).trans (by rw [if_pos rfl, hs₁]; rfl))⟩
      exact ((count_triple [.object _] _).bind fun _ => (log_triple _ _ _).bind fun _ =>
        .ret_of gained rfl).follow h

theorem create (q : Query) :
    Triple [] (host.create q) gained := by
  unfold Host.create
  refine ((host.find_plain q).triple ht []).bind fun s => ?_
  cases s with
  | none => exact .ret_of gained rfl
  | some s => exact ht.instantiate s

end Host.Tidy

end ImageDispatch
