import ImageDispatch.Proofs.Lifetime.Entry
import ImageDispatch.Proofs.Selection.Find

/-!
# The whole life of algorithm objects

* `ClientStep`: what clients do with a dispatcher: requests, steps with the instance table, and the
  calls of callers in C. They come in any order, and the code of others may do as it likes.
* `ClientStep.triple`: a step keeps the world orderly if the dispatcher answers requests from
  within tidily, so the world is orderly whenever code of others runs.
* `whole_life`: what every object sees in a run, from its creation to its release.
-/

namespace ImageDispatch

open Act World

variable {σ : Type}

/-- What a client does. -/
inductive ClientStep
  /-- Ask something: make, use, share and drop façades and algorithms. -/
  | ask (r : Request)
  /-- Make a façade, and store it in the table. -/
  | enroll (kind : FacadeKind)
  /-- Share the façade behind an id. -/
  | share (id : Int32)
  /-- Take the façade of a family out of the table. -/
  | retire (id : Int32) (family : String)
  /-- Create an instance from C. -/
  | createInstance (family : InstanceFamily) (level : Int32) (pointer : Option Int32)
  /-- Let an instance work from C. -/
  | processImage (family : InstanceFamily) (id : Int32) (input output : Option ImageDescriptor)
  /-- Destroy an instance from C. -/
  | destroyInstance (family : InstanceFamily) (pointer : Option Int32)

/-- Shares the façade behind an id. -/
def shareInstance (id : Int32) : Act σ Unit := do
  match ← Host.lookUp id with
  | .error _ => return
  | .ok (f, _) => modify fun w => { w with held := .facade f :: w.held }

/-- Takes the step of a client. -/
def ClientStep.take (host : Host σ) (settings : Option (String → Option String)) :
    ClientStep → Act σ Unit
  | ask r => discard (host.answer r)
  | enroll kind => do
    let f ← host.makeFacade kind
    discard (host.enroll f kind.family)
  | share id => shareInstance id
  | retire id family => discard (host.retire id family)
  | createInstance family level pointer =>
    discard (host.createInstance (opening settings) family level pointer)
  | processImage family id input output =>
    discard (host.processImage (opening settings) family id input output)
  | destroyInstance family pointer =>
    discard (host.destroyInstance (opening settings) family pointer)

/-- A step keeps the world orderly, on any tidy dispatcher. -/
theorem ClientStep.triple {host : Host σ} (ht : host.Tidy)
    (settings : Option (String → Option String)) (step : ClientStep) :
    Triple [] (step.take host settings) fun _ => [] := by
  cases step with
  | ask r => exact (ht.answer r).map
  | enroll kind => exact (ht.makeFacade kind).bind fun f => (ht.enroll f _).map
  | share id =>
    refine ((host.lookUp_plain id).triple ht []).bind fun r => ?_
    split
    · exact .ret ()
    · exact fun w ps hw hp => ⟨hw.hold (by simp), hp, .of_eq (fun _ => rfl) fun _ => rfl⟩
  | retire id family => exact (ht.retire id family).map
  | createInstance family level pointer =>
    exact (ht.createInstance settings family level pointer).map
  | processImage family id input output =>
    exact (ht.processImage settings family id input output).map
  | destroyInstance family pointer => exact (ht.destroyInstance settings family pointer).map

/-- The world after steps of clients with a dispatcher that answers requests from within to a
depth. -/
def World.after (env : Environment σ) (depth : Nat) (settings : Option (String → Option String))
    (memory : σ) (steps : List ClientStep) : World σ :=
  ((steps.forM fun step => step.take (Host.nested env depth) settings) { memory }).2

/-- More steps go on where others have ended. -/
theorem World.after_append (env : Environment σ) (depth : Nat)
    (settings : Option (String → Option String)) (memory : σ) (steps more : List ClientStep) :
    World.after env depth settings memory (steps ++ more) =
      ((more.forM fun step => step.take (Host.nested env depth) settings)
        (World.after env depth settings memory steps)).2 := by
  have happend : (steps ++ more).forM (fun step => step.take (Host.nested env depth) settings) = _ :=
    List.forM_append
  unfold World.after
  rw [happend]
  rfl

theorem orderly_start (memory : σ) : World.Orderly { memory := memory } := by
  refine ⟨fun {o} h => ?_, fun {o} h => ?_, fun {f facade} h => ?_, fun {f facade} h => ?_⟩
  · rw [refersTo_iff] at h
    rcases h with h | h | ⟨f, facade, hf, -⟩
    · cases h
    · cases h
    · simp [World.facade?] at hf
  · simp [stage?] at h
  · simp [World.facade?] at h
  · simp [World.facade?] at h

/-- Where clients and running calls hold nothing that lives, and the table is empty, nothing
lives. -/
theorem World.OrderlyBut.not_live {w : World σ} (h : w.Orderly) (hheld : ∀ r ∈ w.held, r = .lease)
    (hp : w.pins = []) (ht : w.table.handles = []) (o : ObjectId) : w.stage? o ≠ some .live := by
  intro hlive
  have gone : ∀ f facade, w.facade? f ≠ some facade := by
    intro f facade hf
    rcases refersTo_iff.1 (h.facade_kept hf (by simp)) with hk | hk | hk
    · cases hheld _ hk
    · rw [hp] at hk; cases hk
    · rw [Stores, ht] at hk; cases hk
  rcases refersTo_iff.1 (h.kept_of_live hlive (by simp)) with hk | hk | ⟨f, facade, hf, -⟩
  · cases hheld _ hk
  · rw [hp] at hk; cases hk
  · exact gone f facade hf

theorem reaches_after (env : Environment σ) (depth : Nat)
    (settings : Option (String → Option String)) (memory : σ) (steps : List ClientStep) :
    World.Reaches { memory := memory } [] (World.after env depth settings memory steps) :=
  Triple.forM (fun step => step.triple (Host.nested_tidy env depth) settings) steps
    (orderly_start memory) rfl

/-- In every run of clients, with code of others that does as it likes and comes back to the
dispatcher to any depth, each object sees calls of one of two forms. Its initialization fails, and
that is all. Or it is initialized, works, and is released in the end, when nothing refers to it any
more: neither while a call of it is running, nor twice, and no call comes after that. When clients
have let everything go, no object lives. -/
theorem whole_life (env : Environment σ) (depth : Nat)
    (settings : Option (String → Option String)) (memory : σ) (steps : List ClientStep) :
    let w := World.after env depth settings memory steps
    (∀ o object, w.objects[o]? = some object → Life o object.stage (w.calls o)) ∧
      (∀ o, w.objects[o]? = none → w.calls o = []) ∧
      (∀ o, w.stage? o = some .live ↔ w.refersTo (.object o) = true) ∧
      w.pins = [] ∧
      ((∀ r ∈ w.held, r = .lease) → w.table.handles = [] →
        ∀ o object, w.objects[o]? = some object → w.calls o = refusal o ∨
          ∃ b ok, Work o b ∧ w.calls o = acceptance o ++ b ++ release o ok) := by
  intro w
  obtain ⟨hw, hp, he⟩ := reaches_after env depth settings memory steps
  have life : ∀ o object, w.objects[o]? = some object → Life o object.stage (w.calls o) := by
    intro o object ho
    obtain ⟨t, ht, hpass⟩ := he o
    rw [show World.stage? w o = some object.stage by rw [stage?, ho]; rfl] at hpass
    rw [show w.calls o = t from ht]
    exact hpass.life
  refine ⟨life, fun o ho => ?_, fun o => ⟨fun h => hw.kept_of_live h (by simp), hw.live_of_kept⟩,
    hp, fun hheld htable o object ho => ?_⟩
  · obtain ⟨t, ht, hpass⟩ := he o
    rw [show World.stage? w o = none by rw [stage?, ho]; rfl] at hpass
    rw [show w.calls o = t from ht]
    cases hpass
    rfl
  · have hlive := hw.not_live hheld hp htable o
    rw [show World.stage? w o = some object.stage by rw [stage?, ho]; rfl] at hlive
    have hlife := life o object ho
    generalize object.stage = s at hlife hlive
    generalize w.calls o = t at hlife ⊢
    cases hlife with
    | refused => exact .inl rfl
    | working => exact absurd rfl hlive
    | released h ok => exact .inr ⟨_, ok, h, rfl⟩

/-- A client creates an algorithm and drops it, and with it everything that clients hold. -/
theorem whole_life_dropped :
    let env := Environment.linked [⟨⟨.refreshRate, "plain", "1"⟩,
      .refresh [⟨(), .default, 7⟩], ⟨0⟩⟩]
    let w := World.after env 1 none () [.ask (.create .refresh), .ask (.drop (.object 0))]
    w.held = [] ∧ w.table.handles = [] ∧ w.stage? 0 = some .finished ∧
      (w.calls 0 = refusal 0 ∨
        ∃ b ok, Work 0 b ∧ w.calls 0 = acceptance 0 ++ b ++ release 0 ok) := by
  intro env w
  have hheld : w.held = [] := by decide +kernel
  have htable : w.table.handles = [] := by decide +kernel
  have hstage : w.stage? 0 = some .finished := by decide +kernel
  obtain ⟨object, ho, -⟩ := Option.map_eq_some_iff.1 hstage
  have h := whole_life env 1 none () [.ask (.create .refresh), .ask (.drop (.object 0))]
  exact ⟨hheld, htable, hstage, h.2.2.2.2 (by rw [hheld]; nofun) htable 0 object ho⟩

end ImageDispatch
