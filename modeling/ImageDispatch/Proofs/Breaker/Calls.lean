import ImageDispatch.Proofs.Attempts.Provenance
import ImageDispatch.Proofs.Breaker.Tally

/-!
# Calls of contrast enhancers

* `Host.Resolves`: what comes of a look for an implementation. It is served from the cache, refused
  without a query, or created.
* `Host.ContrastCall`: a whole call.
* `Host.Relaying`: whatever is not such a call leaves the creations of a contrast enhancer to code
  of others.
* `contrast_breaker`: runs of clients, requests of code of others, and calls, of every dispatcher
  that does not give up only when no number is left.
-/

namespace ImageDispatch

open Act World

variable {σ : Type}

namespace Host

variable {host : Host σ} {f : FacadeId} {t : UInt32} {w w' : World σ} {facade : Facade}

/-! ## Looking for an implementation -/

/-- What comes of a look of a contrast enhancer for the implementation for a kind. -/
inductive Resolves (host : Host σ) (f : FacadeId) (facade : Facade) (k : ContrastKind)
    (w : World σ) : Except Error ObjectId × World σ → Prop
  /-- What is cached is served. -/
  | served {o : ObjectId} (hget : ((facade.cache .main).get (.contrast k)).1 = some o) :
    Resolves host f facade k w (.ok o, (pin (.object o) ((w.note (.sought f)).withCache f .main
      ((facade.cache .main).get (.contrast k)).2)).2)
  /-- Creation has been given up. -/
  | disabled (hget : ((facade.cache .main).get (.contrast k)).1 = none)
    (hd : facade.breaker.isDisabled host.env.config.failureThreshold = true) :
    Resolves host f facade k w
      (.error (.creationDisabled FacadeKind.contrast.family), w.note (.sought f))
  /-- A creation is under way. -/
  | busy (hget : ((facade.cache .main).get (.contrast k)).1 = none)
    (hd : facade.breaker.isDisabled host.env.config.failureThreshold = false)
    (hc : facade.breaker.creating = true) :
    Resolves host f facade k w (.error .tryLater, (w.note (.sought f)).note
      (.log .debug s!"{FacadeKind.contrast.family} creation in progress elsewhere"))
  /-- An implementation is created, which bars the façade from creating another one meanwhile. How
  that ends is counted. -/
  | created {x : Except Error ObjectId × World σ}
    (hget : ((facade.cache .main).get (.contrast k)).1 = none)
    (hd : facade.breaker.isDisabled host.env.config.failureThreshold = false)
    (hc : facade.breaker.creating = false)
    (hattempt : host.Attempted host.env.config.failureThreshold f k facade.breaker.start
      (outcomes f w.journal) w (Host.modifyBreaker f Breaker.start (w.note (.sought f))).2 x)
    (hcounts : Counts host.env.config.failureThreshold f
      ⟨if x.1.isOk then 0 else facade.breaker.failures + 1, false⟩
      (x.1.isOk :: outcomes f w.journal) w (Host.modifyBreaker f Breaker.stop x.2).2) :
    Resolves host f facade k w (x.1, (Host.modifyBreaker f Breaker.stop x.2).2)

section

variable (hm : host.Making (World.Heeds host.env.config.failureThreshold f))
  (hlt : host.env.config.failureThreshold.toNat + 1 < UInt32.size)

include hm hlt

theorem resolveContrast_resolves (hw : w.Tallied host.env.config.failureThreshold f)
    (hf : w.facade? f = some facade) (hk : facade.kind = .contrast) (k : ContrastKind) :
    host.Resolves f facade k w (host.resolveContrast f k w) := by
  cases hget : ((facade.cache .main).get (.contrast k)).1 with
  | some o =>
    rw [resolveContrast_cached hf hget]
    exact .served hget
  | none =>
    cases hd : facade.breaker.isDisabled host.env.config.failureThreshold with
    | true =>
      rw [resolveContrast_uncached hf hget, if_pos hd]
      exact .disabled hget hd
    | false =>
      cases hc : facade.breaker.creating with
      | true =>
        rw [resolveContrast_uncached hf hget, if_neg (by rw [hd]; nofun), if_pos hc]
        exact .busy hget hd hc
      | false =>
        have hfree : ¬facade.breaker.Locked host.env.config.failureThreshold := by
          simp [Breaker.Locked, hd, hc]
        obtain ⟨x, hx, hattempt, hcounts⟩ :=
          hm.resolveContrast_attempted hlt rfl hw hf hk hget hfree
        rw [hx]
        exact .created hget hd hc hattempt hcounts

/-! ## Whole calls -/

omit hm hlt in
theorem runContrast_run (k : ContrastKind) (job : Job) :
    host.runContrast f k job w = match host.resolveContrast f k w with
      | (.error e, v) => ((.error e, job), v)
      | (.ok o, v) => host.employ o ((v.facade? f).bind Facade.parameter) job v := by
  unfold runContrast
  rw [bind_run]
  cases host.resolveContrast f k w with
  | mk r v => cases r <;> rfl

/-- The world after the span of a call was opened. -/
def spanned (host : Host σ) (kind : FacadeKind) (task : Task) (w : World σ) : World σ :=
  { w with journal := host.callSpan kind task ++ w.journal }

/-- A call of a contrast enhancer for a kind, that begins in `w`. -/
structure ContrastCall (host : Host σ) (f : FacadeId) (facade : Facade) (k : ContrastKind)
    (task : Task) (w : World σ) : Prop where
  /-- Nothing comes of surfaces that are not valid. -/
  invalid : ∀ e, task.job.validate = .error e →
    host.process f task w = (.worked (.error e) task.job, host.spanned .contrast task w)
  /-- For valid ones the façade looks for an implementation. -/
  resolves : task.job.validate = .ok () →
    host.Resolves f facade k (host.openCall f .contrast task w).2
      (host.resolveContrast f k (host.openCall f .contrast task w).2)
  /-- If it has none, and cannot create one, then the call only tells so. -/
  barred : task.job.validate = .ok () →
    ((facade.cache .main).get (.contrast k)).1 = none →
    facade.breaker.Locked host.env.config.failureThreshold →
    host.process f task w =
      if facade.breaker.isDisabled host.env.config.failureThreshold then
        (.worked (.error (.creationDisabled FacadeKind.contrast.family)) task.job,
          (host.spanned .contrast task w).note (.sought f))
      else
        (.worked (.error .tryLater) task.job,
          ((host.spanned .contrast task w).note (.sought f)).note
            (.log .debug s!"{FacadeKind.contrast.family} creation in progress elsewhere"))
  /-- Without an implementation the call fails as its creation does. -/
  failed : task.job.validate = .ok () → ∀ e v,
    host.resolveContrast f k (host.openCall f .contrast task w).2 = (.error e, v) →
      host.process f task w =
          (.worked (.error e) task.job, (host.unpin (.facade f) v).2) ∧
        host.Relays f v (host.process f task w).2
  /-- An implementation takes the parameter of the façade and does its work, or fails. Both have
  nothing to do with creations. -/
  worked : task.job.validate = .ok () → ∀ o v,
    host.resolveContrast f k (host.openCall f .contrast task w).2 = (.ok o, v) →
      let done := host.employ o ((v.facade? f).bind Facade.parameter) task.job v
      host.process f task w =
          (.worked done.1.1 done.1.2, (host.unpin (.facade f) done.2).2) ∧
        host.Relays f v (host.process f task w).2

theorem contrastCall (hw : w.Tallied host.env.config.failureThreshold f)
    (hf : w.facade? f = some facade) (hk : facade.kind = .contrast)
    (hr : w.refersTo (.facade f) = true) (k : ContrastKind) (input output : Surface) :
    host.ContrastCall f facade k (.contrast k input output) w := by
  generalize htask : Task.contrast k input output = task
  have hd : facade.kind.does task = true := by rw [hk, ← htask]; rfl
  have hthere : (host.openCall f .contrast task w).2.facade? f = some facade :=
    (openCall_facade? _ _ _).trans hf
  have hopen : w.Heeds host.env.config.failureThreshold f (host.openCall f .contrast task w).2 := by
    unfold openCall
    rw [bind_run]
    refine Lawful.head (.pin (r := .facade f) (.inl (by rw [hf]; nofun))) ?_
    split
    · exact Lawful.move (.note trivial)
    · exact Lawful.refl _
  have hvalid (hv : task.job.validate = .ok ()) : host.process f task w = _ :=
    host.process_valid hf hd hv
  have hdispatch (v : World σ) : host.dispatch f .contrast task v =
      host.runContrast f k task.job v := by rw [← htask]; rfl
  rw [hk] at hvalid
  refine
    { invalid := fun e hv => ?_
      resolves := fun hv => resolveContrast_resolves hm hlt (hopen hw).tallied hthere hk k
      barred := fun hv hget hb => ?_
      failed := fun hv e v hx => ?_
      worked := fun hv o v hx => ?_ }
  · rw [process_invalid hf hd hv, hk, unpin_openCall hr hf]
    rfl
  · rw [hvalid hv, hdispatch, runContrast_run, resolveContrast_uncached hthere hget, openCall_run]
    by_cases hdisabled : facade.breaker.isDisabled host.env.config.failureThreshold = true
    · rw [if_pos hdisabled, if_pos hdisabled]
      exact congrArg _ (unpin_held hr hf _)
    · rw [if_neg hdisabled, if_neg hdisabled, if_pos (hb.resolve_left hdisabled)]
      exact congrArg _ (unpin_held hr hf _)
  · rw [hvalid hv, hdispatch, runContrast_run, hx]
    exact ⟨rfl, (Relays.making host f).unpin (.facade f) v⟩
  · rw [hvalid hv, hdispatch, runContrast_run, hx]
    have hmaking := Relays.making host f
    exact ⟨rfl, Lawful.trans (hmaking.employ o _ _ v) (hmaking.unpin (.facade f) _)⟩

end

/-! ## Whatever else is asked for -/

/-- Where the façade is a contrast enhancer that counts right, nothing but requests of code of
others has to do with its creations. -/
def Relaying (host : Host σ) (t : UInt32) (f : FacadeId) (w w' : World σ) : Prop :=
  w.Tallied t f → w.OfKind (· = .contrast) f → host.Relays f w w'

namespace Relaying

theorem lawful (hm : host.Making (World.Heeds t f)) :
    Lawful (.beside f) (host.Relaying t f) where
  refl _ _ _ := .refl
  trans h h' ht hk := by
    have hfirst := h ht hk
    have hstep := hfirst.heeds hm ht
    exact hfirst.trans (h' hstep.tallied (hk.moves hstep.moves))
  move h _ _ := .single (.inl h)

theorem making : host.Making (host.Relaying t f) := fun r _ _ _ => .single (.inr ⟨r, rfl⟩)

end Relaying

section

variable (hm : host.Making (World.Heeds t f))

include hm

theorem Making.process_relaying {g : FacadeId} {task : Task}
    (h : ∀ k input output, g = f → task ≠ .contrast k input output) :
    Made (host.Relaying t f) (host.process g task) := by
  have := Relaying.lawful hm
  by_cases hg : g = f
  · intro w _ hk
    have hrefused : ∀ facade, w.facade? g = some facade → facade.kind.does task = false := by
      intro facade hf
      have hkind : facade.kind = .contrast := hk.kind facade (hg ▸ hf)
      rw [hkind]
      cases task with
      | contrast k input output => exact absurd rfl (h k input output hg)
      | _ => rfl
    rw [process_refused hrefused]
    exact .refl
  · exact Relaying.making.process hg trivial task

/-- Only calls of a contrast enhancer have to do with its creations. -/
theorem Making.answer_relaying {r : Request}
    (h : ∀ k input output, r ≠ .process f (.contrast k input output)) :
    Made (host.Relaying t f) (host.answer r) := by
  have := Relaying.lawful hm
  refine Relaying.making.answer rfl r fun g task hr => hm.process_relaying ?_
  rintro k input output rfl rfl
  exact h k input output hr

/-- So it is for clients, who cannot make such calls from C. -/
theorem Making.take_relaying (settings : Option (String → Option String)) {step : ClientStep}
    (h : ∀ k input output, step ≠ .ask (.process f (.contrast k input output))) :
    Made (host.Relaying t f) (step.take host settings) := by
  have := Relaying.lawful hm
  refine step.made Relaying.making rfl settings fun g task hwork => hm.process_relaying ?_
  rintro k input output rfl rfl
  cases step with
  | ask r => exact h k input output (congrArg _ hwork)
  | processImage family =>
    obtain ⟨source, target, htask⟩ := hwork
    cases family <;> cases htask
  | _ => exact hwork

end

/-! ## All that a dispatcher does -/

/-- How a dispatcher keeps the creations of a contrast enhancer in check. -/
structure Guards (host : Host σ) (f : FacadeId) : Prop where
  /-- On requests contrast enhancers count right, and are left alone after they have given creation
  up, or while they create. -/
  answers : ∀ r, Made (World.Heeds host.env.config.failureThreshold f) (host.answer r)
  /-- So it is until any moment at which code of others runs or makes a request. -/
  meanwhile : ∀ {w v}, host.Relays f w v → w.Heeds host.env.config.failureThreshold f v
  /-- Requests that are no calls of the façade do not create anything for it. -/
  others : ∀ {r}, (∀ k input output, r ≠ .process f (.contrast k input output)) →
    Made (host.Relaying host.env.config.failureThreshold f) (host.answer r)
  /-- Nor do other steps of clients. -/
  steps : ∀ settings {step : ClientStep},
    (∀ k input output, step ≠ .ask (.process f (.contrast k input output))) →
      Made (host.Relaying host.env.config.failureThreshold f) (step.take host settings)
  calls : ∀ {w facade} k input output, w.Tallied host.env.config.failureThreshold f →
    w.facade? f = some facade → facade.kind = .contrast → w.refersTo (.facade f) = true →
      host.ContrastCall f facade k (.contrast k input output) w

/-- It does so, if requests of code of others are right in the worlds that count right. -/
theorem Making.guards (hm : host.Making (World.Heeds host.env.config.failureThreshold f))
    (hlt : host.env.config.failureThreshold.toNat + 1 < UInt32.size) : host.Guards f where
  answers r := hm.answer rfl r fun g task _ => hm.process_heeds hlt rfl g task
  meanwhile h := h.heeds hm
  others h := hm.answer_relaying h
  steps settings _ h := hm.take_relaying settings h
  calls k input output hw hf hk hr := contrastCall hm hlt hw hf hk hr k input output

end Host

/-- Contrast enhancers of a dispatcher that gives up before its numbers end, with code of others
that does as it likes and comes back to the dispatcher.

* After every run of clients the count of failures is that since the last success, at most one more
  than is allowed, and nothing is being created. From there to any later moment a contrast enhancer
  that has given creation up keeps its count and what it has cached, and attempts nothing.
* At every depth the dispatcher keeps creations in check, for the clients and for code of others. So
  does every other one whose answers to code of others are right in the worlds that count right.
  What they are in other worlds does not matter, so that code of others runs in no other world. -/
theorem contrast_breaker (env : Environment σ)
    (hlt : env.config.failureThreshold.toNat + 1 < UInt32.size) (f : FacadeId) :
    let t := env.config.failureThreshold
    (∀ depth settings memory steps more,
      let w := World.after env depth settings memory steps
      (∀ facade, w.facade? f = some facade → facade.kind = .contrast →
        facade.breaker.failures.toNat = streak (outcomes f w.journal) ∧
          facade.breaker.failures.toNat ≤ t.toNat + 1 ∧ facade.breaker.creating = false) ∧
        w.Tallied t f ∧
        w.TalliedStep t f (World.after env depth settings memory (steps ++ more))) ∧
    (∀ host : Host σ, host.env = env → host.Making (World.Heeds t f) → host.Guards f) ∧
    ∀ depth, (Host.nested env depth).Making (World.Heeds t f) ∧
      (Host.nested env depth).Guards f := by
  intro t
  have guards (host : Host σ) (henv : host.env = env) (hm : host.Making (World.Heeds t f)) :
      host.Guards f := by
    subst henv
    exact hm.guards hlt
  refine ⟨fun depth settings memory steps more => ?_, guards, fun depth => ?_⟩
  · intro w
    have hrun : World.TalliedStep t f { memory := memory } w :=
      Host.run_heeds env hlt depth settings f steps _ (tallied_start memory)
    have hmore :
        World.TalliedStep t f w (World.after env depth settings memory (steps ++ more)) := by
      rw [World.after_append]
      exact Host.run_heeds env hlt depth settings f more _ hrun.tallied
    refine ⟨fun facade hf hk => ⟨hrun.tallied.count hf hk, ?_, ?_⟩, hrun.tallied, hmore⟩
    · rw [hrun.tallied.count hf hk]
      exact (hrun.tallied.paced hf hk).streak_le
    · exact hrun.idle (idle_start memory) facade hf hk
  · have hm := Host.nested_heeding env hlt f depth
    exact ⟨hm, guards _ (Host.nested_env env depth) hm⟩

/-- Where nothing can be created and one failure is allowed, creation is given up after the second
one, and the count stays. -/
theorem contrast_breaker_gives_up :
    let env : Environment Unit := { Environment.linked [] with config.failureThreshold := 1 }
    let surface := Surface.packed 1 1 .rgba8888
    let call := ClientStep.ask (.process 0 (.contrast .lut surface surface))
    let steps := [.ask (.facade .contrast), call, call]
    env.config.failureThreshold.toNat + 1 < UInt32.size ∧ ∃ w,
      World.after env 0 none () steps = w ∧
      (w.facade? 0).map (fun facade => (facade.kind, facade.breaker)) =
        some (.contrast, ⟨2, false⟩) ∧
      outcomes 0 w.journal = [false, false] ∧ w.Tallied 1 0 ∧
      w.TalliedStep 1 0 (World.after env 0 none () (steps ++ [call, call])) := by
  intro env surface call steps
  have hlt : env.config.failureThreshold.toNat + 1 < UInt32.size := by decide
  have hfacade : ((World.after env 0 none () steps).facade? 0).map
      (fun facade => (facade.kind, facade.breaker)) = some (.contrast, ⟨2, false⟩) := by
    decide +kernel
  have hended : outcomes 0 (World.after env 0 none () steps).journal = [false, false] := by
    decide +kernel
  obtain ⟨hruns, -⟩ := contrast_breaker env hlt 0
  obtain ⟨-, htallied, hstep⟩ := hruns 0 none () steps [call, call]
  exact ⟨hlt, _, rfl, hfacade, hended, htallied, hstep⟩

end ImageDispatch
