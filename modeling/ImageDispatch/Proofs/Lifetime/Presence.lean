import ImageDispatch.Proofs.Boundary.Outcome
import ImageDispatch.Proofs.Lifetime.Moves
import ImageDispatch.Proofs.Lifetime.Run

/-!
# What stays while a dispatcher works

* `Host.nested_moving`: whatever a dispatcher does that answers requests from within consists of
  moves. `ClientStep.made`: and so does whatever clients do with it.
* `World.Upheld`: who has a façade finds it there. `upheld_after`: that is so in every run of
  clients, also while it lasts (`World.Moves.upheld`).
* `World.Moves.object`: an object keeps its extension and its code.
* `World.Moves.facade`: a façade that is there keeps its kind, and it keeps its parameter as well if
  no request of code of others is answered. Clients hold what they held then (`World.Moves.held`).
-/

namespace ImageDispatch

open Act World

variable {σ : Type} {s : Scope} {R : World σ → World σ → Prop}

/-! ## Requests -/

namespace Host.Making

variable [hR : Lawful s R] {host : Host σ} (hm : host.Making R) (hfree : s.free = true)

include hR hfree

omit hm in
theorem setParameter (f : FacadeId) (p : Parameter) :
    Made R (Host.setParameter f p : Act σ Reply) := by
  intro w
  unfold Host.setParameter
  rw [facade?_run]
  cases hf : w.facade? f with
  | none => exact Lawful.refl w
  | some facade =>
    dsimp only
    split
    · cases ha : facade.accept p with
      | error e => exact Lawful.refl w
      | ok facade' =>
        obtain rfl := Facade.accept_ok ha
        refine Lawful.move (.change f (fun _ h => ?_) (fun hno => ?_) (.inr fun _ h => ?_))
        · cases hf.symm.trans h
          rfl
        · rw [hfree] at hno
          cases hno
        · cases hf.symm.trans h
          exact ⟨rfl, rfl⟩
    · exact Lawful.refl w

omit hm in
theorem hold (r : Ref) : Made R (Host.hold r : Act σ Reply) := by
  intro w
  show R w ((if w.held.contains r ∧ r ≠ .lease then _ else _ : Act σ Reply) w).2
  by_cases h : w.held.contains r ∧ r ≠ .lease
  · rw [if_pos h]
    have hfinds : w.Finds r := by
      cases r with
      | facade f => exact .inr (refersTo_iff.2 (.inl (List.contains_iff_mem.1 h.1)))
      | _ => trivial
    exact Lawful.move (.hold hfree hfinds)
  · rw [if_neg h]
    exact Lawful.refl w

omit hm in
/-- What is there is handed over. -/
theorem handOver {w : World σ} {r : Ref} (h : w.Finds r) : R w (Host.handOver r w).2 :=
  Lawful.head (.hold hfree h) (Lawful.move (.unpin r))

include hm

theorem drop (r : Ref) : Made R (host.drop r) := by
  unfold Host.drop
  refine .read fun w => ?_
  split
  · exact Made.bind (.one fun _ => .unhold hfree _) fun _ => (hm.settle r).bind fun _ => .ret _
  · exact .ret _

theorem takeLease : Made R host.takeLease :=
  hm.increase.bind fun _ => Made.bind (.emit _ trivial) fun _ => .one fun _ => .hold hfree trivial

/-- What a dispatcher does on a request is of a kind, if what façades do on it is. -/
theorem answer (r : Request)
    (hprocess : ∀ f task, r = .process f task → Made R (host.process f task)) :
    Made R (host.answer r) := by
  cases r with
  | facade kind =>
    intro w
    obtain ⟨facade, hthere, -⟩ := makeFacade_there host kind w
    have hfinds : (host.makeFacade kind w).2.Finds (.facade (host.makeFacade kind w).1) :=
      .inl (by rw [hthere]; nofun)
    exact Lawful.trans (hm.makeFacade kind w) (handOver hfree hfinds)
  | lease => exact (hm.takeLease hfree).bind fun _ => .ret _
  | hold r => exact hold hfree r
  | drop r => exact hm.drop hfree r
  | set f p => exact setParameter hfree f p
  | process f task => exact hprocess f task rfl
  | find q => exact (hm.plain (host.find_plain q)).bind fun _ => .ret _
  | create q =>
    refine (hm.create q).bind fun r => ?_
    cases r with
    | ok o => exact Made.bind (fun w => handOver hfree trivial) fun _ => .ret _
    | error e => exact .ret _
  | direct o call => exact hm.direct o call
  | load family static dynamic =>
    exact (hm.plain (host.load_plain family static dynamic)).bind fun _ => .ret _
  | increase => exact hm.increase.bind fun _ => Made.bind (.emit _ trivial) fun _ => .ret _
  | decrease => exact Made.bind (.emit _ trivial) fun _ => hm.decrease.bind fun _ => .ret _

end Host.Making

/-- A dispatcher that answers no request of code of others does nothing for them. -/
theorem Host.making_zero [hR : Lawful s R] (env : Environment σ) :
    (Host.nested env 0).Making R := fun _ => .ret _

theorem Host.nested_moving (env : Environment σ) :
    (depth : Nat) → (Host.nested env depth).Moving true
  | 0 => making_zero env
  | depth + 1 => fun r =>
    have hm : (Host.nested env depth).Making (Moves true) := nested_moving env depth
    hm.answer rfl r fun _ task _ => hm.process trivial trivial task

/-! ## Façades that something has -/

namespace World

variable {w w' : World σ}

/-- Who has a façade finds it there. -/
def Upheld (w : World σ) : Prop := ∀ f, w.refersTo (.facade f) = true → w.facade? f ≠ none

theorem Upheld.finds (h : w.Upheld) {f : FacadeId} (hf : w.Finds (.facade f)) :
    w.facade? f ≠ none := hf.elim id (h f)

/-- No façade goes away, and who has one had it before or found it. -/
theorem Upheld.mono (h : w.Upheld) (hf : ∀ f, w'.facade? f = none → w.facade? f = none)
    (hr : ∀ f, w'.refersTo (.facade f) = true → w.Finds (.facade f)) : w'.Upheld :=
  fun f hr' hnone => h.finds (hr f hr') (hf f hnone)

theorem upheld_start (memory : σ) : Upheld { memory := memory } := by
  intro f h
  rcases refersTo_iff.1 h with h | h | h
  · cases h
  · cases h
  · rw [Stores, InstanceTable.handles_empty] at h
    cases h

namespace Move

theorem upheld (h : w.Move s w') (hu : w.Upheld) : w'.Upheld := by
  -- What a move adds to the holders of a façade was found there.
  have held : ∀ {f}, .facade f ∈ w.held → w.Finds (.facade f) := fun hm =>
    .inr (refersTo_iff.2 (.inl hm))
  have pins : ∀ {f}, .facade f ∈ w.pins → w.Finds (.facade f) := fun hm =>
    .inr (refersTo_iff.2 (.inr (.inl hm)))
  have table : ∀ {f}, f ∈ w.table.handles → w.Finds (.facade f) := fun hm =>
    .inr (refersTo_iff.2 (.inr (.inr hm)))
  cases h with
  | note => exact hu.mono (fun _ => id) fun f hr => .inr hr
  | same h =>
    refine hu.mono (fun f => ?_) fun f hr => .inr ?_
    · rw [facade?, facade?, h.facades]; exact id
    · rw [refersTo_iff, h.held, h.pins, Stores, h.table] at hr
      exact refersTo_iff.2 hr
  | count => exact hu.mono (fun _ => id) fun f hr => .inr hr
  | pin hfound =>
    refine hu.mono (fun _ => id) fun f hr => ?_
    rcases refersTo_iff.1 hr with hr | hr | hr
    · exact held hr
    · rcases List.mem_cons.1 hr with rfl | hr
      · exact hfound
      · exact pins hr
    · exact table hr
  | unpin r =>
    refine hu.mono (fun _ => id) fun f hr => ?_
    rcases refersTo_iff.1 hr with hr | hr | hr
    · exact held hr
    · exact pins (List.mem_of_mem_erase hr)
    · exact table hr
  | hold _ hfound =>
    refine hu.mono (fun _ => id) fun f hr => ?_
    rcases refersTo_iff.1 hr with hr | hr | hr
    · rcases List.mem_cons.1 hr with rfl | hr
      · exact hfound
      · exact held hr
    · exact pins hr
    · exact table hr
  | unhold _ r =>
    refine hu.mono (fun _ => id) fun f hr => ?_
    rcases refersTo_iff.1 hr with hr | hr | hr
    · exact held (List.mem_of_mem_erase hr)
    · exact pins hr
    · exact table hr
  | tabulate hfound =>
    refine hu.mono (fun _ => id) fun f hr => ?_
    rcases refersTo_iff.1 hr with hr | hr | hr
    · exact held hr
    · exact pins hr
    · exact hfound f hr
  | create => exact hu.mono (fun _ => id) fun f hr => .inr (refersTo_iff.2 (refersTo_iff.1 hr))
  | stage => exact hu.mono (fun _ => id) fun f hr => .inr (refersTo_iff.2 (refersTo_iff.1 hr))
  | change f hk hp ho =>
    refine hu.mono (fun g hg => ?_) fun g hr => .inr (refersTo_iff.2 (refersTo_iff.1 hr))
    rw [facade?_modify] at hg
    split at hg
    next he => rw [he]; exact Option.map_eq_none_iff.1 hg
    · exact hg
  | found kind policy =>
    intro g hr
    rw [facade?_push]
    split
    · exact Option.some_ne_none _
    next hne =>
      refine hu.finds ?_
      rcases refersTo_iff.1 hr with hr | hr | hr
      · exact held hr
      · exact pins ((List.mem_cons.1 hr).resolve_left fun he => hne (Ref.facade.inj he))
      · exact table hr
  | @dismantle f facade hf hnone =>
    intro g hr
    have hr' : w.refersTo (.facade g) = true := by
      rcases refersTo_iff.1 hr with hr | hr | hr
      · exact refersTo_iff.2 (.inl hr)
      · exact refersTo_iff.2 (.inr (.inl ((List.mem_append.1 hr).resolve_left (by simp))))
      · exact refersTo_iff.2 (.inr (.inr hr))
    rw [facade?_remove, if_neg]
    · exact hu g hr'
    · rintro rfl
      exact Bool.false_ne_true (hnone.symm.trans hr')

/-- An object keeps its extension and its code. -/
theorem object (h : w.Move s w') {o : ObjectId} {object : AlgorithmObject}
    (ho : w.objects[o]? = some object) :
    ∃ stage, w'.objects[o]? = some { object with stage } := by
  cases h with
  | same h => exact ⟨object.stage, by rw [h.objects]; exact ho⟩
  | create new =>
    refine ⟨object.stage, ?_⟩
    rw [Array.getElem?_push, if_neg, ho]
    rintro rfl
    simp at ho
  | stage o' stage =>
    by_cases he : o' = o
    · subst he
      exact ⟨stage, by simp [Array.getElem?_modify, ho]⟩
    · exact ⟨object.stage, by simp [Array.getElem?_modify, he, ho]⟩
  | _ => exact ⟨object.stage, ho⟩

/-- A façade that was made before, and is there, was there. It keeps its kind, and its parameter
unless parameters may be set. -/
theorem facade (h : w.Move s w') {f : FacadeId} (hlt : f < w.facades.size) :
    f < w'.facades.size ∧ ∀ facade', w'.facade? f = some facade' →
      ∃ facade, w.facade? f = some facade ∧ facade'.kind = facade.kind ∧
        (s.free = false → facade'.parameter = facade.parameter) := by
  cases h with
  | same h =>
    refine ⟨by rw [h.facades]; exact hlt, fun facade' hf => ⟨facade', ?_, rfl, fun _ => rfl⟩⟩
    rw [facade?, ← h.facades]
    exact hf
  | change g hk hp ho =>
    refine ⟨by simpa using hlt, fun facade' hf => ?_⟩
    rw [facade?_modify] at hf
    split at hf
    next he =>
      obtain ⟨facade, hfacade, rfl⟩ := Option.map_eq_some_iff.1 hf
      exact ⟨facade, he ▸ hfacade, hk facade hfacade, fun hfree => hp hfree facade⟩
    · exact ⟨facade', hf, rfl, fun _ => rfl⟩
  | found kind policy =>
    refine ⟨by simpa using Nat.lt_succ_of_lt hlt, fun facade' hf => ?_⟩
    rw [facade?_push, if_neg (Nat.ne_of_lt hlt)] at hf
    exact ⟨facade', hf, rfl, fun _ => rfl⟩
  | dismantle =>
    refine ⟨by simpa using hlt, fun facade' hf => ?_⟩
    rw [facade?_remove] at hf
    split at hf
    · cases hf
    · exact ⟨facade', hf, rfl, fun _ => rfl⟩
  | _ => exact ⟨hlt, fun facade' hf => ⟨facade', hf, rfl, fun _ => rfl⟩⟩

/-- Only clients change what they hold. -/
theorem held (h : w.Move s w') (hs : s.free = false) : w'.held = w.held := by
  cases h with
  | same h => exact h.held
  | hold hfree => rw [hs] at hfree; cases hfree
  | unhold hfree => rw [hs] at hfree; cases hfree
  | _ => rfl

/-- What was noted stays. -/
theorem journal (h : w.Move s w') : w.journal <:+ w'.journal := by
  cases h with
  | @note e => exact List.suffix_cons e w.journal
  | same h => exact ⟨[], h.journal.symm⟩
  | _ => exact List.suffix_rfl

end Move

namespace Moves

theorem upheld (h : w.Moves s w') (hu : w.Upheld) : w'.Upheld := by
  induction h with
  | refl => exact hu
  | tail _ hm ih => exact hm.upheld ih

/-- An object keeps its extension and its code. -/
theorem object (h : w.Moves s w') {o : ObjectId} {object : AlgorithmObject}
    (ho : w.objects[o]? = some object) :
    ∃ stage, w'.objects[o]? = some { object with stage } := by
  induction h with
  | refl => exact ⟨object.stage, ho⟩
  | tail _ hm ih =>
    obtain ⟨stage, hs⟩ := ih
    have hnext := hm.object hs
    exact hnext

/-- Followed backwards, a façade that was made before was there all the time. -/
theorem back (h : w.Moves s w') {f : FacadeId} (hlt : f < w.facades.size) :
    f < w'.facades.size ∧ ∀ facade', w'.facade? f = some facade' →
      ∃ facade, w.facade? f = some facade ∧ facade'.kind = facade.kind ∧
        (s.free = false → facade'.parameter = facade.parameter) := by
  induction h with
  | refl => exact ⟨hlt, fun facade' hf' => ⟨facade', hf', rfl, fun _ => rfl⟩⟩
  | tail _ hm ih =>
    obtain ⟨hlt', hback⟩ := hm.facade ih.1
    refine ⟨hlt', fun facade' hf' => ?_⟩
    obtain ⟨facade₁, hf₁, hkind, hparameter⟩ := hback facade' hf'
    obtain ⟨facade, hf, hkind₁, hparameter₁⟩ := ih.2 facade₁ hf₁
    exact ⟨facade, hf, hkind.trans hkind₁,
      fun hfree => (hparameter hfree).trans (hparameter₁ hfree)⟩

/-- A façade that is still there has kept its kind, and its parameter unless parameters may be
set. -/
theorem facade (h : w.Moves s w') {f : FacadeId} {facade facade' : Facade}
    (hf : w.facade? f = some facade) (hf' : w'.facade? f = some facade') :
    facade'.kind = facade.kind ∧ (s.free = false → facade'.parameter = facade.parameter) := by
  obtain ⟨facade₀, hf₀, hkept⟩ := (h.back (facade?_lt hf)).2 facade' hf'
  obtain rfl : facade = facade₀ := Option.some.inj (hf.symm.trans hf₀)
  exact hkept

theorem held (h : w.Moves s w') (hs : s.free = false) : w'.held = w.held := by
  induction h with
  | refl => rfl
  | tail _ hm ih => exact (hm.held hs).trans ih

theorem journal (h : w.Moves s w') : w.journal <:+ w'.journal := by
  induction h with
  | refl => exact List.suffix_rfl
  | tail _ hm ih => exact ih.trans hm.journal

end Moves

end World

/-! ## Clients -/

namespace Host.Making

variable [hR : Lawful s R] {host : Host σ} (hm : host.Making R)

include hR hm

/-- A façade that is there is stored, or let go if the table is full. -/
theorem enroll {w : World σ} {f : FacadeId} (hf : w.Finds (.facade f)) (family : String) :
    R w (host.enroll f family w).2 := by
  unfold Host.enroll
  rw [get_run]
  cases hi : w.table.insert f with
  | error e => exact ((Made.log _ _).bind fun _ => (hm.unpin (.facade f)).bind fun _ => .ret _) w
  | ok x =>
    obtain ⟨id, table⟩ := x
    have hfound : ∀ g ∈ table.handles, w.Finds (.facade g) := fun g hg =>
      ((InstanceTable.mem_handles_insert hi g).1 hg).elim (fun he => he ▸ hf) fun hg =>
        .inr (refersTo_iff.2 (.inr (.inr hg)))
    refine Lawful.head (.tabulate hfound) (Lawful.head (.unpin (.facade f)) ?_)
    exact (Made.bind (.emit (.gauge .slotsUsed table.used) trivial) fun _ =>
      (Made.log _ _).bind fun _ => .ret _) _

theorem retire (id : Int32) (family : String) : Made R (host.retire id family) := by
  unfold Host.retire
  refine (hm.plain (host.lookUp_plain id)).bind fun r => ?_
  split
  · exact .ret _
  · split
    · exact (Made.log _ _).bind fun _ => .ret _
    · intro w
      rw [get_run]
      cases hr : w.table.remove id with
      | error e => exact Lawful.refl w
      | ok x =>
        obtain ⟨f, table⟩ := x
        obtain ⟨hf, hold, -⟩ := InstanceTable.mem_handles_remove hr
        have kept : ∀ g ∈ w.table.handles, w.refersTo (.facade g) = true := fun g hg =>
          refersTo_iff.2 (.inr (.inr hg))
        have htable : ∀ g ∈ table.handles,
            World.Finds { w with pins := .facade f :: w.pins } (.facade g) := fun g hg =>
          .inr (refersTo_iff.2 (.inr (.inr (hold g hg))))
        refine Lawful.head (.pin (r := .facade f) (.inr (kept f hf)))
          (Lawful.head (.tabulate htable) ?_)
        exact (Made.bind (.emit (.gauge .slotsUsed table.used) trivial) fun _ =>
          (Made.log _ _).bind fun _ => (hm.unpin (.facade f)).bind fun _ => .ret _) _

theorem createOutcome (hfree : s.free = true) (family : InstanceFamily) (level : Int32) :
    Made R (host.createOutcome family level) := by
  intro w
  unfold Host.createOutcome
  cases Host.kindFor family level with
  | error e => exact Lawful.refl w
  | ok x =>
    obtain ⟨kind, p⟩ := x
    obtain ⟨facade, hthere, -⟩ := makeFacade_there host kind w
    have made := hm.makeFacade kind w
    dsimp only
    rw [bind_run]
    cases p with
    | none => exact Lawful.trans made (hm.enroll (.inl (by rw [hthere]; nofun)) _)
    | some p =>
      obtain ⟨facade', hthere', -⟩ := setParameter_there _ p hthere
      have set : Made R (Host.setParameter (host.makeFacade kind w).1 p) := setParameter hfree _ p
      refine Lawful.trans made (Lawful.trans (set _) (hm.enroll (.inl ?_) _))
      rw [hthere']
      nofun

theorem processOutcome (family : InstanceFamily)
    (hprocess : ∀ f source target, Made R (host.process f (family.task source target)))
    (id : Int32) (input output : Option ImageDescriptor) :
    Made R (host.processOutcome family id input output) := by
  intro w
  unfold Host.processOutcome
  rw [bind_run, Host.lookUp_run]
  cases hb : w.behind? id with
  | none => exact Lawful.refl w
  | some x =>
    obtain ⟨f, kind⟩ := x
    obtain ⟨-, facade, hfacade, -⟩ := behind?_eq_some.1 hb
    have process : Made R (host.processSurfaces f family input output) := by
      unfold Host.processSurfaces
      split
      · exact .ret _
      · refine (hprocess f _ _).bind fun r => ?_
        split
        · split
          · split <;> exact .ret _
          · exact .ret _
        · exact .ret _
        · exact .ret _
    dsimp only [Option.elim_some]
    split
    · exact Lawful.refl w
    · refine Lawful.head (.pin (r := .facade f) (.inl (by rw [hfacade]; nofun))) ?_
      exact (process.bind fun _ => (hm.unpin (.facade f)).bind fun _ => .ret _) _

end Host.Making

/-- The step may let the façade work on the task. -/
def ClientStep.MayWork (f : FacadeId) (task : Task) : ClientStep → Prop
  | .ask r => r = .process f task
  | .processImage family .. => ∃ source target, task = family.task source target
  | _ => False

/-- What a client does is of a kind, if what façades do for it is. -/
theorem ClientStep.made [hR : Lawful s R] {host : Host σ} (hm : host.Making R)
    (hfree : s.free = true) (settings : Option (String → Option String)) (step : ClientStep)
    (hprocess : ∀ f task, step.MayWork f task → Made R (host.process f task)) :
    Made R (step.take host settings) := by
  have opened := hm.plain (begin_opening_plain host settings)
  have told (r : Except Error Unit) : Made R (Host.status r : Act σ Status) :=
    hm.plain (host.status_plain r)
  cases step with
  | ask r => exact (hm.answer hfree r hprocess).map
  | enroll kind =>
    intro w
    obtain ⟨facade, hthere, -⟩ := makeFacade_there host kind w
    have hfinds : (host.makeFacade kind w).2.Finds (.facade (host.makeFacade kind w).1) :=
      .inl (by rw [hthere]; nofun)
    exact Lawful.trans (hm.makeFacade kind w) (hm.enroll hfinds _)
  | share id =>
    intro w
    show R w (shareInstance id w).2
    unfold shareInstance
    rw [bind_run, Host.lookUp_run]
    cases hb : w.behind? id with
    | none => exact Lawful.refl w
    | some x =>
      obtain ⟨f, kind⟩ := x
      obtain ⟨-, facade, hfacade, -⟩ := behind?_eq_some.1 hb
      exact Lawful.move (.hold hfree (r := .facade f) (.inl (by rw [hfacade]; nofun)))
  | retire id family => exact (hm.retire id family).map
  | createInstance family level pointer =>
    cases pointer with
    | none => exact .ret _
    | some _ =>
      refine Made.map (opened.bind fun _ => (hm.createOutcome hfree family level).bind fun r => ?_)
      cases r <;> exact (told _).bind fun _ => .ret _
  | processImage family id input output =>
    have works : ∀ f source target, Made R (host.process f (family.task source target)) :=
      fun f source target => hprocess f _ ⟨source, target, rfl⟩
    exact Made.map (opened.bind fun _ => (hm.processOutcome family works id input output).bind
      fun _ => (told _).bind fun _ => .ret _)
  | destroyInstance family pointer =>
    cases pointer with
    | none => exact .ret _
    | some id =>
      exact Made.map (opened.bind fun _ => (hm.retire id _).bind fun r => (told r).bind fun _ =>
        .ret _)

/-- In every run of clients, who has a façade finds it there. -/
theorem upheld_after (env : Environment σ) (depth : Nat)
    (settings : Option (String → Option String)) (memory : σ) (steps : List ClientStep) :
    (World.after env depth settings memory steps).Upheld :=
  have hm : (Host.nested env depth).Making (Moves true) := Host.nested_moving env depth
  World.Moves.upheld (Made.forM (fun step : ClientStep => step.made hm rfl settings
    fun _ task _ => hm.process trivial trivial task) steps _) (upheld_start memory)

end ImageDispatch
