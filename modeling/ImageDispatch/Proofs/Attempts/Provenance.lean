import ImageDispatch.Proofs.Attempts.Causes

/-!
# Where the errors of a call come from

* `World.Serving`: a running call holds the façade. That is so whenever an attempt begins, and the
  façade is there.
* `Host.attempt_error`: every error of an attempt has a cause. `Host.attempt_notFound_iff`: a
  capability is missing exactly if nothing is cached and no registered capability covers the key.
* `Host.Provenance`: how the errors of the attempts make the error of the call.
* `process_provenance`: every call of a façade.
-/

namespace ImageDispatch

open Act World

variable {σ : Type}

/-! ## Worlds in which a façade works -/

/-- A running call holds the façade. -/
structure World.Serving (f : FacadeId) (w : World σ) : Prop where
  orderly : w.Orderly
  upheld : w.Upheld
  pinned : .facade f ∈ w.pins

namespace World.Serving

variable {f : FacadeId} {w : World σ}

theorem facade (h : w.Serving f) : ∃ facade, w.facade? f = some facade :=
  Option.ne_none_iff_exists'.1 (h.upheld f (refersTo_iff.2 (.inr (.inl h.pinned))))

theorem next {α : Type} {a : Act σ α} {s : Scope} (h : w.Serving f)
    (ha : Triple [] a fun _ => []) (hm : Made (Moves s) a) : (a w).2.Serving f := by
  have hr := ha h.orderly rfl
  exact ⟨hr.orderly, (hm w).upheld h.upheld, by rw [hr.pins_eq]; exact h.pinned⟩

end World.Serving

namespace Host

variable (host : Host σ)

theorem parameterFor_plain (f : FacadeId) (kind : FacadeKind) (P : Option Parameter) (q : Query) :
    host.Plain (parameterFor f kind P q) := by
  cases q with
  | generate | detail => exact .ret _
  | _ => exact host.parameterOf_plain f

theorem shortfall_triple (q : Query) (e : Error) :
    Triple [] (shortfall q e : Act σ Unit) fun _ => [] := by
  cases q with
  | detail level =>
    unfold shortfall
    dsimp only
    split
    · exact (count_triple [] _).bind fun _ => log_triple [] _ _
    · exact log_triple [] _ _
  | _ => exact .ret _

variable {s : Scope} {R : World σ → World σ → Prop}

theorem shortfall_made [hR : Lawful s R] (hsteps : s.steps) (q : Query) (e : Error) :
    Made R (shortfall q e : Act σ Unit) := by
  cases q with
  | detail level =>
    unfold shortfall
    dsimp only
    split
    · exact (Made.count .fallbacks hsteps).bind fun _ => Made.log _ _
    · exact Made.log _ _
  | _ => exact .ret _

variable {host} (f : FacadeId) (kind : FacadeKind) (P : Option Parameter) (q : Query) (job : Job)

theorem Tidy.obtain (ht : host.Tidy) : Triple [] (host.obtain f q) gained := by
  cases q with
  | contrast k => exact ht.resolveContrast f k
  | _ => exact ht.resolve f _ _ _ _

theorem Tidy.attempt (ht : host.Tidy) : Triple [] (host.attempt f kind P q job) fun _ => [] := by
  refine (ht.obtain f q).bind fun r => ?_
  cases r with
  | error e => exact .ret _
  | ok o => exact ((host.parameterFor_plain f kind P q).triple ht _).bind fun p => ht.employ o p job

namespace Making

variable [hR : Lawful s R] (hm : host.Making R)

include hR hm

theorem employAny (r : Except Error ObjectId) :
    Made R (host.employAny (parameterFor f kind P q) job r) := by
  cases r with
  | error e => exact .ret _
  | ok o => exact (hm.plain (host.parameterFor_plain f kind P q)).bind fun p => hm.employ o p job

variable {f} (hf : s.own f)

include hf

theorem obtain : Made R (host.obtain f q) := by
  cases q with
  | contrast k => exact hm.resolveContrast hf k
  | _ => exact hm.resolve hf _ _ _ _

theorem attempt : Made R (host.attempt f kind P q job) :=
  (hm.obtain q hf).bind fun r => hm.employAny f kind P q job r

end Making

/-! ## Attempts and their causes -/

end Host

theorem Error.isNotFound_blamed (name : String) (e : Error) :
    (e.blamed name).isNotFound = false := by
  cases e <;> rfl

namespace Host

variable {host : Host σ} {f : FacadeId} {kind : FacadeKind} {P : Option Parameter}
  {a : Attempt σ} {free : Bool}

/-- Only a key that no capability covers is a missing capability. -/
theorem Cause.of_isNotFound {e : Error} (h : host.Cause f kind P a e) (hn : e.isNotFound = true) :
    a.Asks host.env.config.failureThreshold f ∧ a.query.claimants (host.offers f a) = [] := by
  cases h with
  | uncovered h hnone => exact ⟨h, hnone⟩
  | unset | failed => rw [Error.isNotFound_blamed] at hn; cases hn
  | _ => cases hn

theorem journal_obtain (hm : host.Moving free) :
    (host.obtain f a.query a.world).2.journal ⊆ (host.outcome f kind P a).2.journal :=
  (hm.employAny f kind P a.query a.job _ _).journal.subset

variable (hm : host.Moving free) (h : a.world.Serving f)
  (hs : .stalled ∉ (host.outcome f kind P a).2.journal)

include hm h hs

/-- Every error of an attempt has a cause. -/
theorem attempt_error (ht : host.Tidy) {e : Error} (he : (host.outcome f kind P a).1.1 = .error e) :
    host.Cause f kind P a e := by
  obtain ⟨facade, hf⟩ := h.facade
  have hs' : .stalled ∉ (host.obtain f a.query a.world).2.journal := fun hm' =>
    hs (journal_obtain hm hm')
  have hreach : a.world.Reaches (gained _ ++ a.world.pins) _ := ht.obtain f a.query h.orderly rfl
  unfold outcome attempt at he
  rw [bind_run] at he
  cases hob : host.obtain f a.query a.world with
  | mk r w =>
    rw [hob] at he hreach
    cases r with
    | error e' =>
      cases he
      exact obtain_error hf hs' (congrArg Prod.fst hob)
    | ok o =>
      have hlive : w.stage? o = some .live :=
        hreach.orderly.live_of_kept (refersTo_iff.2 (.inr (.inl
          (by rw [hreach.pins_eq]; exact List.mem_cons_self))))
      obtain ⟨object, hobject, -⟩ := Option.map_eq_some_iff.1 hlive
      have hparameter := parameterFor_snd f kind P a.query w
      unfold employAny at he
      dsimp only at he
      rw [bind_run, hparameter] at he
      rcases employ_error hobject he with ⟨p, e', hp, hset, rfl⟩ | ⟨v, e', hp, hwork, rfl⟩
      · exact .unset hob hobject hp hset
      · exact .failed hob hobject hp hwork

/-- A capability is missing exactly if nothing is cached for the query, and no registered capability
covers its key. -/
theorem attempt_notFound_iff (ht : host.Tidy) :
    (∃ e, (host.outcome f kind P a).1.1 = .error e ∧ e.isNotFound = true) ↔
      a.Asks host.env.config.failureThreshold f ∧ a.query.claimants (host.offers f a) = [] := by
  constructor
  · rintro ⟨e, he, hn⟩
    exact (attempt_error hm h hs ht he).of_isNotFound hn
  · rintro ⟨hasks, hn⟩
    obtain ⟨facade, hf⟩ := h.facade
    have hob : (host.obtain f a.query a.world).1 = .error a.query.notFound := by
      rw [obtain_asks hf hasks fun hm' => hs (journal_obtain hm hm')]
      exact create_none hn
    refine ⟨a.query.notFound, ?_, rfl⟩
    unfold outcome attempt
    rw [bind_run, hob]
    rfl

end Host

/-! ## All attempts of a call -/

namespace Host

variable {host : Host σ} (f : FacadeId) (kind : FacadeKind) (P : Option Parameter) {free : Bool}

/-- Whenever an attempt begins, the call still holds the façade. -/
theorem attempts_serving (ht : host.Tidy) (hm : host.Moving free) (queries : List Query)
    (job : Job) {w : World σ} (h : w.Serving f) :
    ∀ a ∈ host.attempts f kind P queries job w, a.world.Serving f := by
  induction queries generalizing job w with
  | nil => exact fun a ha => absurd ha List.not_mem_nil
  | cons q rest ih =>
    intro a ha
    rw [attempts] at ha
    rcases List.mem_cons.1 ha with rfl | ha
    · exact h
    · split at ha
      · cases ha
      · refine ih _ ?_ a ha
        exact (h.next (ht.attempt f kind P q job) (hm.attempt kind P q job trivial)).next
          (shortfall_triple q _) (shortfall_made (R := Moves free) trivial q _)

variable (host) in
/-- The queries that come into question are tried in order, and all of them if none succeeds. -/
theorem attempts_queries (queries : List Query) (job : Job) (w : World σ) :
    (host.attempts f kind P queries job w).map Attempt.query <+: queries ∧
      ((∀ a ∈ host.attempts f kind P queries job w, (host.outcome f kind P a).1.1.isOk = false) →
        (host.attempts f kind P queries job w).map Attempt.query = queries) := by
  induction queries generalizing job w with
  | nil => exact ⟨List.prefix_rfl, fun _ => rfl⟩
  | cons q rest ih =>
    cases hx : host.attempt f kind P q job w with
    | mk answer w' =>
      obtain ⟨r, job'⟩ := answer
      cases r with
      | ok =>
        rw [attempts_cons_ok hx]
        refine ⟨⟨rest, rfl⟩, fun h => ?_⟩
        have := h _ List.mem_cons_self
        rw [outcome, hx] at this
        cases this
      | error e =>
        rw [attempts_cons_error hx]
        obtain ⟨hinitial, hall⟩ := ih job' (shortfall q e w').2
        exact ⟨(List.prefix_cons_inj q).2 hinitial, fun h => congrArg (q :: ·)
          (hall fun a ha => h a (List.mem_cons_of_mem _ ha))⟩

/-- What has happened in an attempt is known when the ladder ends. -/
theorem descend_journal (hm : host.Moving free) (target : DetailLevel) (levels : List DetailLevel)
    (first : Option Error) (job : Job) (w : World σ) :
    ∀ a ∈ host.attempts f .detail P (levels.map .detail) job w,
      (host.outcome f .detail P a).2.journal ⊆
        (host.descend f (detailParameter false P) target levels first job w).2.journal := by
  induction levels generalizing first job w with
  | nil => exact fun a ha => absurd ha List.not_mem_nil
  | cons level rest ih =>
    intro a ha
    rw [List.map_cons] at ha
    cases hx : host.attempt f .detail P (.detail level) job w with
    | mk answer w' =>
      obtain ⟨r, job'⟩ := answer
      have hhead : host.outcome f .detail P ⟨.detail level, job, w⟩ = ((r, job'), w') := hx
      cases r with
      | ok =>
        obtain ⟨reports, hdescend, -⟩ := descend_cons_ok target rest first hx
        rw [attempts_cons_ok hx, List.mem_singleton] at ha
        rw [ha, hhead, hdescend]
        exact List.subset_append_right _ _
      | error e =>
        rw [attempts_cons_error hx] at ha
        rw [descend_cons_error target rest first hx]
        rcases List.mem_cons.1 ha with rfl | ha
        · rw [hhead]
          have hreport : w'.Moves free (shortfall (.detail level) e w').2 :=
            shortfall_made trivial _ _ w'
          exact (hreport.journal.trans
            (hm.descend trivial trivial _ target rest _ job' _).journal).subset
        · exact ih _ job' _ a ha

variable {f kind P}

/-! ## The error of a call -/

/-- Where the error of a call of a façade comes from, with the attempts that were made. -/
structure Provenance (host : Host σ) (f : FacadeId) (kind : FacadeKind) (P : Option Parameter)
    (task : Task) (tries : List (Attempt σ)) (r : Except Error Unit) : Prop where
  /-- An image detail enhancer copies surfaces of one shape. -/
  copied : kind = .detail → task.isCopy = true → r = .ok ()
  /-- The queries that come into question are tried in order, and all of them if the call fails. -/
  tried : tries.map Attempt.query <+: kind.queries P task ∧
    (r ≠ .ok () → tries.map Attempt.query = kind.queries P task)
  /-- A capability is missing exactly if all attempts have asked for extensions, and no capability
  that was registered then covers the key. -/
  notFound : (∃ family key, r = .error (.capabilityNotFound family key)) ↔
    ¬(kind = .detail ∧ task.isCopy = true) ∧
      ∀ a ∈ tries, a.Asks host.env.config.failureThreshold f ∧
        a.query.claimants (host.offers f a) = []
  /-- Every other error is the one of an attempt. -/
  caused : ∀ e, r = .error e → (∃ family key, e = .capabilityNotFound family key) ∨
    ∃ a ∈ tries, host.Cause f kind P a e

variable {w : World σ} {task : Task}

/-- A façade that has no choice reports how its attempt ends. -/
theorem Provenance.of_attempt (ht : host.Tidy) (hm : host.Moving free) (hk : kind ≠ .detail)
    (h : w.Serving f)
    (hs : .stalled ∉ (host.attempt f kind P (task.query P) task.job w).2.journal) :
    host.Provenance f kind P task
      (host.attempts f kind P (kind.queries P task) task.job w)
      (host.attempt f kind P (task.query P) task.job w).1.1 := by
  have hqueries : kind.queries P task = [task.query P] := FacadeKind.queries_of_ne hk
  rw [hqueries, attempts_singleton]
  let a : Attempt σ := ⟨task.query P, task.job, w⟩
  have hs' : .stalled ∉ (host.outcome f kind P a).2.journal := hs
  have hmissing := attempt_notFound_iff hm h hs' ht
  refine ⟨fun he => absurd he hk, ⟨⟨[], hqueries.symm⟩, fun _ => hqueries.symm⟩,
    ?_, fun e he => .inr ⟨a, List.mem_cons_self, attempt_error hm h hs' ht he⟩⟩
  rw [List.forall_mem_singleton, ← hmissing]
  constructor
  · rintro ⟨family, key, he⟩
    exact ⟨fun hc => hk hc.1, _, he, rfl⟩
  · rintro ⟨-, e, he, hn⟩
    obtain ⟨family, key, rfl⟩ := Error.isNotFound_iff.1 hn
    exact ⟨family, key, he⟩

/-- A copy needs no attempt. -/
theorem Provenance.of_copy (hc : task.isCopy = true) (job : Job) (w : World σ) :
    host.Provenance f .detail P task
      (host.attempts f .detail P (FacadeKind.detail.queries P task) job w) (.ok ()) := by
  rw [FacadeKind.queries_of_copy hc, attempts]
  refine ⟨fun _ _ => rfl, ⟨List.nil_prefix, fun hr => absurd rfl hr⟩, ⟨?_, ?_⟩, fun e he => ?_⟩
  · rintro ⟨family, key, he⟩
    cases he
  · exact fun h => absurd ⟨rfl, hc⟩ h.1
  · cases he

/-- An image detail enhancer reports what the ladder has come to. -/
theorem Provenance.of_ladder (ht : host.Tidy) (hm : host.Moving free) (hc : task.isCopy = false)
    (h : w.Serving f)
    (hs : ∀ a ∈ host.attempts f .detail P (FacadeKind.detail.queries P task) task.job w,
      .stalled ∉ (host.outcome f .detail P a).2.journal) (family key : String) :
    host.Provenance f .detail P task
      (host.attempts f .detail P (FacadeKind.detail.queries P task) task.job w)
      (reported (.capabilityNotFound family key) none
        ((host.attempts f .detail P (FacadeKind.detail.queries P task) task.job w).map fun a =>
          (host.outcome f .detail P a).1.1)) := by
  obtain ⟨hinitial, hall⟩ :=
    host.attempts_queries f .detail P (FacadeKind.detail.queries P task) task.job w
  have hserving :=
    attempts_serving f .detail P ht hm (FacadeKind.detail.queries P task) task.job h
  generalize host.attempts f .detail P (FacadeKind.detail.queries P task) task.job w = tries at *
  have missing := fun a ha => attempt_notFound_iff hm (hserving a ha) (hs a ha) ht
  have nocopy : task.isCopy ≠ true := by rw [hc]; nofun
  refine ⟨fun _ hcopy => absurd hcopy nocopy, ⟨hinitial, fun hr => hall fun a ha => ?_⟩, ?_,
    fun e he => ?_⟩
  · cases hrep : reported (.capabilityNotFound family key) none
      (tries.map fun a => (host.outcome f .detail P a).1.1) with
    | ok => exact absurd hrep hr
    | error e => exact (reported_error hrep).1 _ (List.mem_map_of_mem ha)
  · rw [reported_notFound_iff, List.forall_mem_map]
    constructor
    · exact fun hmissed =>
        ⟨fun hcopy => nocopy hcopy.2, fun a ha => (missing a ha).1 (hmissed a ha)⟩
    · exact fun hasks a ha => (missing a ha).2 (hasks.2 a ha)
  · rcases (reported_error he).2 with ⟨rfl, -⟩ | ⟨-, hm'⟩
    · exact .inl ⟨family, key, rfl⟩
    · obtain ⟨a, ha, her⟩ := List.mem_map.1 hm'
      exact .inr ⟨a, ha, attempt_error hm (hserving a ha) (hs a ha) ht her⟩

/-! ## Whole calls -/

/-- The span of a call, if spans are wanted. -/
def callSpan (host : Host σ) (kind : FacadeKind) (task : Task) : List Event :=
  if host.env.config.spans.facades then
    [.span .debug "facade" [("family", kind.family), ("operation", task.operation)]]
  else []

theorem openCall_run (kind : FacadeKind) (task : Task) (w : World σ) :
    (host.openCall f kind task w).2 = { w with
      pins := .facade f :: w.pins
      journal := host.callSpan kind task ++ w.journal } := by
  unfold openCall callSpan
  rw [bind_run]
  split <;> rfl

theorem openCall_serving {facade : Facade} (hw : w.Orderly) (hu : w.Upheld)
    (hf : w.facade? f = some facade) (kind : FacadeKind) (task : Task) :
    (host.openCall f kind task w).2.Serving f := by
  rw [openCall_run]
  have hpin : World.Upheld { w with pins := .facade f :: w.pins } :=
    Moves.upheld (.single (.pin (r := .facade f) (.inl (by rw [hf]; nofun))) : w.Moves true _) hu
  exact ⟨(hw.pin (r := .facade f) (by simp)).same rfl rfl rfl rfl rfl,
    fun g hg => hpin g hg, List.mem_cons_self⟩

/-- A façade that something keeps stays. -/
theorem settleFacade_kept {facade : Facade} (hf : w.facade? f = some facade)
    (hr : w.refersTo (.facade f) = true) : (host.settleFacade f w).2 = w := by
  unfold settleFacade
  rw [get_run, hf]
  dsimp only
  rw [if_neg (by rw [hr]; nofun)]
  rfl

/-- A façade that was held for a call that has only noted something stays. -/
theorem unpin_held {facade : Facade} (hr : w.refersTo (.facade f) = true)
    (hf : w.facade? f = some facade) (journal : List Event) :
    (host.unpin (.facade f) { w with pins := .facade f :: w.pins, journal }).2 =
      { w with journal } := by
  show (host.settleFacade f { w with
    pins := (Ref.facade f :: w.pins).erase (.facade f), journal }).2 = _
  rw [List.erase_cons_head]
  exact settleFacade_kept hf (refersTo_iff.2 (refersTo_iff.1 hr))

/-- A call that ends as soon as it has begun leaves the span behind. -/
theorem unpin_openCall {facade : Facade} (hr : w.refersTo (.facade f) = true)
    (hf : w.facade? f = some facade) (kind : FacadeKind) (task : Task) :
    (host.unpin (.facade f) (host.openCall f kind task w).2).2 =
      { w with journal := host.callSpan kind task ++ w.journal } := by
  rw [openCall_run]
  exact unpin_held hr hf _

end Host

/-- Every call of a façade, with code of others that does as it likes and comes back to the
dispatcher to any depth. A surface that is not valid is an invalid value, and nothing else happens
then. For valid surfaces the error of the call has a cause. A call that waits for itself does not
end. -/
theorem process_provenance (env : Environment σ) (depth : Nat) {w : World σ} {f : FacadeId}
    {facade : Facade} {task : Task} (hw : w.Orderly) (hu : w.Upheld)
    (hf : w.facade? f = some facade) (hd : facade.kind.does task = true) :
    let host := Host.nested env depth
    let call := host.process f task w
    let tries := host.attempts f facade.kind facade.parameter
      (facade.kind.queries facade.parameter task) task.job (host.openCall f facade.kind task w).2
    ((∃ s ∈ task.job.surfaces, s.validate ≠ .ok ()) → ∃ reason,
      call = (.worked (.error (.invalidValue reason)) task.job,
        { w with journal := host.callSpan facade.kind task ++ w.journal })) ∧
    ((∀ s ∈ task.job.surfaces, s.validate = .ok ()) → .stalled ∉ call.2.journal → ∃ r job,
      call.1 = .worked r job ∧
        host.Provenance f facade.kind facade.parameter task tries r) := by
  intro host call
  have ht : host.Tidy := Host.nested_tidy env depth
  have hm : host.Moving true := Host.nested_moving env depth
  refine ⟨fun ⟨s, hs, hdefect⟩ => ?_, fun hvalid hstalled => ?_⟩
  · cases hv : task.job.validate with
    | ok =>
      exact absurd (Surface.validate_eq_ok.2 (Job.validate_eq_ok.1 hv s hs)) hdefect
    | error e =>
      obtain ⟨reason, rfl⟩ := Job.validate_error hv
      refine ⟨reason, (Host.process_invalid hf hd hv).trans ?_⟩
      rw [Host.unpin_openCall (hw.facade_kept hf (by simp)) hf]
  · have hv : task.job.validate = .ok () :=
      Job.validate_eq_ok.2 fun s hs => Surface.validate_eq_ok.1 (hvalid s hs)
    have hrun : call = _ := Host.process_valid hf hd hv
    have hserving : (host.openCall f facade.kind task w).2.Serving f :=
      Host.openCall_serving hw hu hf _ _
    have hP := host.openCall_parameter hf facade.kind task
    -- What the work has noted is still noted when the façade has been let go.
    have hwork : .stalled ∉ (host.dispatch f facade.kind task
        (host.openCall f facade.kind task w).2).2.journal := fun hm' =>
      hstalled (by rw [hrun]; exact (hm.unpin (.facade f) _).journal.subset hm')
    refine ⟨_, _, congrArg Prod.fst hrun, ?_⟩
    by_cases hk : facade.kind = .detail
    · cases task with
      | detail input output =>
        cases hc : input.sameShape output with
        | true =>
          have hmem := fun s hs => Surface.validate_eq_ok.1 (hvalid s hs)
          have hcopyable : (Task.detail input output).isCopy = true := hc
          obtain ⟨copied, hcopy, -⟩ := Surface.copyFrom_ok ((output.sameShape_comm input).trans hc)
            (hmem input (by simp [Task.job, Job.surfaces]))
            (hmem output (by simp [Task.job, Job.surfaces]))
          obtain ⟨-, -, -, hdispatch⟩ := Host.dispatch_copy hc
          rw [hk, hdispatch copied hcopy]
          exact .of_copy hcopyable _ _
        | false =>
          have hother : (Task.detail input output).isCopy = false := hc
          have hqueries := FacadeKind.queries_of_not_copy (P := facade.parameter) hother
          rw [hk] at hserving hP hwork ⊢
          rw [Host.dispatch_ladder hc hP] at hwork ⊢
          rw [Host.descend_reported, ← hqueries]
          refine .of_ladder ht hm hother hserving (fun a ha hm' => ?_) _ _
          rw [hqueries] at ha
          exact hwork (Host.descend_journal f _ hm _ _ _ _ _ a ha hm')
      | _ => rw [hk] at hd; cases hd
    · rw [Host.dispatch_eq_attempt hd hk hP] at hwork ⊢
      exact .of_attempt ht hm hk hserving hwork

/-- Surroundings with an extension for surfaces of a format. It fails as if another call were in its
way. -/
def Environment.posing : Environment Unit :=
  { Environment.linked [⟨⟨.hdrEnhancer, "bright", "1"⟩,
      .hdr [⟨[.rgba8888], .default, 1⟩], ⟨0⟩⟩] with
    code := { (Environment.linked []).code with
      work := fun _ job memory => .done memory (.error .tryLater, job) } }

/-- The failure of an extension is blamed on it, whatever it says. -/
theorem process_provenance_posing :
    let w := World.after .posing 1 none () [.ask (.facade .hdr)]
    let task := Task.hdr (.packed 1 1 .rgba8888)
    let blamed := Error.processFailed "bright" "resource busy, try again later"
    (w.facade? 0).map Facade.kind = some .hdr ∧
      (∀ s ∈ task.job.surfaces, s.validate = .ok ()) ∧
      .stalled ∉ ((Host.nested .posing 1).process 0 task w).2.journal ∧
      ∃ job tries, ((Host.nested .posing 1).process 0 task w).1 = .worked (.error blamed) job ∧
        (Host.nested .posing 1).Provenance 0 .hdr none task tries (.error blamed) := by
  intro w task blamed
  have hkind : (w.facade? 0).map Facade.kind = some .hdr := by decide +kernel
  have hparameter : (w.facade? 0).bind Facade.parameter = none := by decide +kernel
  obtain ⟨facade, hf, hk⟩ := Option.map_eq_some_iff.1 hkind
  rw [hf, Option.bind_some] at hparameter
  have hd : facade.kind.does task = true := by rw [hk]; rfl
  have hvalid : ∀ s ∈ task.job.surfaces, s.validate = .ok () := by
    intro s hs
    rw [List.mem_singleton.1 hs]
    decide +kernel
  have hstalled : .stalled ∉ ((Host.nested .posing 1).process 0 task w).2.journal := by
    decide +kernel
  have hw : w.Orderly := (reaches_after .posing 1 none () _).orderly
  have hu : w.Upheld := upheld_after .posing 1 none () _
  obtain ⟨-, hworked⟩ := process_provenance .posing 1 hw hu hf hd
  obtain ⟨r, job, hr, hprovenance⟩ := hworked hvalid hstalled
  have hfails : ((Host.nested .posing 1).dispatch 0 .hdr task
      ((Host.nested .posing 1).openCall 0 .hdr task w).2).1.1 = .error blamed := by
    decide +kernel
  have hjob : task.job.validate = .ok () :=
    Job.validate_eq_ok.2 fun s hs => Surface.validate_eq_ok.1 (hvalid s hs)
  rw [Host.process_valid hf hd hjob, hk, hfails] at hr
  obtain rfl : .error blamed = r := (Reply.worked.inj hr).1
  rw [hk, hparameter] at hprovenance
  refine ⟨hkind, hvalid, hstalled, job, _, ?_, hprovenance⟩
  rw [Host.process_valid hf hd hjob, hk, hfails, hr]

end ImageDispatch
