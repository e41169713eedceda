import ImageDispatch.Proofs.Attempts.Basic
import ImageDispatch.Proofs.Lifetime.Presence
import ImageDispatch.Proofs.Selection.Find

/-!
# Why attempts fail

* `Attempt.Asks`: an attempt for which nothing is cached asks for the extensions that are registered
  then (`Host.offers`).
* `Host.Cause`: the errors of attempts, each with what has gone wrong.
* `Host.obtain_error`: where no implementation is obtained, there is a cause.
* `Host.employ_error`: where one does not do its work, it has rejected its parameter, or failed.
-/

namespace ImageDispatch

open Act World

variable {σ : Type}

/-! ## Looking up -/

theorem Cache.begin_cases {κ α : Type} [DecidableEq κ] (c : Cache κ α) (k : κ) :
    (∃ v, (c.get k).1 = some v ∧ (c.begin k).1 = .hit v) ∨
      (c.get k).1 = none ∧ ((c.begin k).1 = .blocked ∨ ∃ g, (c.begin k).1 = .miss g) := by
  unfold begin
  split
  next h => exact .inl ⟨_, by rw [h], rfl⟩
  next h =>
    refine .inr ⟨by rw [h], ?_⟩
    split
    · split
      · exact .inl rfl
      · exact .inr ⟨_, rfl⟩
    · exact .inr ⟨_, rfl⟩

/-- The façade has an implementation for the query. -/
def World.Caches (w : World σ) (f : FacadeId) (q : Query) : Prop :=
  ∃ facade o, w.facade? f = some facade ∧ (q.key, o) ∈ (facade.cache q.operation).pairs

theorem World.not_caches_iff {w : World σ} {f : FacadeId} {facade : Facade} {q : Query}
    (hf : w.facade? f = some facade) :
    ¬w.Caches f q ↔ ((facade.cache q.operation).get q.key).1 = none := by
  constructor
  · intro h
    by_contra hget
    obtain ⟨o, ho⟩ := Option.ne_none_iff_exists'.1 hget
    exact h ⟨facade, o, hf, Cache.mem_pairs_of_get ho⟩
  · rintro hget ⟨facade', o, hf', ho⟩
    cases hf.symm.trans hf'
    exact Cache.not_mem_pairs_of_get hget o ho

/-! ## Asking for extensions -/

namespace Host

/-- What a façade does when it looks for an implementation and has none. -/
def miss (f : FacadeId) (kind : FacadeKind) (op : Operation) (k : Key)
    (announcement : Option String) : Act σ Unit := do
  emit (.sought f)
  discard (useCache f op fun c => c.begin k)
  count (.misses kind.family)
  if let some text := announcement then
    log .debug text

/-- What a façade that has no implementation for a query does before it asks for extensions. -/
def missing (f : FacadeId) : Query → Act σ Unit
  | .contrast k => do
    emit (.sought f)
    discard (useCache f .main fun c => c.get (.contrast k))
    modifyBreaker f Breaker.start
  | q => miss f q.seeker q.operation q.key q.announcement

/-- The extensions that are registered when an attempt asks for them. -/
def offers (host : Host σ) (f : FacadeId) (a : Attempt σ) : List Descriptor :=
  host.collected a.query (missing f a.query a.world).2

/-- The world after these extensions were asked for. -/
def asked (host : Host σ) (f : FacadeId) (a : Attempt σ) : World σ :=
  (host.find a.query (missing f a.query a.world).2).2

end Host

/-- The attempt asks for extensions: nothing is cached for its query. A façade for contrast must not
have given creation up, or be creating already. -/
structure Attempt.Asks (threshold : UInt32) (f : FacadeId) (a : Attempt σ) : Prop where
  uncached : ¬a.world.Caches f a.query
  idle : ∀ k, a.query = .contrast k → ∀ facade, a.world.facade? f = some facade →
    facade.breaker.isDisabled threshold = false ∧ facade.breaker.creating = false

namespace Host

variable (host : Host σ)

/-- Pushes a parameter if there is one. -/
def pushAny (o : ObjectId) (object : AlgorithmObject) :
    Option Parameter → Act σ (Except Error Unit)
  | some p => host.push o object p
  | none => return .ok ()

/-- An attempt fails with an error, and that is why. -/
inductive Cause (f : FacadeId) (kind : FacadeKind) (P : Option Parameter) (a : Attempt σ) :
    Error → Prop
  /-- Nothing is cached, and no capability that is registered covers the key. -/
  | uncovered (h : a.Asks host.env.config.failureThreshold f)
    (hn : a.query.claimants (host.offers f a) = []) : Cause f kind P a a.query.notFound
  /-- The creator of the selected extension returns nothing. -/
  | notCreated {s : Selection} (h : a.Asks host.env.config.failureThreshold f)
    (hs : a.query.select? (host.offers f a) = some s)
    (hc : (host.runForeign (host.env.code.create s.creator) (host.asked f a)).1 = none) :
    Cause f kind P a (.extensionCreateFailed s.info.name)
  /-- The initialization of what the selected extension has created fails. -/
  | notInitialized {s : Selection} {token : Token} {w : World σ} {e : Error}
    (h : a.Asks host.env.config.failureThreshold f)
    (hs : a.query.select? (host.offers f a) = some s)
    (hc : host.runForeign (host.env.code.create s.creator) (host.asked f a) = (some token, w))
    (hi : (host.invoke w.objects.size .init Except.isOk (host.env.code.init token)
      (addObject s.info token w).2).1 = .error e) :
    Cause f kind P a (.extensionInitFailed s.info.name e.message)
  /-- The façade for contrast has given creation up. -/
  | disabled {k : ContrastKind} {facade : Facade} (hq : a.query = .contrast k)
    (hu : ¬a.world.Caches f a.query) (hf : a.world.facade? f = some facade)
    (hd : facade.breaker.isDisabled host.env.config.failureThreshold = true) :
    Cause f kind P a (.creationDisabled FacadeKind.contrast.family)
  /-- The façade for contrast is creating an implementation already. -/
  | busy {k : ContrastKind} {facade : Facade} (hq : a.query = .contrast k)
    (hu : ¬a.world.Caches f a.query) (hf : a.world.facade? f = some facade)
    (hd : facade.breaker.isDisabled host.env.config.failureThreshold = false)
    (hc : facade.breaker.creating = true) : Cause f kind P a .tryLater
  /-- The implementation does not take the parameter. -/
  | unset {o : ObjectId} {object : AlgorithmObject} {p : Parameter} {w : World σ} {e : Error}
    (ho : host.obtain f a.query a.world = (.ok o, w)) (hobject : w.objects[o]? = some object)
    (hp : (parameterFor f kind P a.query w).1 = some p)
    (hset : (host.invoke o (.set p) Except.isOk (host.env.code.set object.token p) w).1 =
      .error e) :
    Cause f kind P a (e.blamed object.info.name)
  /-- The implementation fails at its work, after the parameter was pushed into it. -/
  | failed {o : ObjectId} {object : AlgorithmObject} {w v : World σ} {e : Error}
    (ho : host.obtain f a.query a.world = (.ok o, w)) (hobject : w.objects[o]? = some object)
    (hp : host.pushAny o object (parameterFor f kind P a.query w).1 w = (.ok (), v))
    (hwork : (host.invoke o .work (fun answer => answer.1.isOk)
      (host.env.code.work object.token a.job) v).1.1 = .error e) :
    Cause f kind P a (e.blamed object.info.name)

variable {host} {f : FacadeId} {kind : FacadeKind} {P : Option Parameter} {w : World σ}
  {facade : Facade}

/-! ## Implementations -/

theorem parameterFor_snd (f : FacadeId) (kind : FacadeKind) (P : Option Parameter) (q : Query)
    (w : World σ) : (parameterFor f kind P q w).2 = w := by
  cases q <;> rfl

/-- How a creation that a façade guards ends is how the creation ends. -/
theorem createGuarded_fst (op : Operation) (q : Query) (g : GuardId) :
    (host.createGuarded f kind op q g w).1 = (host.create q w).1 := by
  unfold createGuarded
  rw [bind_run]
  cases h : (host.create q w).1 <;> rfl

/-- A façade that has an implementation serves it. -/
theorem resolve_cached {op : Operation} {q : Query} {announcement : Option String} {o : ObjectId}
    (hf : w.facade? f = some facade) (ho : ((facade.cache op).get q.key).1 = some o) :
    (host.resolve f kind op q announcement w).1 = .ok o := by
  have hbegin : ((facade.cache op).begin q.key).1 = .hit o := by
    rcases (facade.cache op).begin_cases q.key with ⟨v, hv, hb⟩ | ⟨hn, -⟩
    · rw [ho] at hv; cases hv; exact hb
    · rw [ho] at hn; cases hn
  unfold resolve
  rw [bind_run, bind_run, useCache_of_facade (show (emit (.sought f) w).2.facade? f = some facade
    from hf), hbegin]
  rfl

/-- One that has none creates one, unless it is doing that already. -/
theorem resolve_uncached {op : Operation} {q : Query} {announcement : Option String}
    (hf : w.facade? f = some facade) (ho : ((facade.cache op).get q.key).1 = none) :
    .stalled ∈ (host.resolve f kind op q announcement w).2.journal ∨
      (host.resolve f kind op q announcement w).1 =
        (host.create q (miss f kind op q.key announcement w).2).1 := by
  have hf' : (emit (.sought f) w).2.facade? f = some facade := hf
  unfold resolve miss
  rw [bind_run, bind_run, bind_run, bind_run, useCache_of_facade hf']
  have hdiscard : (discard (useCache f op fun c => c.begin q.key) (emit (.sought f) w).2).2 =
      ((emit (.sought f) w).2).withCache f op ((facade.cache op).begin q.key).2 := by
    show (useCache f op (fun c => c.begin q.key) (emit (.sought f) w).2).2 = _
    rw [useCache_of_facade hf']
  rw [hdiscard]
  rcases (facade.cache op).begin_cases q.key with ⟨v, hv, -⟩ | ⟨-, hb | ⟨g, hb⟩⟩
  · rw [ho] at hv; cases hv
  · rw [hb]
    exact .inl List.mem_cons_self
  · rw [hb]
    right
    cases announcement with
    | none => exact createGuarded_fst op q g
    | some text => exact createGuarded_fst op q g

theorem attemptContrast_fst (k : ContrastKind) (w : World σ) :
    (host.attemptContrast f k w).1 = (host.create (.contrast k) w).1 := by
  unfold attemptContrast
  rw [bind_run]
  cases h : (host.create (.contrast k) w).1 <;> rfl

/-- A façade for contrast that has an implementation serves it. -/
theorem resolveContrast_cached {k : ContrastKind} {o : ObjectId} (hf : w.facade? f = some facade)
    (ho : ((facade.cache .main).get (.contrast k)).1 = some o) :
    host.resolveContrast f k w = (.ok o, (pin (.object o) ((w.note (.sought f)).withCache f .main
      ((facade.cache .main).get (.contrast k)).2)).2) :=
  cachedContrast_hit (w := w.note (.sought f)) hf ho _

theorem missing_contrast {k : ContrastKind} (hf : w.facade? f = some facade)
    (ho : ((facade.cache .main).get (.contrast k)).1 = none) :
    (missing f (.contrast k) w).2 = (modifyBreaker f Breaker.start (w.note (.sought f))).2 := by
  have hf' : (w.note (.sought f)).facade? f = some facade := hf
  show (modifyBreaker f Breaker.start (useCache f .main (fun c => c.get (.contrast k))
    (w.note (.sought f))).2).2 = _
  rw [useCache_of_facade hf', Cache.get_of_none ho, World.withCache_self hf']

/-- A façade for contrast that has no implementation creates one, unless it has given that up or is
doing it already. -/
theorem resolveContrast_uncached {k : ContrastKind} (hf : w.facade? f = some facade)
    (ho : ((facade.cache .main).get (.contrast k)).1 = none) :
    host.resolveContrast f k w =
      if facade.breaker.isDisabled host.env.config.failureThreshold then
        (.error (.creationDisabled FacadeKind.contrast.family), w.note (.sought f))
      else if facade.breaker.creating then
        (.error .tryLater, (w.note (.sought f)).note
          (.log .debug s!"{FacadeKind.contrast.family} creation in progress elsewhere"))
      else
        ((host.attemptContrast f k (missing f (.contrast k) w).2).1,
          (modifyBreaker f Breaker.stop
            (host.attemptContrast f k (missing f (.contrast k) w).2).2).2) := by
  have hf' : (w.note (.sought f)).facade? f = some facade := hf
  have hemit : emit (.sought f) w = ((), w.note (.sought f)) := rfl
  rw [missing_contrast hf ho]
  unfold resolveContrast
  rw [bind_of_run hemit, cachedContrast_miss hf' ho]
  unfold createContrast
  rw [facade?_run, hf', Option.map_some]
  dsimp only
  split
  · rfl
  · split
    · rfl
    · have hstarted : (modifyBreaker f Breaker.start (w.note (.sought f))).2.facade? f =
          some { facade with breaker := facade.breaker.start } := facade?_modify_self hf' _
      rw [bind_run, bind_run, cachedContrast_miss hstarted ho]
      rfl

/-! ## Creations -/

/-- A creation fails if no capability covers the key, and for no other reason before an extension
was selected. -/
theorem create_none {q : Query} (h : q.claimants (host.collected q w) = []) :
    (host.create q w).1 = .error q.notFound := by
  rw [create_eq, find_eq, (q.select?_eq_none_iff _).2 h]

/-- What can go wrong with the extension that was selected. -/
theorem instantiate_error {s : Selection} {e : Error}
    (h : (host.instantiate s w).1 = .error e) :
    ((host.runForeign (host.env.code.create s.creator) w).1 = none ∧
        e = .extensionCreateFailed s.info.name) ∨
      ∃ token v e', host.runForeign (host.env.code.create s.creator) w = (some token, v) ∧
        (host.invoke v.objects.size .init Except.isOk (host.env.code.init token)
          (addObject s.info token v).2).1 = .error e' ∧
        e = .extensionInitFailed s.info.name e'.message := by
  unfold instantiate at h
  rw [bind_run] at h
  cases hc : host.runForeign (host.env.code.create s.creator) w with
  | mk token v =>
    rw [hc] at h
    cases token with
    | none => exact .inl ⟨rfl, (Except.error.inj h).symm⟩
    | some token =>
      right
      dsimp only at h
      rw [bind_run, bind_run] at h
      cases hi : (host.invoke v.objects.size .init Except.isOk (host.env.code.init token)
        (addObject s.info token v).2).1 with
      | ok =>
        rw [show (addObject s.info token v).1 = v.objects.size from rfl, hi] at h
        cases h
      | error e' =>
        rw [show (addObject s.info token v).1 = v.objects.size from rfl, hi] at h
        exact ⟨token, v, e', rfl, hi, (Except.error.inj h).symm⟩

/-! ## Work -/

theorem blame_fst (name : String) (e : Error) (w : World σ) :
    (blame name e w).1 = e.blamed name := by
  unfold blame Error.blamed
  split <;> rfl

theorem push_error {o : ObjectId} {object : AlgorithmObject} {p : Parameter} {e : Error}
    (h : (host.push o object p w).1 = .error e) :
    ∃ e', (host.invoke o (.set p) Except.isOk (host.env.code.set object.token p) w).1 = .error e' ∧
      e = e'.blamed object.info.name := by
  unfold push at h
  rw [bind_run] at h
  cases hi : (host.invoke o (.set p) Except.isOk (host.env.code.set object.token p) w).1 with
  | ok => rw [hi] at h; cases h
  | error e' =>
    rw [hi] at h
    dsimp only at h
    rw [bind_run, blame_fst] at h
    exact ⟨e', rfl, (Except.error.inj h).symm⟩

theorem work_error {o : ObjectId} {object : AlgorithmObject} {job : Job} {e : Error}
    (h : (host.work o object job w).1.1 = .error e) :
    ∃ e', (host.invoke o .work (fun answer => answer.1.isOk)
        (host.env.code.work object.token job) w).1.1 = .error e' ∧
      e = e'.blamed object.info.name := by
  unfold work at h
  rw [bind_run] at h
  cases hi : (host.invoke o .work (fun answer => answer.1.isOk)
    (host.env.code.work object.token job) w).1 with
  | mk r written =>
    rw [hi] at h
    cases r with
    | ok => cases h
    | error e' =>
      dsimp only at h
      rw [bind_run, blame_fst] at h
      exact ⟨e', rfl, (Except.error.inj h).symm⟩

/-- An implementation that is there works if it takes the parameter. -/
theorem employ_fst {o : ObjectId} {object : AlgorithmObject} (ho : w.objects[o]? = some object)
    (p : Option Parameter) (job : Job) :
    (host.employ o p job w).1 = match host.pushAny o object p w with
      | (.ok (), v) => (host.work o object job v).1
      | (.error e, _) => (.error e, job) := by
  unfold employ pushAny
  rw [get_run, ho]
  cases p with
  | none => rfl
  | some p =>
    dsimp only
    rw [bind_run]
    cases host.push o object p w with
    | mk r v => cases r <;> rfl

/-- An implementation that is there does not take the parameter, or fails at its work. -/
theorem employ_error {o : ObjectId} {object : AlgorithmObject} {p : Option Parameter} {job : Job}
    {e : Error} (ho : w.objects[o]? = some object) (h : (host.employ o p job w).1.1 = .error e) :
    (∃ p' e', p = some p' ∧
        (host.invoke o (.set p') Except.isOk (host.env.code.set object.token p') w).1 =
          .error e' ∧ e = e'.blamed object.info.name) ∨
      ∃ v e', host.pushAny o object p w = (.ok (), v) ∧
        (host.invoke o .work (fun answer => answer.1.isOk)
          (host.env.code.work object.token job) v).1.1 = .error e' ∧
        e = e'.blamed object.info.name := by
  rw [employ_fst ho] at h
  cases hp : host.pushAny o object p w with
  | mk r v =>
    rw [hp] at h
    cases r with
    | ok =>
      obtain ⟨e', hi, he⟩ := work_error h
      exact .inr ⟨v, e', rfl, hi, he⟩
    | error e₁ =>
      cases h
      cases p with
      | none => cases hp
      | some p =>
        obtain ⟨e', hi, he⟩ := push_error (congrArg Prod.fst hp)
        exact .inl ⟨p, e', rfl, hi, he⟩

/-! ## Obtaining an implementation -/

theorem obtain_cached {q : Query} {o : ObjectId} (hf : w.facade? f = some facade)
    (ho : ((facade.cache q.operation).get q.key).1 = some o) : (host.obtain f q w).1 = .ok o := by
  cases q with
  | contrast k => exact congrArg Prod.fst (resolveContrast_cached hf ho)
  | _ => exact resolve_cached hf ho

variable {a : Attempt σ}

/-- An attempt that asks for extensions obtains what is created. -/
theorem obtain_asks (hf : a.world.facade? f = some facade)
    (h : a.Asks host.env.config.failureThreshold f)
    (hs : .stalled ∉ (host.obtain f a.query a.world).2.journal) :
    (host.obtain f a.query a.world).1 =
      (host.create a.query (missing f a.query a.world).2).1 := by
  obtain ⟨q, job, w⟩ := a
  have hget := (not_caches_iff hf).1 h.uncached
  cases q with
  | contrast k =>
    obtain ⟨hd, hc⟩ := h.idle k rfl facade hf
    show (host.resolveContrast f k w).1 = _
    rw [resolveContrast_uncached hf hget, hd, hc]
    exact attemptContrast_fst k _
  | _ => exact (resolve_uncached hf hget).resolve_left hs

/-- Where no implementation is obtained, there is a cause. -/
theorem obtain_error {e : Error} (hf : a.world.facade? f = some facade)
    (hs : .stalled ∉ (host.obtain f a.query a.world).2.journal)
    (h : (host.obtain f a.query a.world).1 = .error e) : host.Cause f kind P a e := by
  have hu : ¬a.world.Caches f a.query := by
    rw [not_caches_iff hf]
    by_contra hget
    obtain ⟨o, ho⟩ := Option.ne_none_iff_exists'.1 hget
    rw [obtain_cached hf ho] at h
    cases h
  by_cases ha : a.Asks host.env.config.failureThreshold f
  · rw [obtain_asks hf ha hs, create_eq, find_eq] at h
    cases hsel : a.query.select? (host.offers f a) with
    | none =>
      rw [show a.query.select? (host.collected a.query (missing f a.query a.world).2) = none from
        hsel] at h
      cases h
      exact .uncovered ha ((a.query.select?_eq_none_iff _).1 hsel)
    | some s =>
      rw [show a.query.select? (host.collected a.query (missing f a.query a.world).2) = some s from
        hsel] at h
      rcases instantiate_error h with ⟨hc, rfl⟩ | ⟨token, v, e', hc, hi, rfl⟩
      · exact .notCreated ha hsel hc
      · exact .notInitialized ha hsel hc hi
  · -- Only a façade for contrast does not ask.
    have hidle : ∃ k, a.query = .contrast k ∧
        ¬(facade.breaker.isDisabled host.env.config.failureThreshold = false ∧
          facade.breaker.creating = false) := by
      by_contra hno
      push Not at hno
      refine ha ⟨hu, fun k hq facade' hf' => ?_⟩
      cases hf.symm.trans hf'
      exact hno k hq
    obtain ⟨k, hq, hidle⟩ := hidle
    have hget := (not_caches_iff hf).1 hu
    rw [hq] at h hget
    rw [show host.obtain f (.contrast k) a.world = host.resolveContrast f k a.world from rfl,
      resolveContrast_uncached hf hget] at h
    cases hd : facade.breaker.isDisabled host.env.config.failureThreshold with
    | true =>
      rw [hd] at h
      cases h
      exact .disabled hq hu hf hd
    | false =>
      have hc : facade.breaker.creating = true := by
        by_contra hc
        exact hidle ⟨hd, Bool.eq_false_iff.2 hc⟩
      rw [hd, hc] at h
      cases h
      exact .busy hq hu hf hd hc

end Host

end ImageDispatch
