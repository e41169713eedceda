import ImageDispatch.Proofs.Policy.Stock

/-!
# Implementations as good as new

Whether a façade serves an implementation from its cache or creates it does not show.

* `FacadeMemo.Recalls`: what a façade that keeps nothing would remember, next to a façade with its
  caches. A kind of contrast enhancement that has succeeded once is cached, or no kind ever fails
  (`Tallies`): there are two kinds, and only the success of the other one makes it leave.
* `World.Ready`: the façade is there, keeps what is as good as new, and no creation is running.
* `Supplied.resolve_run`, `Supplied.resolveContrast_run`: what a call for an implementation comes
  to follows from the supply and from what is remembered.
-/

namespace ImageDispatch

open Act World

variable {σ α : Type}

/-- How the kinds of contrast enhancement stand, with the pairs in the cache. -/
structure FacadeMemo.Tallies (P : FacadeMemo) (S : Supply) (pairs : List (Key × ObjectId)) :
    Prop where
  makes : ∀ {k}, k ∈ P.made → S.Makes (.contrast k)
  kept : ∀ {k}, k ∈ P.made → (∃ o, (.contrast k, o) ∈ pairs) ∨ ∀ k, S.Makes (.contrast k)
  made : ∀ {k o}, (.contrast k, o) ∈ pairs → k ∈ P.made
  spotless : (∀ k, S.Makes (.contrast k)) → P.failures = 0

/-- What is remembered without caches, next to a façade with caches (module doc). -/
structure FacadeMemo.Recalls (P : FacadeMemo) (S : Supply) (facade : Facade) : Prop where
  kind : facade.kind = P.kind
  parameter : facade.parameter = P.parameter
  breaker : facade.breaker = ⟨P.failures, false⟩
  idle : ∀ op, (facade.cache op).running = []
  tallies : P.kind = .contrast → P.Tallies S (facade.cache .main).pairs

/-- The façade can be called, and answers as one that remembers `P`. -/
def World.Ready (view : AlgorithmView σ) (lib : Option (Library (Register σ))) (S : Supply)
    (f : FacadeId) (P : FacadeMemo) (w : World σ) : Prop :=
  ∃ facade, w.Keeps view lib S f facade ∧ P.Recalls S facade

section

variable {view : AlgorithmView σ} {lib : Option (Library (Register σ))} {S : Supply}
  {w w' : World σ} {f : FacadeId} {facade : Facade} {P : FacadeMemo} {op : Operation}

theorem FacadeMemo.Recalls.unpushed (h : P.Recalls S facade) (hu : P.kind.Unpushed P.parameter) :
    facade.kind.Unpushed facade.parameter := by rwa [h.kind, h.parameter]

theorem World.Ready.aside (h : w.Ready view lib S f P) (ha : w.Aside view w') :
    w'.Ready view lib S f P := h.imp fun _ hk => ⟨hk.1.aside ha, hk.2⟩

/-! ## Uses of a cache -/

/-- The façade in the state has another cache for an operation. -/
def World.withCache (w : World σ) (f : FacadeId) (op : Operation) (c : Cache Key ObjectId) :
    World σ :=
  { w with facades := w.facades.modify f (Option.map fun facade => facade.withCache op c) }

theorem useCache_of_facade (h : w.facade? f = some facade)
    (use : Cache Key ObjectId → α × Cache Key ObjectId) :
    useCache f op use w = (some (use (facade.cache op)).1,
      w.withCache f op (use (facade.cache op)).2) := by rw [useCache_run, h]; rfl

theorem World.withCache_self (h : w.facade? f = some facade) (op : Operation) :
    w.withCache f op (facade.cache op) = w := by
  have hsame : w.facades.modify f (Option.map fun facade' => facade'.withCache op (facade.cache op)) =
      w.facades := by
    refine Array.ext_getElem? fun g => ?_
    rw [Array.getElem?_modify]
    split
    next he =>
      subst he
      rw [facade?_eq_some.1 h, Option.map_some, Option.map_some, Facade.withCache_self]
    · rfl
  rw [World.withCache, hsame]

theorem Host.cachedContrast_hit {k : ContrastKind} {o : ObjectId} (hf : w.facade? f = some facade)
    (ho : ((facade.cache .main).get (.contrast k)).1 = some o)
    (otherwise : Act σ (Except Error ObjectId)) :
    Host.cachedContrast f k otherwise w = (.ok o, (pin (.object o)
      (w.withCache f .main ((facade.cache .main).get (.contrast k)).2)).2) := by
  unfold Host.cachedContrast
  rw [bind_run, useCache_of_facade hf, ho]
  rfl

/-- A look into the cache that finds nothing leaves the cache as it was. -/
theorem Host.cachedContrast_miss {k : ContrastKind} (hf : w.facade? f = some facade)
    (ho : ((facade.cache .main).get (.contrast k)).1 = none)
    (otherwise : Act σ (Except Error ObjectId)) :
    Host.cachedContrast f k otherwise w = otherwise w := by
  unfold Host.cachedContrast
  rw [bind_run, useCache_of_facade hf, ho, Cache.get_of_none ho, World.withCache_self hf]

@[simp] theorem Facade.withCache_twice (facade : Facade) (op : Operation)
    (c c' : Cache Key ObjectId) :
    (facade.withCache op c).withCache op c' = facade.withCache op c' := by
  cases op <;> rfl

/-- A cache that has what was there, and perhaps one new object. -/
theorem World.Keeps.withCache (h : w.Keeps view lib S f facade) {c : Cache Key ObjectId}
    (hk : c.Keyed)
    (hs : ∀ {k o}, (k, o) ∈ c.pairs → (k, o) ∈ (facade.cache op).pairs ∨ ∃ s last,
      S.creation (op.queryOf k) = .ok s ∧ w.Has view o s last ∧
        (facade.kind.Unpushed facade.parameter → last = none)) :
    (w.withCache f op c).Keeps view lib S f (facade.withCache op c) := by
  refine h.change (fun g => g.withCache op c) (h.keyed.withCache hk) fun {op' k o} hm => ?_
  rw [Facade.kind_withCache, Facade.parameter_withCache]
  by_cases he : op' = op
  · subst he
    rw [Facade.cache_withCache_self] at hm
    rcases hs hm with hm | hnew
    · exact h.kept hm
    · exact hnew
  · rw [Facade.cache_withCache_ne _ _ he] at hm
    exact h.kept hm

/-- Nothing is put in. -/
theorem World.Keeps.spare (h : w.Keeps view lib S f facade) {c : Cache Key ObjectId}
    (hk : c.Keyed) (hp : c.pairs = (facade.cache op).pairs) :
    (w.withCache f op c).Keeps view lib S f (facade.withCache op c) :=
  h.withCache hk fun hm => .inl (hp ▸ hm)

theorem FacadeMemo.Recalls.withCache (h : P.Recalls S facade) {c : Cache Key ObjectId}
    (hi : c.running = [])
    (ht : P.kind = .contrast → P.Tallies S ((facade.withCache op c).cache .main).pairs) :
    P.Recalls S (facade.withCache op c) where
  kind := by rw [Facade.kind_withCache]; exact h.kind
  parameter := by rw [Facade.parameter_withCache]; exact h.parameter
  breaker := by rw [Facade.breaker_withCache]; exact h.breaker
  idle := fun op' => by
    by_cases he : op' = op
    · subst he; rw [Facade.cache_withCache_self]; exact hi
    · rw [Facade.cache_withCache_ne _ _ he]; exact h.idle op'
  tallies := ht

/-! ## The tally of contrast enhancement -/

/-- The façade with another state of the creations. -/
def Facade.withBreaker (facade : Facade) (b : Breaker) : Facade := { facade with breaker := b }

@[simp] theorem Facade.cache_withBreaker (facade : Facade) (b : Breaker) (op : Operation) :
    (facade.withBreaker b).cache op = facade.cache op := by cases op <;> rfl

theorem modifyBreaker_keeps (h : w.Keeps view lib S f facade) (change : Breaker → Breaker) :
    (Host.modifyBreaker f change w).2.Keeps view lib S f
      (facade.withBreaker (change facade.breaker)) :=
  h.reform (fun g => g.withBreaker (change g.breaker)) (fun _ => Facade.cache_withBreaker _ _ _) id

theorem FacadeMemo.Tallies.fail {pairs : List (Key × ObjectId)} (h : P.Tallies S pairs)
    {k : ContrastKind} {e : Error} (hk : S.creation (.contrast k) = .error e) :
    { P with failures := P.failures + 1 : FacadeMemo }.Tallies S pairs where
  makes := h.makes
  kept := h.kept
  made := h.made
  spotless := fun hall => by
    obtain ⟨s, hs⟩ := hall k
    rw [hk] at hs
    cases hs

/-- A kind has succeeded. Only the other kind may have left for it, and then both can be made. -/
theorem FacadeMemo.Tallies.succeed {pairs pairs' : List (Key × ObjectId)} (h : P.Tallies S pairs)
    {k : ContrastKind} {o : ObjectId} (hk : S.Makes (.contrast k))
    (hp : (.contrast k, o) ∈ pairs' ∧ ∀ p ∈ pairs', p = (.contrast k, o) ∨ p ∈ pairs)
    {made : List ContrastKind} (hmade : ∀ k', k' ∈ made ↔ k' = k ∨ k' ∈ P.made) :
    { P with failures := 0, made : FacadeMemo }.Tallies S pairs' where
  makes := fun {k'} hm => ((hmade k').1 hm).elim (fun he => he ▸ hk) h.makes
  kept := fun {k'} hm => by
    by_cases he : k' = k
    · exact .inl ⟨o, he ▸ hp.1⟩
    · have hk' := h.makes (((hmade k').1 hm).resolve_left he)
      exact .inr fun k'' => by
        cases k <;> cases k' <;> cases k'' <;> first | assumption | contradiction
  made := fun {k' o'} hm => (hmade k').2 <| by
    rcases hp.2 _ hm with he | hm
    · cases he; exact .inl rfl
    · exact .inr (h.made hm)
  spotless := fun _ => rfl

/-- Where a kind has succeeded and is not cached, there are no failures. -/
theorem FacadeMemo.Tallies.spotless_of_missing {pairs : List (Key × ObjectId)}
    (h : P.Tallies S pairs) {k : ContrastKind} (hk : k ∈ P.made)
    (hn : ∀ o, (.contrast k, o) ∉ pairs) : P.failures = 0 :=
  h.spotless ((h.kept hk).resolve_left fun ⟨o, ho⟩ => hn o ho)

/-- A creation that was started has failed, and is over. -/
theorem FacadeMemo.Recalls.failed (h : P.Recalls S facade) (hc : P.kind = .contrast)
    {k : ContrastKind} {e : Error} (hk : S.creation (.contrast k) = .error e) :
    { P with failures := P.failures + 1 : FacadeMemo }.Recalls S
      (facade.withBreaker facade.breaker.start.fail.stop) where
  kind := h.kind
  parameter := h.parameter
  breaker := by
    show facade.breaker.start.fail.stop = _
    rw [h.breaker]
    rfl
  idle := fun op => by rw [Facade.cache_withBreaker]; exact h.idle op
  tallies := fun _ => by rw [Facade.cache_withBreaker]; exact (h.tallies hc).fail hk

/-- A creation that was started has put an object in, and is over. -/
theorem FacadeMemo.Recalls.succeeded (h : P.Recalls S facade) (hc : P.kind = .contrast)
    {k : ContrastKind} (hk : S.Makes (.contrast k)) {c : Cache Key ObjectId} {o : ObjectId}
    (hrun : c.running = (facade.cache .main).running)
    (hp : (.contrast k, o) ∈ c.pairs ∧
      ∀ p ∈ c.pairs, p = (.contrast k, o) ∨ p ∈ (facade.cache .main).pairs)
    {made : List ContrastKind} (hmade : ∀ k', k' ∈ made ↔ k' = k ∨ k' ∈ P.made) :
    { P with failures := 0, made : FacadeMemo }.Recalls S
      ((facade.withBreaker facade.breaker.start.succeed.stop).withCache .main c) where
  kind := h.kind
  parameter := h.parameter
  breaker := by
    show facade.breaker.start.succeed.stop = _
    rw [h.breaker]
    rfl
  idle := fun op => by
    cases op with
    | main => exact hrun.trans (h.idle .main)
    | compose => exact h.idle .compose
    | decompose => exact h.idle .decompose
  tallies := fun _ => (h.tallies hc).succeed hk hp hmade

end

namespace Host.Supplied

variable {host : Host σ} {view : AlgorithmView σ} {lib : Option (Library (Register σ))}
  {S : Supply} (hs : host.Supplied view lib S) {w : World σ} {f : FacadeId} {facade : Facade}
  {P : FacadeMemo} {op : Operation} {q : Query}

include hs

/-- A new object has been put in, and what had to leave for it goes. -/
theorem putIn_keeps (h : w.Keeps view lib S f facade) (hq : op.queryOf q.key = q) {s : Selection}
    (hcr : S.creation q = .ok s) {o : ObjectId} {last : Option Parameter}
    (ho : w.Has view o s last) (hl : facade.kind.Unpushed facade.parameter → last = none)
    {c : Cache Key ObjectId} (hk : c.Keyed)
    (hp : (q.key, o) ∈ c.pairs ∧ ∀ p ∈ c.pairs, p = (q.key, o) ∨ p ∈ (facade.cache op).pairs)
    (family : String) (displaced : Option (Key × ObjectId)) :
    let w' := (host.letDisplacedGo family q.key displaced (w.withCache f op c)).2
    w'.Keeps view lib S f (facade.withCache op c) ∧
      w'.Obtains view (facade.kind.Unpushed facade.parameter) (S.creation q) (.ok o) := by
  have hput : (w.withCache f op c).Keeps view lib S f (facade.withCache op c) := by
    refine h.withCache hk fun {k o'} hm => ?_
    rcases hp.2 _ hm with he | hm
    · cases he
      exact .inr ⟨s, last, by rw [hq]; exact hcr, ho, hl⟩
    · exact .inl hm
  have hgone := hs.letDisplacedGo_keeps hput family q.key displaced
  have hmem : (q.key, o) ∈ ((facade.withCache op c).cache op).pairs := by
    rw [Facade.cache_withCache_self]; exact hp.1
  obtain ⟨s', last', hcr', ho', hl'⟩ := hgone.kept hmem
  rw [Facade.kind_withCache, Facade.parameter_withCache] at hl'
  rw [hq] at hcr'
  rw [hcr']
  exact ⟨hgone, .gets ho' hl'⟩

theorem createGuarded_run (h : w.Keeps view lib S f facade) (hq : op.queryOf q.key = q)
    {g : GuardId} (hg : (facade.cache op).running = [g]) (kind : FacadeKind) :
    ∃ r w' c, host.createGuarded f kind op q g w = (r, w') ∧ c.running = [] ∧
      w'.Keeps view lib S f (facade.withCache op c) ∧
      w'.Obtains view (facade.kind.Unpushed facade.parameter) (S.creation q) r := by
  obtain ⟨r, w₁, hcreate, h₁, hob⟩ := hs.create_run h q (facade.kind.Unpushed facade.parameter)
  unfold createGuarded
  rw [bind_of_run hcreate]
  generalize hcr : S.creation q = result at hob
  cases hob with
  | fails e =>
    have huse : discard (useCache f op fun c => ((), c.fail g)) w₁ =
        ((), w₁.withCache f op ((facade.cache op).fail g)) :=
      congrArg (fun p : Option Unit × World σ => ((), p.2))
        (useCache_of_facade h₁.facade_eq fun c => ((), c.fail g))
    simp only
    rw [bind_of_run huse]
    exact ⟨_, _, _, rfl, by simp [Cache.fail, Cache.letGo, hg], h₁.spare (h₁.keyed op) rfl,
      .fails e⟩
  | @gets s o last ho hl =>
    let w₂ := w₁.note (.adopted f o)
    have h₂ : w₂.Keeps view lib S f facade := h₁.aside (.note w₁ _)
    obtain ⟨p, n, hfinish⟩ := (facade.cache op).finish_eq q.key g o
    have hemit : emit (.adopted f o) w₁ = ((), w₂) := rfl
    simp only
    rw [bind_of_run hemit, bind_of_run (useCache_of_facade h₂.facade_eq _), hfinish]
    have hput := hs.putIn_keeps h₂ hq hcr (ho.aside (.note w₁ _)) hl
      (((h₂.keyed op).insert q.key o).guarded p ((facade.cache op).running.erase g) n)
      ((h₂.keyed op).mem_pairs_insert q.key o) kind.family
      ((facade.cache op).insert q.key o).1
    rw [hcr] at hput
    exact ⟨_, _, _, rfl, by simp [Cache.guarded, hg], hput⟩

/-- An implementation from the cache is as good as a new one. -/
theorem resolve_run (h : w.Ready view lib S f P) (hc : P.kind ≠ .contrast)
    (hq : op.queryOf q.key = q) (kind : FacadeKind) (announcement : Option String) :
    ∃ r w', host.resolve f kind op q announcement w = (r, w') ∧ w'.Ready view lib S f P ∧
      w'.Obtains view (P.kind.Unpushed P.parameter) (S.creation q) r := by
  obtain ⟨facade, hk, hr⟩ := h
  let w₁ := w.note (.sought f)
  have hsought : emit (.sought f) w = ((), w₁) := rfl
  have h₁ : w₁.Keeps view lib S f facade := hk.aside (.note w _)
  obtain ⟨hpairs, hstart⟩ := (facade.cache op).begin_idle q.key (hr.idle op)
  have h₂ := h₁.spare ((spares_begin q.key).keyed (h₁.keyed op)) hpairs
  unfold resolve
  rw [bind_of_run hsought, bind_of_run (useCache_of_facade h₁.facade_eq _)]
  rcases hstart with ⟨o, hbegin, hmem, hrun⟩ | ⟨g, hbegin, hrun⟩
  · obtain ⟨s, last, hcr, ho, hl⟩ := hk.kept hmem
    rw [hq] at hcr
    rw [hbegin, hcr]
    exact ⟨_, _, rfl,
      ⟨_, h₂.aside ⟨rfl, rfl, rfl, rfl, rfl⟩, hr.withCache hrun fun hk => absurd hk hc⟩,
      .gets (show w₁.Has view o s last from ho) fun hp => hl (hr.unpushed hp)⟩
  · rw [hbegin]
    -- The reports in between leave the state aside.
    have miss : ∀ w₂, (w₁.withCache f op ((facade.cache op).begin q.key).2).Aside view w₂ →
        ∃ r w', host.createGuarded f kind op q g w₂ = (r, w') ∧ w'.Ready view lib S f P ∧
          w'.Obtains view (P.kind.Unpushed P.parameter) (S.creation q) r := by
      intro w₂ ha
      obtain ⟨r, w', c, hcreate, hc', hk', hob⟩ := hs.createGuarded_run (h₂.aside ha) hq
        (by rw [Facade.cache_withCache_self]; exact hrun) kind
      rw [Facade.withCache_twice] at hk'
      refine ⟨r, w', hcreate, ⟨_, hk', hr.withCache hc' fun hk => absurd hk hc⟩,
        hob.mono rfl rfl fun hu => ?_⟩
      rw [Facade.kind_withCache, Facade.parameter_withCache]
      exact hr.unpushed hu
    cases announcement with
    | none => exact miss _ (.note _ _)
    | some text => exact miss _ ((World.Aside.note _ _).trans (.note _ _))

/-! ## Contrast enhancement -/

omit hs in
theorem reportFailure_run (view : AlgorithmView σ) (family : String) (threshold : UInt32)
    (b : Breaker) (e : Error) (w : World σ) :
    ∃ w', reportFailure family threshold b e w = ((), w') ∧ w.Aside view w' := by
  unfold reportFailure
  split <;> exact ⟨_, rfl, .note w _⟩

/-- An attempt fails if the supply fails, and puts an object in otherwise. -/
theorem attemptContrast_run (h : w.Keeps view lib S f facade) (k : ContrastKind) :
    ∃ r w', host.attemptContrast f k w = (r, w') ∧
      w'.Obtains view (facade.kind.Unpushed facade.parameter) (S.creation (.contrast k)) r ∧
      (∀ e, S.creation (.contrast k) = .error e →
        w'.Keeps view lib S f (facade.withBreaker facade.breaker.fail)) ∧
      ∀ s, S.creation (.contrast k) = .ok s → ∃ c o, c.running = (facade.cache .main).running ∧
        ((.contrast k, o) ∈ c.pairs ∧
          ∀ p ∈ c.pairs, p = (.contrast k, o) ∨ p ∈ (facade.cache .main).pairs) ∧
        w'.Keeps view lib S f ((facade.withBreaker facade.breaker.succeed).withCache .main c) := by
  obtain ⟨r, w₁, hcreate, h₁, hob⟩ :=
    hs.create_run h (.contrast k) (facade.kind.Unpushed facade.parameter)
  unfold attemptContrast
  rw [bind_of_run hcreate]
  generalize hcr : S.creation (.contrast k) = result at hob
  cases hob with
  | fails e =>
    let w₂ := w₁.note (.failed f)
    have hemit : emit (.failed f) w₁ = ((), w₂) := rfl
    have h₂ := modifyBreaker_keeps (h₁.aside (.note w₁ (.failed f))) Breaker.fail
    obtain ⟨w₃, hw₃, ha⟩ := reportFailure_run view FacadeKind.contrast.family
      host.env.config.failureThreshold facade.breaker.fail e (modifyBreaker f Breaker.fail w₂).2
    simp only
    rw [bind_of_run hemit, bind_run, facade?_run, h₂.facade_eq]
    refine ⟨.error e, w₃, ?_, .fails e, fun _ _ => h₂.aside ha, nofun⟩
    exact (bind_of_run hw₃).trans rfl
  | @gets s o last ho hl =>
    let w₂ := w₁.note (.adopted f o)
    let w₃ := (modifyBreaker f Breaker.succeed w₂).2
    have h₃ : w₃.Keeps view lib S f (facade.withBreaker facade.breaker.succeed) :=
      modifyBreaker_keeps (h₁.aside (.note w₁ _)) Breaker.succeed
    have hemit : emit (.adopted f o) w₁ = ((), w₂) := rfl
    have hbreaker : modifyBreaker f Breaker.succeed w₂ = ((), w₃) := rfl
    have hquery : Operation.main.queryOf (Query.contrast k).key = .contrast k := rfl
    have hput := hs.putIn_keeps h₃ hquery hcr (show w₃.Has view o s last from ho) hl
      ((h₃.keyed .main).insert _ o) ((h₃.keyed .main).mem_pairs_insert _ o)
      FacadeKind.contrast.family ((facade.cache .main).insert (.contrast k) o).1
    rw [hcr] at hput
    simp only
    rw [bind_of_run hemit, bind_of_run hbreaker, bind_of_run (useCache_of_facade h₃.facade_eq _)]
    exact ⟨_, _, rfl, hput.2, nofun, fun s' _ =>
      ⟨_, o, (h.keyed .main).running_insert _ _, (h.keyed .main).mem_pairs_insert _ _, hput.1⟩⟩

/-- A kind that is not cached. If it has succeeded before, then it succeeds again, and there is no
failure to be forgotten. -/
theorem createContrast_run (h : w.Keeps view lib S f facade) (hr : P.Recalls S facade)
    (hc : P.kind = .contrast) {k : ContrastKind}
    (hn : ∀ o, (.contrast k, o) ∉ (facade.cache .main).pairs) :
    ∃ r w', host.createContrast f k w = (r, w') ∧ w'.Ready view lib S f (S.contrast k P).2 ∧
      w'.Obtains view (P.kind.Unpushed P.parameter) (S.contrast k P).1 r := by
  have ht := hr.tallies hc
  unfold createContrast
  rw [facade?_run, h.facade_eq, Option.map_some, hr.breaker]
  simp only [Breaker.isDisabled, hs.threshold, decide_eq_true_eq]
  by_cases hd : S.threshold < P.failures
  · have hmade : k ∉ P.made := by
      intro hm
      rw [ht.spotless_of_missing hm hn] at hd
      exact absurd hd (by simp)
    have hspec : S.contrast k P = (.error (.creationDisabled FacadeKind.contrast.family), P) := by
      unfold Supply.contrast
      cases S.creation (.contrast k) <;> simp [hmade, hd]
    rw [if_pos hd, hspec]
    exact ⟨_, w, rfl, ⟨facade, h, hr⟩, .fails _⟩
  · rw [if_neg hd, if_neg (by simp)]
    let w₁ := (modifyBreaker f Breaker.start w).2
    have hstart : modifyBreaker f Breaker.start w = ((), w₁) := rfl
    have h₁ := modifyBreaker_keeps h Breaker.start
    obtain ⟨r, w₂, hattempt, hob, hfail, hok⟩ := hs.attemptContrast_run h₁ k
    have hget : ((facade.cache .main).get (.contrast k)).1 = none := Cache.get_of_not_mem_pairs hn
    rw [bind_of_run hstart, bind_of_run ((cachedContrast_miss h₁.facade_eq hget _).trans hattempt)]
    have hob' : (modifyBreaker f Breaker.stop w₂).2.Obtains view (P.kind.Unpushed P.parameter)
        (S.creation (.contrast k)) r := hob.mono rfl rfl hr.unpushed
    cases hcr : S.creation (.contrast k) with
    | error e =>
      have hspec : S.contrast k P = (.error e, { P with failures := P.failures + 1 }) := by
        simp [Supply.contrast, hcr, hd]
      have hdone := modifyBreaker_keeps (hfail e hcr) Breaker.stop
      rw [hspec]
      exact ⟨r, _, rfl, ⟨_, hdone, hr.failed hc hcr⟩, hcr ▸ hob'⟩
    | ok s =>
      obtain ⟨c, o, hrun, hp, hkeeps⟩ := hok s hcr
      have hdone := modifyBreaker_keeps hkeeps Breaker.stop
      rw [Facade.cache_withBreaker] at hrun hp
      by_cases hm : k ∈ P.made
      · have hspec : S.contrast k P = (.ok s, { P with failures := 0, made := P.made }) := by
          rw [← ht.spotless_of_missing hm hn]
          simp [Supply.contrast, hcr, hm]
        rw [hspec]
        exact ⟨r, _, rfl, ⟨_, hdone, hr.succeeded hc ⟨s, hcr⟩ hrun hp (by simp [hm])⟩, hcr ▸ hob'⟩
      · have hspec : S.contrast k P = (.ok s, { P with failures := 0, made := k :: P.made }) := by
          simp [Supply.contrast, hcr, hd, hm]
        rw [hspec]
        exact ⟨r, _, rfl, ⟨_, hdone, hr.succeeded hc ⟨s, hcr⟩ hrun hp (by simp)⟩, hcr ▸ hob'⟩

theorem resolveContrast_run (h : w.Ready view lib S f P) (hc : P.kind = .contrast)
    (k : ContrastKind) :
    ∃ r w', host.resolveContrast f k w = (r, w') ∧ w'.Ready view lib S f (S.contrast k P).2 ∧
      w'.Obtains view (P.kind.Unpushed P.parameter) (S.contrast k P).1 r := by
  obtain ⟨facade, hk, hr⟩ := h
  let w₁ := w.note (.sought f)
  have hsought : emit (.sought f) w = ((), w₁) := rfl
  have h₁ : w₁.Keeps view lib S f facade := hk.aside (.note w _)
  unfold resolveContrast
  rw [bind_of_run hsought]
  cases hget : ((facade.cache .main).get (.contrast k)).1 with
  | some o =>
    let c := ((facade.cache .main).get (.contrast k)).2
    have h₂ : (w₁.withCache f .main c).Keeps view lib S f (facade.withCache .main c) :=
      h₁.spare ((h₁.keyed .main).get _) (Cache.pairs_get _ _)
    have hr₂ : P.Recalls S (facade.withCache .main c) :=
      hr.withCache ((Cache.running_get _ _).trans (hr.idle .main)) fun hc => by
        rw [Facade.cache_withCache_self, Cache.pairs_get]
        exact hr.tallies hc
    have hmem := Cache.mem_pairs_of_get hget
    obtain ⟨s, last, hcr, ho, hl⟩ := hk.kept hmem
    have hspec : S.contrast k P = (.ok s, P) := by
      have hcr' : S.creation (.contrast k) = .ok s := hcr
      simp [Supply.contrast, hcr', (hr.tallies hc).made hmem]
    unfold cachedContrast
    rw [bind_of_run (useCache_of_facade h₁.facade_eq _), hget, hspec]
    exact ⟨_, _, rfl, ⟨_, h₂.aside ⟨rfl, rfl, rfl, rfl, rfl⟩, hr₂⟩,
      .gets (show w₁.Has view o s last from ho) fun hp => hl (hr.unpushed hp)⟩
  | none =>
    rw [cachedContrast_miss h₁.facade_eq hget]
    exact hs.createContrast_run h₁ hr hc (Cache.not_mem_pairs_of_get hget)

end Host.Supplied

end ImageDispatch
