import ImageDispatch.Proofs.Attempts.Causes

/-!
# Dispatchers that refuse what code of others asks

* `Host.Secluded`: no request of code of others is answered. A run of such code changes its memory
  then, and nothing else (`Secluded.invoke_run`).
* `World.Unused`: no algorithm is used, which is to be given a parameter or to work. `Act.Aloof`: an
  action uses none, and leaves façades alone. Whatever comes before a use, and after it, is of that
  kind.
* `Secluded.obtain_provides`: what a façade obtains for a query is in its cache under the key.
-/

namespace ImageDispatch

open Act World

variable {σ α β : Type}

/-! ## Code of others -/

/-- The dispatcher refuses whatever code of others asks. -/
def Host.Secluded (host : Host σ) : Prop := ∀ r w, host.serve r w = (.refused, w)

theorem Host.secluded_zero (env : Environment σ) : (Host.nested env 0).Secluded := fun _ _ => rfl

theorem Foreign.run_secluded {serve : Request → Act σ Reply}
    (hs : ∀ r w, serve r w = (.refused, w)) (code : Foreign σ α) (w : World σ) :
    ∃ memory x, code.run serve w = (x, { w with memory }) := by
  induction code generalizing w with
  | done memory x => exact ⟨memory, x, rfl⟩
  | ask memory request resume ih =>
    obtain ⟨memory', x, hrun⟩ := ih memory .refused { w with memory }
    refine ⟨memory', x, ?_⟩
    rw [Foreign.run, bind_run, bind_run, hs]
    exact hrun

namespace Host.Secluded

variable {host : Host σ} (hs : host.Secluded)

include hs

theorem making {s : Scope} {R : World σ → World σ → Prop} [hR : Lawful s R] : host.Making R :=
  fun r w => by rw [hs r w]; exact Lawful.refl w

theorem moving {free : Bool} : host.Moving free := hs.making

theorem runForeign_run (code : σ → Foreign σ α) (w : World σ) :
    ∃ memory x, host.runForeign code w = (x, { w with memory }) :=
  Foreign.run_secluded hs (code w.memory) w

/-- Nothing is noted between the beginning and the end of a call of an algorithm. -/
theorem invoke_run (o : ObjectId) (m : Method) (succeeded : α → Bool) (code : σ → Foreign σ α)
    (w : World σ) : ∃ memory x, host.invoke o m succeeded code w = (x, { w with
      memory
      journal := .ended o m (succeeded x) :: .began o m :: w.journal }) := by
  obtain ⟨memory, x, hrun⟩ := hs.runForeign_run code (w.note (.began o m))
  have hbegan : emit (.began o m) w = ((), w.note (.began o m)) := rfl
  refine ⟨memory, x, ?_⟩
  unfold invoke
  rw [bind_of_run hbegan, bind_of_run hrun]
  rfl

end Host.Secluded

/-! ## Without a use -/

/-- The event is the beginning of a use of an algorithm. -/
def Event.isUse : Event → Bool
  | .began _ (.set _) | .began _ .work => true
  | _ => false

theorem Event.isUse_report {e : Event} (h : e.isReport = true) : e.isUse = false := by
  cases e <;> first | rfl | cases h

namespace World

/-- No algorithm is used on the way from one world to the other. -/
def Unused (w w' : World σ) : Prop :=
  ∃ new, w'.journal = new ++ w.journal ∧ ∀ e ∈ new, e.isUse = false

namespace Unused

variable {w w₁ w₂ : World σ}

theorem of_eq (h : w₁.journal = w.journal) : w.Unused w₁ := ⟨[], h, nofun⟩

theorem refl (w : World σ) : w.Unused w := of_eq rfl

theorem trans (h₁ : w.Unused w₁) (h₂ : w₁.Unused w₂) : w.Unused w₂ := by
  obtain ⟨new₁, hj₁, hnew₁⟩ := h₁
  obtain ⟨new₂, hj₂, hnew₂⟩ := h₂
  refine ⟨new₂ ++ new₁, by rw [hj₂, hj₁, List.append_assoc], fun e he => ?_⟩
  exact (List.mem_append.1 he).elim (hnew₂ e) (hnew₁ e)

theorem note {e : Event} (h : e.isUse = false) : w.Unused (w.note e) :=
  ⟨[e], rfl, fun e' he => by rw [List.mem_singleton.1 he]; exact h⟩

theorem useCache (w : World σ) (f : FacadeId) (op : Operation)
    (use : Cache Key ObjectId → α × Cache Key ObjectId) : w.Unused (useCache f op use w).2 := by
  rw [useCache_run]
  cases w.facade? f <;> exact of_eq rfl

theorem modifyBreaker (w : World σ) (f : FacadeId) (change : Breaker → Breaker) :
    w.Unused (Host.modifyBreaker f change w).2 := of_eq rfl

end Unused

end World

/-- The action uses no algorithm, and leaves façades alone. -/
def Act.Aloof (a : Act σ α) : Prop := ∀ w : World σ, (a w).2.facades = w.facades ∧ w.Unused (a w).2

namespace Act.Aloof

variable {a : Act σ α}

theorem facade? (h : Aloof a) (w : World σ) (f : FacadeId) :
    (a w).2.facade? f = w.facade? f := by rw [World.facade?, (h w).1]; rfl

theorem unused (h : Aloof a) (w : World σ) : w.Unused (a w).2 := (h w).2

theorem ret (x : α) : Aloof (pure x : Act σ α) := fun w => ⟨rfl, .refl w⟩

theorem bind {f : α → Act σ β} (ha : Aloof a) (hf : ∀ x, Aloof (f x)) : Aloof (a >>= f) := by
  intro w
  obtain ⟨h₁, hu₁⟩ := ha w
  obtain ⟨h₂, hu₂⟩ := hf (a w).1 (a w).2
  exact ⟨h₂.trans h₁, hu₁.trans hu₂⟩

theorem read {f : World σ → Act σ α} (hf : ∀ w, Aloof (f w)) : Aloof (get >>= f) :=
  fun w => hf w w

theorem emit {e : Event} (h : e.isUse = false) : Aloof (emit e : Act σ Unit) :=
  fun _ => ⟨rfl, .note h⟩

theorem log (severity : Severity) (text : String) : Aloof (log severity text : Act σ Unit) :=
  emit rfl

theorem count (counter : Counter) : Aloof (count counter : Act σ Unit) := emit rfl

/-- A change of something else. -/
theorem change {f : World σ → World σ}
    (h : ∀ w : World σ, (f w).facades = w.facades ∧ (f w).journal = w.journal) :
    Aloof (modify f : Act σ Unit) := fun w => ⟨(h w).1, .of_eq (h w).2⟩

end Act.Aloof

namespace Host.Secluded

variable {host : Host σ} (hs : host.Secluded)

include hs

theorem runForeign (code : σ → Foreign σ α) : Aloof (host.runForeign code) := by
  intro w
  obtain ⟨memory, x, hrun⟩ := hs.runForeign_run code w
  rw [hrun]
  exact ⟨rfl, .of_eq rfl⟩

theorem plain {a : Act σ α} (h : host.Plain a) : Aloof a := by
  induction h with
  | ret x => exact .ret x
  | bind _ _ iha ihf => exact iha.bind ihf
  | read _ ih => exact .read ih
  | change hf => exact .change fun w => ⟨(hf w).facades, (hf w).journal⟩
  | report h => exact .emit (Event.isUse_report h)
  | foreign code => exact hs.runForeign code

omit hs in
theorem shortfall_aloof (q : Query) (e : Error) : Aloof (shortfall q e : Act σ Unit) := by
  cases q with
  | detail level =>
    unfold shortfall
    dsimp only
    split
    · exact (Aloof.count _).bind fun _ => Aloof.log _ _
    · exact Aloof.log _ _
  | _ => exact .ret _

/-- To be initialized and deinitialized are no uses. -/
theorem invoke {o : ObjectId} {m : Method} (hm : (Event.began o m).isUse = false)
    (succeeded : α → Bool) (code : σ → Foreign σ α) :
    Aloof (host.invoke o m succeeded code) :=
  (Aloof.emit hm).bind fun _ => (hs.runForeign code).bind fun _ => (Aloof.emit rfl).bind fun _ =>
    .ret _

theorem settleObject (o : ObjectId) : Aloof (host.settleObject o) := by
  unfold Host.settleObject
  refine .read fun w => ?_
  split
  · exact .ret _
  · split
    · refine Aloof.bind (.change fun _ => ⟨rfl, rfl⟩) fun _ => (hs.invoke rfl _ _).bind fun r => ?_
      cases r <;> exact Aloof.log _ _
    · exact .ret _

theorem unpin_object (o : ObjectId) : Aloof (host.unpin (.object o)) :=
  Aloof.bind (.change fun _ => ⟨rfl, rfl⟩) fun _ => hs.settleObject o

theorem instantiate (s : Selection) : Aloof (host.instantiate s) := by
  unfold Host.instantiate
  refine (hs.runForeign _).bind fun token => ?_
  cases token with
  | none => exact (Aloof.log _ _).bind fun _ => (Aloof.count _).bind fun _ => .ret _
  | some token =>
    have add : Aloof (addObject s.info token : Act σ ObjectId) :=
      .read fun w => Aloof.bind (.change fun _ => ⟨rfl, rfl⟩) fun _ => .ret _
    refine add.bind fun o => (hs.invoke rfl _ _).bind fun r => ?_
    cases r with
    | error e => exact (Aloof.log _ _).bind fun _ => (Aloof.count _).bind fun _ => .ret _
    | ok =>
      exact Aloof.bind (.change fun _ => ⟨rfl, rfl⟩) fun _ => (Aloof.count _).bind fun _ =>
        (Aloof.log _ _).bind fun _ => .ret _

theorem create (q : Query) : Aloof (host.create q) := by
  unfold Host.create
  refine (hs.plain (host.find_plain q)).bind fun s => ?_
  cases s with
  | none => exact .ret _
  | some s => exact hs.instantiate s

theorem letDisplacedGo (family : String) (k : Key) (displaced : Option (Key × ObjectId)) :
    Aloof (host.letDisplacedGo family k displaced) := by
  unfold Host.letDisplacedGo
  cases displaced with
  | none => exact .ret _
  | some p =>
    have letGo : Aloof (host.settleObject p.2) := hs.settleObject p.2
    cases Cache.evicted? k (some p) with
    | none => exact letGo
    | some _ => exact (Aloof.log _ _).bind fun _ => letGo

end Host.Secluded

/-! ## What a façade obtains -/

namespace World

variable {w w' : World σ} {f : FacadeId} {facade : Facade} {op : Operation} {k : Key}
  {o : ObjectId}

/-- The façade has the object in the cache of the operation under the key. -/
def Stocks (w : World σ) (f : FacadeId) (op : Operation) (k : Key) (o : ObjectId) : Prop :=
  ∃ facade, w.facade? f = some facade ∧ (k, o) ∈ (facade.cache op).pairs

theorem Stocks.of_facade? (h : w.Stocks f op k o) (hf : w'.facade? f = w.facade? f) :
    w'.Stocks f op k o := by rwa [Stocks, hf]

/-- The façade changes, and keeps what is in the cache. -/
theorem Stocks.modify (h : w.Stocks f op k o) (change : Facade → Facade)
    (hc : ∀ facade, ((change facade).cache op).pairs = (facade.cache op).pairs) :
    (modifyFacade f change w).2.Stocks f op k o := by
  obtain ⟨facade, hf, hmem⟩ := h
  exact ⟨change facade, facade?_modify_self hf change, by rw [hc]; exact hmem⟩

theorem stocks_withCache (hf : w.facade? f = some facade) {c : Cache Key ObjectId}
    (h : (k, o) ∈ c.pairs) : (w.withCache f op c).Stocks f op k o :=
  ⟨facade.withCache op c, facade?_modify_self hf _,
    by rw [Facade.cache_withCache_self]; exact h⟩

/-- No algorithm is used on the way to an object, and the façade has it in its cache. -/
structure Provides (w : World σ) (f : FacadeId) (op : Operation) (k : Key)
    (x : Except Error ObjectId × World σ) : Prop where
  unused : w.Unused x.2
  stocks : ∀ o, x.1 = .ok o → x.2.Stocks f op k o

theorem Provides.of_error (h : w.Unused w') (e : Error) :
    w.Provides f op k (.error e, w') := ⟨h, nofun⟩

theorem Provides.after {w₀ : World σ} {x : Except Error ObjectId × World σ}
    (h : w.Provides f op k x) (hu : w₀.Unused w) : w₀.Provides f op k x :=
  ⟨hu.trans h.unused, h.stocks⟩

end World

namespace Host.Secluded

variable {host : Host σ} (hs : host.Secluded) {w : World σ} {f : FacadeId} {facade : Facade}

include hs

/-- What was created is put into the cache, and what is displaced is let go. -/
theorem letDisplacedGo_stocks {op : Operation} {k : Key} {o : ObjectId} {c : Cache Key ObjectId}
    (hf : w.facade? f = some facade) (hc : (k, o) ∈ c.pairs) (family : String)
    (displaced : Option (Key × ObjectId)) :
    (host.letDisplacedGo family k displaced (w.withCache f op c)).2.Stocks f op k o :=
  (stocks_withCache hf hc).of_facade? ((hs.letDisplacedGo family k displaced).facade? _ f)

theorem createGuarded_provides {op : Operation} {q : Query} (kind : FacadeKind) (g : GuardId)
    (hf : w.facade? f = some facade) :
    w.Provides f op q.key (host.createGuarded f kind op q g w) := by
  have hcreate := hs.create q
  have hunused := hcreate.unused w
  have hthere : (host.create q w).2.facade? f = some facade := (hcreate.facade? w f).trans hf
  unfold createGuarded
  rw [bind_run]
  cases hc : host.create q w with
  | mk r w₁ =>
    rw [hc] at hunused hthere
    cases r with
    | error e =>
      show w.Provides f op q.key (.error e, (useCache f op (fun c => ((), c.fail g)) w₁).2)
      exact .of_error (hunused.trans (.useCache _ _ _ _)) e
    | ok o =>
      have hthere' : (w₁.note (.adopted f o)).facade? f = some facade := hthere
      have hemit : emit (.adopted f o) w₁ = ((), w₁.note (.adopted f o)) := rfl
      obtain ⟨p, n, hfinish⟩ := (facade.cache op).finish_eq q.key g o
      have hput : w.Unused ((w₁.note (.adopted f o)).withCache f op
          ((facade.cache op).finish q.key g o).2) := (hunused.trans (.note rfl)).trans (.of_eq rfl)
      dsimp only
      rw [bind_of_run hemit, bind_of_run (useCache_of_facade hthere' _)]
      refine ⟨hput.trans ((hs.letDisplacedGo _ _ _).unused _), ?_⟩
      rintro _ ⟨⟩
      refine hs.letDisplacedGo_stocks hthere' ?_ _ _
      rw [hfinish, Cache.pairs_guarded]
      exact (facade.cache op).mem_pairs_insert_self q.key o

theorem resolve_provides (kind : FacadeKind) (op : Operation) (q : Query)
    (announcement : Option String) (w : World σ) :
    w.Provides f op q.key (host.resolve f kind op q announcement w) := by
  have hsought : w.Unused (w.note (.sought f)) := .note rfl
  have hemit : emit (.sought f) w = ((), w.note (.sought f)) := rfl
  unfold resolve
  rw [bind_of_run hemit]
  cases hf : (w.note (.sought f)).facade? f with
  | none =>
    rw [bind_run, useCache_run, hf]
    exact .of_error hsought _
  | some facade =>
    obtain ⟨p, r, n, hbegin⟩ := (facade.cache op).begin_eq q.key
    have hpairs : ((facade.cache op).begin q.key).2.pairs = (facade.cache op).pairs := by
      rw [hbegin, Cache.pairs_guarded, Cache.pairs_get]
    let w₁ := (w.note (.sought f)).withCache f op ((facade.cache op).begin q.key).2
    have hthere : w₁.facade? f = some (facade.withCache op ((facade.cache op).begin q.key).2) :=
      facade?_modify_self hf _
    have hunused : w.Unused w₁ := hsought.trans (.of_eq rfl)
    rw [bind_of_run (useCache_of_facade hf _)]
    rcases (facade.cache op).begin_cases q.key with ⟨o, hget, hb⟩ | ⟨-, hb | ⟨g, hb⟩⟩
    · rw [hb]
      refine ⟨hunused.trans (Unused.note rfl), ?_⟩
      rintro _ ⟨⟩
      refine (stocks_withCache hf ?_).of_facade? rfl
      rw [hpairs]
      exact Cache.mem_pairs_of_get hget
    · rw [hb]
      exact .of_error ((hunused.trans (Unused.note rfl)).trans (.note rfl)) _
    · rw [hb]
      -- What is reported in between leaves façades alone.
      have create (w₂ : World σ) (h₂ : w₂.facade? f = w₁.facade? f) (hu : w.Unused w₂) :
          w.Provides f op q.key (host.createGuarded f kind op q g w₂) :=
        (hs.createGuarded_provides kind g (h₂.trans hthere)).after hu
      cases announcement with
      | none => exact create _ rfl (hunused.trans (.note rfl))
      | some text => exact create _ rfl ((hunused.trans (Unused.note rfl)).trans (.note rfl))

theorem attemptContrast_provides (k : ContrastKind) (hf : w.facade? f = some facade) :
    w.Provides f .main (.contrast k) (host.attemptContrast f k w) := by
  have hcreate := hs.create (.contrast k)
  have hunused := hcreate.unused w
  have hthere : (host.create (.contrast k) w).2.facade? f = some facade :=
    (hcreate.facade? w f).trans hf
  unfold attemptContrast
  rw [bind_run]
  cases hc : host.create (.contrast k) w with
  | mk r w₁ =>
    rw [hc] at hunused hthere
    cases r with
    | error e =>
      have hfailed : w.Unused (w₁.note (.failed f)) := hunused.trans (.note rfl)
      refine .of_error ((hfailed.trans (.modifyBreaker _ f Breaker.fail)).trans ?_) e
      exact (hs.plain (host.reportFailure_plain _ _ _ _)).unused _
    | ok o =>
      let w₂ := (modifyBreaker f Breaker.succeed (w₁.note (.adopted f o))).2
      have hthere' : w₂.facade? f =
          some { facade with breaker := facade.breaker.succeed } :=
        facade?_modify_self (w := w₁.note (.adopted f o)) hthere _
      have hadopted : emit (.adopted f o) w₁ = ((), w₁.note (.adopted f o)) := rfl
      have hbreaker : modifyBreaker f Breaker.succeed (w₁.note (.adopted f o)) = ((), w₂) := rfl
      have hu : w.Unused w₂ := (hunused.trans (.note rfl)).trans (.of_eq rfl)
      dsimp only
      rw [bind_of_run hadopted, bind_of_run hbreaker,
        bind_of_run (useCache_of_facade hthere' _)]
      refine ⟨(hu.trans (.of_eq rfl)).trans ((hs.letDisplacedGo _ _ _).unused _), ?_⟩
      rintro _ ⟨⟩
      exact hs.letDisplacedGo_stocks hthere' (Cache.mem_pairs_insert_self _ _ o) _ _

omit hs in
theorem cachedContrast_provides {k : ContrastKind} (hf : w.facade? f = some facade)
    {otherwise : Act σ (Except Error ObjectId)}
    (h : w.Provides f .main (.contrast k) (otherwise w)) :
    w.Provides f .main (.contrast k) (cachedContrast f k otherwise w) := by
  cases hget : ((facade.cache .main).get (.contrast k)).1 with
  | none =>
    rw [cachedContrast_miss hf hget]
    exact h
  | some o =>
    unfold cachedContrast
    rw [bind_of_run (useCache_of_facade hf _), hget]
    refine ⟨.of_eq rfl, ?_⟩
    rintro _ ⟨⟩
    refine (stocks_withCache hf ?_).of_facade? rfl
    rw [Cache.pairs_get]
    exact Cache.mem_pairs_of_get hget

theorem createContrast_provides (k : ContrastKind) (hf : w.facade? f = some facade) :
    w.Provides f .main (.contrast k) (host.createContrast f k w) := by
  unfold createContrast
  rw [facade?_run, hf]
  dsimp only [Option.map_some]
  split
  · exact .of_error (.refl w) _
  · split
    · exact .of_error (.note rfl) _
    · have hthere : (modifyBreaker f Breaker.start w).2.facade? f =
          some { facade with breaker := facade.breaker.start } :=
        facade?_modify_self hf _
      have h := (cachedContrast_provides hthere (hs.attemptContrast_provides k hthere)).after
        (.modifyBreaker w f Breaker.start)
      refine ⟨h.unused.trans (.modifyBreaker _ f Breaker.stop), fun o ho => ?_⟩
      exact (h.stocks o ho).modify _ fun _ => rfl

theorem resolveContrast_provides (k : ContrastKind) (w : World σ) :
    w.Provides f .main (.contrast k) (host.resolveContrast f k w) := by
  have hsought : w.Unused (w.note (.sought f)) := .note rfl
  have hemit : emit (.sought f) w = ((), w.note (.sought f)) := rfl
  unfold resolveContrast
  rw [bind_of_run hemit]
  cases hf : (w.note (.sought f)).facade? f with
  | none =>
    unfold cachedContrast createContrast
    rw [bind_run, useCache_run, hf]
    dsimp only
    rw [facade?_run, hf]
    exact .of_error hsought _
  | some facade =>
    exact (cachedContrast_provides hf (hs.createContrast_provides k hf)).after hsought

/-- What a façade obtains for a query is in its cache under the key. -/
theorem obtain_provides (q : Query) (w : World σ) :
    w.Provides f q.operation q.key (host.obtain f q w) := by
  have resolved (q : Query) : w.Provides f q.operation q.key
      (host.resolve f q.seeker q.operation q q.announcement w) := hs.resolve_provides _ _ _ _ w
  cases q with
  | contrast k => exact hs.resolveContrast_provides k w
  | _ => exact resolved _

end Host.Secluded

end ImageDispatch
