import ImageDispatch.Proofs.Lookups.Quiet

/-!
# What a lookup does

A façade looks for an implementation where no creation is under way, as code of others is not
answered.

* `World.Looked f op c new n w w'`: on the way from `w` to `w'` the cache of the façade `f` for the
  operation `op` has become `c`. Every other cache is as it was, `new` was counted, and `n` queries
  were answered.
* `Host.Created`: a creation counts a query, and then no capability is told to be there, or a
  failure or a creation is counted.
* `Query.Obtained`: what a lookup comes to. It serves what is cached, and answers no query. Or it
  counts a miss and creates, and what it creates is a new object.
* `Host.Secluded.obtain_obtained`: so it is with every lookup of a façade.
-/

namespace ImageDispatch

open Act World

variable {σ α : Type}

/-! ## Caches in which nothing is created -/

namespace Cache

variable {κ : Type} [DecidableEq κ] {c : Cache κ α} {k : κ}

theorem begin_of_get {v : α} (h : (c.get k).1 = some v) : c.begin k = (.hit v, (c.get k).2) := by
  unfold begin
  split
  next heq =>
    rw [heq] at h
    cases h
    rw [heq]
  next heq =>
    rw [heq] at h
    cases h

theorem begin_of_idle (hi : c.running = []) (h : (c.get k).1 = none) :
    ∃ g p n, c.begin k = (.miss g, c.guarded p [g] n) := by
  have hc := get_of_none h
  unfold begin
  split
  next heq =>
    rw [heq] at h
    cases h
  next heq =>
    rw [heq] at hc
    cases hc
    split
    · rw [if_neg (by rw [hi]; exact List.not_mem_nil)]
      exact ⟨_, _, _, by rw [hi]; rfl⟩
    · exact ⟨_, _, _, by rw [hi]; rfl⟩

end Cache

/-! ## Accounts of lookups -/

namespace World

variable {p : CachePolicy} {f : FacadeId} {op : Operation} {c : Cache Key ObjectId}
  {new : List Event} {n : Nat} {w w₁ w₂ : World σ}

/-- A query was counted. -/
def asked (w : World σ) (q : Query) : World σ :=
  ({ w with queries := w.queries + 1 } : World σ).note (.count (.queries q.type) 1)

theorem counted_note {e : Event} (h : e.isCounted = true) (w : World σ) :
    (w.note e).counted = e :: w.counted :=
  List.filter_cons_of_pos h

theorem users?_note {e : Event} (h : e.users? = none) (w : World σ) :
    (w.note e).users? = w.users? := by
  show (e :: w.journal).findSome? Event.users? = _
  rw [List.findSome?_cons, h]
  rfl

/-- The account of a lookup (module doc). -/
structure Looked (f : FacadeId) (op : Operation) (c : Cache Key ObjectId) (new : List Event)
    (n : Nat) (w w' : World σ) : Prop where
  caches : ∀ g op', w'.cache? g op' = if g = f ∧ op' = op then some c else w.cache? g op'
  facades : w'.facades.size = w.facades.size
  objects : w.objects.size ≤ w'.objects.size
  counted : w'.counted = new ++ w.counted
  queries : w'.queries = w.queries + n
  users : w'.users? = w.users?
  instances : w'.instances = w.instances

namespace Looked

variable {facade : Facade}

theorem self (hf : w.facade? f = some facade) : w.Looked f op (facade.cache op) [] 0 w where
  caches g op' := by
    split
    next h =>
      obtain ⟨rfl, rfl⟩ := h
      exact cache?_eq_some.2 ⟨facade, hf, rfl⟩
    next => rfl
  facades := rfl
  objects := Nat.le_refl _
  counted := rfl
  queries := rfl
  users := rfl
  instances := rfl

/-- The façade is there afterwards, with the new cache. -/
theorem there (h : w.Looked f op c new n w₁) :
    ∃ facade, w₁.facade? f = some facade ∧ facade.cache op = c :=
  cache?_eq_some.1 (by rw [h.caches, if_pos ⟨rfl, rfl⟩])

theorem still (h : w.Looked f op c new n w₁) (hq : w₁.Quiet true p w₂) :
    w.Looked f op c new n w₂ := by
  obtain ⟨hfacades, husers, hinstances⟩ := hq.still rfl
  exact
    { caches := fun g op' => by rw [cache?_of_facades hfacades, h.caches]
      facades := by rw [hfacades, h.facades]
      objects := h.objects.trans hq.objects
      counted := by rw [hq.counted, h.counted]
      queries := by rw [hq.queries, h.queries]
      users := by rw [husers, h.users]
      instances := by rw [hinstances, h.instances] }

/-- Something is noted that does not count. -/
theorem note (h : w.Looked f op c new n w₁) {e : Event} (hc : e.isCounted = false)
    (hu : e.users? = none) : w.Looked f op c new n (w₁.note e) :=
  h.still (p := .unbounded) (.note hc hu)

/-- Something is counted. -/
theorem count (h : w.Looked f op c new n w₁) {e : Event} (hc : e.isCounted = true)
    (hu : e.users? = none) : w.Looked f op c (e :: new) n (w₁.note e) :=
  { h with
    caches := h.caches
    counted := by rw [counted_note hc, h.counted]; rfl
    users := by rw [users?_note hu, h.users] }

/-- A query is counted. -/
theorem ask (h : w.Looked f op c new n w₁) (q : Query) :
    w.Looked f op c (.count (.queries q.type) 1 :: new) (n + 1) (w₁.asked q) :=
  { h with
    caches := h.caches
    counted := by
      show List.filter Event.isCounted (.count (.queries q.type) 1 :: w₁.journal) = _
      rw [List.filter_cons_of_pos rfl]
      exact congrArg _ h.counted
    queries := congrArg (· + 1) h.queries
    users := (users?_note (e := .count (.queries q.type) 1) rfl _).trans h.users }

/-- The façade changes, and has one other cache perhaps. -/
theorem modify (h : w.Looked f op c new n w₁) (hf : w₁.facade? f = some facade)
    (change : Facade → Facade)
    (hc : ∀ op', op' ≠ op → (change facade).cache op' = facade.cache op') :
    w.Looked f op ((change facade).cache op) new n (modifyFacade f change w₁).2 :=
  { h with
    caches := fun g op' => by
      rw [cache?_modify hf]
      by_cases hg : g = f
      · subst hg
        rw [if_pos rfl]
        by_cases hop : op' = op
        · rw [if_pos ⟨rfl, hop⟩, hop]
        · rw [if_neg fun he => hop he.2, hc op' hop,
            ← (h.caches g op').trans (if_neg fun he => hop he.2)]
          exact (cache?_eq_some.2 ⟨facade, hf, rfl⟩).symm
      · rw [if_neg hg, h.caches, if_neg fun he => hg he.1, if_neg fun he => hg he.1]
    facades := (Array.size_modify ..).trans h.facades }

theorem withCache (h : w.Looked f op c new n w₁) (c' : Cache Key ObjectId) :
    w.Looked f op c' new n (w₁.withCache f op c') := by
  obtain ⟨facade, hf, -⟩ := h.there
  have hmodified := h.modify hf (fun facade => facade.withCache op c') fun op' hne =>
    facade.cache_withCache_ne c' hne
  rwa [Facade.cache_withCache_self] at hmodified

theorem modifyBreaker (h : w.Looked f op c new n w₁) (change : Breaker → Breaker) :
    w.Looked f op c new n (Host.modifyBreaker f change w₁).2 := by
  obtain ⟨facade, hf, rfl⟩ := h.there
  have hcache (op' : Operation) :
      ({ facade with breaker := change facade.breaker } : Facade).cache op' = facade.cache op' := by
    cases op' <;> rfl
  have hmodified := h.modify hf (fun facade => { facade with breaker := change facade.breaker })
    fun op' _ => hcache op'
  rwa [hcache] at hmodified

end Looked

end World

/-! ## Creations -/

namespace Host

/-- How a creation for a query ends, with the world afterwards. -/
inductive Created (host : Host σ) (q : Query) (w : World σ) : Except Error ObjectId → World σ → Prop
  | missing {v : World σ} (h : (w.asked q).Quiet true host.env.config.cachePolicy v) :
    Created host q w (.error q.notFound) v
  | fails {e : Error} {v : World σ} (name : String) (he : e.isNotFound = false)
    (h : ((w.asked q).note (.count (.initFailures name) 1)).Quiet true
      host.env.config.cachePolicy v) :
    Created host q w (.error e) v
  | creates {o : ObjectId} {v : World σ} (name : String) (hold : w.objects.size ≤ o)
    (hnew : o < v.objects.size)
    (h : ((w.asked q).note (.count (.creations name) 1)).Quiet true
      host.env.config.cachePolicy v) :
    Created host q w (.ok o) v

end Host

/-- An event is noted before or afterwards. -/
theorem World.Quiet.noted {still : Bool} {p : CachePolicy} {w w₁ : World σ}
    (h : w.Quiet still p w₁) {e : Event} (hu : e.users? = none) :
    (w.note e).Quiet still p (w₁.note e) := by
  refine ⟨?_, h.queries, h.objects, h.facades, h.descends, fun hg n hn => ?_, fun hs => ?_⟩
  · show (e :: w₁.journal).filter Event.isCounted = (e :: w.journal).filter Event.isCounted
    rw [List.filter_cons, List.filter_cons]
    split
    · exact congrArg (e :: ·) h.counted
    · exact h.counted
  · rw [users?_note hu] at hn
    exact h.gauged (fun m hm => hg m ((users?_note hu w).trans hm)) n hn
  · obtain ⟨hf, hu', hi⟩ := h.still hs
    exact ⟨hf, by rw [users?_note hu, users?_note hu, hu'], hi⟩

namespace Host.Secluded

variable {host : Host σ} (hs : host.Secluded)

include hs

theorem find_quiet (q : Query) (w : World σ) :
    (w.asked q).Quiet true host.env.config.cachePolicy (host.find q w).2 := by
  have collect : host.Quiet true (do
      let list ← host.load q.family true true
      emit (.count (.loaded q.type) list.length)
      (mislabelled q.type q.type.shape list).forM fun d => Act.log .warn d.mislabelledMessage
      let selection := q.select? list
      Act.log .debug (q.report selection)
      return selection) :=
    (hs.load_quiet q.family true true).bind fun _ => Quiet.bind (.emit rfl rfl) fun _ =>
      (Quiet.forM _ fun _ _ => Quiet.log _ _).bind fun _ => (Quiet.log _ _).bind fun _ => .ret _
  unfold find
  rw [bind_run, bind_run]
  split
  · exact (Quiet.bind (.emit rfl rfl) fun _ => collect) _
  · exact collect _

theorem instantiate_created (s : Selection) {q : Query} {w v : World σ}
    (hv : (w.asked q).Quiet true host.env.config.cachePolicy v) :
    host.Created q w (host.instantiate s v).1 (host.instantiate s v).2 := by
  have hcreate : v.Quiet true host.env.config.cachePolicy _ :=
    hs.runForeign_quiet (host.env.code.create s.creator) v
  unfold Host.instantiate
  rw [bind_run]
  cases hc : host.runForeign (host.env.code.create s.creator) v with
  | mk token v₁ =>
    rw [hc] at hcreate
    have hv₁ := hv.trans hcreate
    cases token with
    | none =>
      exact .fails s.info.name rfl
        ((hv₁.trans (World.Quiet.note (e := .log _ _) rfl rfl)).noted rfl)
    | some token =>
      let v₂ := (addObject s.info token v₁).2
      have hsize : v₂.objects.size = v₁.objects.size + 1 := Array.size_push ..
      have hv₂ : (w.asked q).Quiet true host.env.config.cachePolicy v₂ :=
        hv₁.trans (.of_still rfl rfl (hsize ▸ Nat.le_succ _) rfl rfl rfl)
      have hinit : v₂.Quiet true host.env.config.cachePolicy _ :=
        hs.invoke_quiet v₁.objects.size .init Except.isOk (host.env.code.init token) v₂
      have hadd : addObject s.info token v₁ = (v₁.objects.size, v₂) := rfl
      dsimp only
      rw [bind_of_run hadd, bind_run]
      cases hi : host.invoke v₁.objects.size .init Except.isOk (host.env.code.init token) v₂ with
      | mk r v₃ =>
        rw [hi] at hinit
        have hv₃ := hv₂.trans hinit
        cases r with
        | error e =>
          exact .fails s.info.name rfl
            ((hv₃.trans (World.Quiet.note (e := .log _ _) rfl rfl)).noted rfl)
        | ok =>
          have hlive : (w.asked q).Quiet true host.env.config.cachePolicy
              (enliven v₁.objects.size v₃).2 :=
            hv₃.trans (.of_still rfl rfl (Array.size_modify ..).ge rfl rfl rfl)
          refine .creates s.info.name hv₁.objects ?_
            ((hlive.noted rfl).trans (World.Quiet.note (e := .log _ _) rfl rfl))
          show v₁.objects.size < (v₃.objects.modify _ _).size
          rw [Array.size_modify]
          have hgrown : v₂.objects.size ≤ v₃.objects.size := hinit.objects
          omega

theorem create_created (q : Query) (w : World σ) :
    host.Created q w (host.create q w).1 (host.create q w).2 := by
  have hfound := hs.find_quiet q w
  unfold Host.create
  rw [bind_run]
  cases hf : host.find q w with
  | mk s v =>
    rw [hf] at hfound
    cases s with
    | none => exact .missing hfound
    | some s => exact hs.instantiate_created s hfound

theorem letDisplacedGo_quiet {still : Bool} (family : String) (k : Key)
    (displaced : Option (Key × ObjectId)) :
    host.Quiet still (host.letDisplacedGo family k displaced) := by
  unfold Host.letDisplacedGo
  cases displaced with
  | none => exact .ret _
  | some p =>
    have letGo : host.Quiet still (host.settleObject p.2) := hs.settleObject_quiet p.2
    cases Cache.evicted? k (some p) with
    | none => exact letGo
    | some _ => exact (Quiet.log _ _).bind fun _ => letGo

end Host.Secluded

/-! ## Lookups -/

namespace Query

/-- What a façade counts when it is served from its cache. Contrast enhancers count nothing. -/
def hits (q : Query) : List Event :=
  if q.seeker = .contrast then [] else [.count (.hits q.seeker.family) 1]

/-- What a façade counts when it has to create. -/
def misses (q : Query) : List Event :=
  if q.seeker = .contrast then [] else [.count (.misses q.seeker.family) 1]

/-- What a lookup comes to that finds the cache `c` in the world `w` (module doc). -/
inductive Obtained (q : Query) (f : FacadeId) (c : Cache Key ObjectId) (w : World σ) :
    Except Error ObjectId → World σ → Prop
  /-- What is cached is served. -/
  | hit {o : ObjectId} {v : World σ} (hget : (c.get q.key).1 = some o)
    (hobjects : v.objects = w.objects) (h : w.Looked f q.operation (c.get q.key).2 q.hits 0 v) :
    Obtained q f c w (.ok o) v
  /-- A contrast enhancer has given creation up. -/
  | barred {e : Error} {v : World σ} (hq : q.seeker = .contrast) (hget : (c.get q.key).1 = none)
    (h : w.Looked f q.operation c [] 0 v) :
    Obtained q f c w (.error e) v
  /-- No extension serves the key. -/
  | missing {v : World σ} {p : List (Key × GuardId)} {n : GuardId} (hget : (c.get q.key).1 = none)
    (h : w.Looked f q.operation (c.guarded p [] n) (.count (.queries q.type) 1 :: q.misses) 1 v) :
    Obtained q f c w (.error q.notFound) v
  /-- An extension is there, but no algorithm comes of it. -/
  | fails {e : Error} {v : World σ} {p : List (Key × GuardId)} {n : GuardId} (name : String)
    (hget : (c.get q.key).1 = none) (he : e.isNotFound = false)
    (h : w.Looked f q.operation (c.guarded p [] n)
      (.count (.initFailures name) 1 :: .count (.queries q.type) 1 :: q.misses) 1 v) :
    Obtained q f c w (.error e) v
  /-- An algorithm is created. -/
  | creates {o : ObjectId} {v : World σ} {p : List (Key × GuardId)} {n : GuardId} (name : String)
    (hget : (c.get q.key).1 = none) (hold : w.objects.size ≤ o) (hnew : o < v.objects.size)
    (h : w.Looked f q.operation ((c.insert q.key o).2.guarded p [] n)
      (.count (.creations name) 1 :: .count (.queries q.type) 1 :: q.misses) 1 v) :
    Obtained q f c w (.ok o) v

end Query

namespace Host.Secluded

variable {host : Host σ} (hs : host.Secluded) {w w₁ : World σ} {f : FacadeId} {facade : Facade}
  {c : Cache Key ObjectId} {q : Query}

include hs

/-- The end of a lookup that holds the guard of its key. -/
theorem createGuarded_obtained (kind : FacadeKind) {g : GuardId} {p : List (Key × GuardId)}
    {n : GuardId} (hget : (c.get q.key).1 = none)
    (h : w.Looked f q.operation (c.guarded p [g] n) q.misses 0 w₁) :
    q.Obtained f c w (host.createGuarded f kind q.operation q g w₁).1
      (host.createGuarded f kind q.operation q g w₁).2 := by
  have hcreated := hs.create_created q w₁
  unfold createGuarded
  rw [bind_run]
  cases hc : host.create q w₁ with
  | mk r w₂ =>
    rw [hc] at hcreated
    -- A creation that fails lets go of the guard.
    have failed {new : List Event} {k : Nat} {e : Error}
        (hl : w.Looked f q.operation (c.guarded p [g] n) new k w₂) :
        ∃ v, (do
            discard (useCache f q.operation fun c => ((), c.fail g))
            return .error e : Act σ (Except Error ObjectId)) w₂ = (.error e, v) ∧
          w.Looked f q.operation (c.guarded p [] n) new k v := by
      obtain ⟨facade, hf, hcache⟩ := hl.there
      refine ⟨w₂.withCache f q.operation ((c.guarded p [g] n).fail g), ?_, ?_⟩
      · rw [← hcache]
        show ((.error e, (useCache f q.operation (fun c => ((), c.fail g)) w₂).2) :
          Except Error ObjectId × World σ) = _
        rw [useCache_of_facade hf]
      · have hfail : (c.guarded p [g] n).fail g = c.guarded p [] n := by
          unfold Cache.fail Cache.letGo Cache.guarded
          dsimp only
          rw [List.erase_cons_head]
        rw [hfail]
        exact hl.withCache _
    cases hcreated with
    | missing hquiet =>
      obtain ⟨v, hv, hl⟩ := failed (e := q.notFound) ((h.ask q).still hquiet)
      dsimp only
      rw [hv]
      exact .missing hget hl
    | @fails e _ name he hquiet =>
      obtain ⟨v, hv, hl⟩ := failed (e := e) (((h.ask q).count rfl rfl).still hquiet)
      dsimp only
      rw [hv]
      exact .fails name hget he hl
    | @creates o _ name hold hnew hquiet =>
      have hl := (((h.ask q).count rfl rfl).still hquiet).note (e := .adopted f o) rfl rfl
      obtain ⟨facade, hf, hcache⟩ := hl.there
      obtain ⟨p', n', hfinish⟩ := (c.guarded p [g] n).finish_eq q.key g o
      have hemit : emit (.adopted f o) w₂ = ((), w₂.note (.adopted f o)) := rfl
      have hrun : ((c.guarded p [g] n).finish q.key g o).2 =
          (c.insert q.key o).2.guarded p' [] n' := by
        have herase : (c.guarded p [g] n).running.erase g = [] := List.erase_cons_head ..
        rw [hfinish, herase, Cache.insert_guarded]
        rfl
      have hput := hl.withCache ((c.guarded p [g] n).finish q.key g o).2
      have hgo : host.Quiet true (host.letDisplacedGo kind.family q.key
          ((c.guarded p [g] n).finish q.key g o).1) := hs.letDisplacedGo_quiet _ _ _
      dsimp only
      rw [bind_of_run hemit, bind_of_run (useCache_of_facade hf _), hcache]
      rw [hrun] at hput ⊢
      refine .creates name hget (h.objects.trans hold) ?_ (hput.still (hgo _))
      exact hnew.trans_le (hgo ((w₂.note (.adopted f o)).withCache f q.operation _)).objects

theorem resolve_obtained (hf : w.facade? f = some facade)
    (hi : (facade.cache q.operation).running = []) (hq : q.seeker ≠ .contrast)
    (announcement : Option String) :
    q.Obtained f (facade.cache q.operation) w
      (host.resolve f q.seeker q.operation q announcement w).1
      (host.resolve f q.seeker q.operation q announcement w).2 := by
  have hsought : w.Looked f q.operation (facade.cache q.operation) [] 0 (w.note (.sought f)) :=
    (Looked.self hf).note rfl rfl
  have hemit : emit (.sought f) w = ((), w.note (.sought f)) := rfl
  have hthere : (w.note (.sought f)).facade? f = some facade := hf
  unfold Host.resolve
  rw [bind_of_run hemit, bind_of_run (useCache_of_facade hthere _)]
  cases hget : ((facade.cache q.operation).get q.key).1 with
  | some o =>
    rw [Cache.begin_of_get hget]
    refine .hit hget rfl ?_
    rw [Query.hits, if_neg hq]
    have hpin : host.Quiet true (pin (.object o)) := pin_quiet _
    exact ((hsought.withCache _).still (hpin _)).count rfl rfl
  | none =>
    obtain ⟨g, p, n, hbegin⟩ := Cache.begin_of_idle hi hget
    have hmissed : w.Looked f q.operation ((facade.cache q.operation).guarded p [g] n) q.misses 0
        (((w.note (.sought f)).withCache f q.operation
          ((facade.cache q.operation).guarded p [g] n)).note
            (.count (.misses q.seeker.family) 1)) := by
      rw [Query.misses, if_neg hq]
      exact (hsought.withCache _).count rfl rfl
    rw [hbegin]
    cases announcement with
    | none => exact hs.createGuarded_obtained _ hget hmissed
    | some text =>
      exact hs.createGuarded_obtained _ hget (hmissed.note rfl rfl)

theorem attemptContrast_obtained (k : ContrastKind)
    (hget : (c.get (.contrast k)).1 = none) (hi : c.running = [])
    (h : w.Looked f .main c [] 0 w₁) :
    (Query.contrast k).Obtained f c w (host.attemptContrast f k w₁).1
      (modifyBreaker f Breaker.stop (host.attemptContrast f k w₁).2).2 := by
  have hcreated := hs.create_created (.contrast k) w₁
  have hidle : c.guarded c.pending [] c.nextGuard = c := by rw [← hi]; rfl
  unfold Host.attemptContrast
  rw [bind_run]
  cases hc : host.create (.contrast k) w₁ with
  | mk r w₂ =>
    rw [hc] at hcreated
    -- What is noted of a failure does not matter.
    have failed {new : List Event} {n : Nat} {e : Error} (hl : w.Looked f .main c new n w₂) :
        ∃ v, (do
            emit (.failed f)
            modifyBreaker f Breaker.fail
            let b := ((← facade? f).map Facade.breaker).getD {}
            reportFailure FacadeKind.contrast.family host.env.config.failureThreshold b e
            return .error e : Act σ (Except Error ObjectId)) w₂ = (.error e, v) ∧
          w.Looked f .main (c.guarded c.pending [] c.nextGuard) new n
            (modifyBreaker f Breaker.stop v).2 := by
      have hnoted := (hl.note (e := .failed f) rfl rfl).modifyBreaker Breaker.fail
      have report (b : Breaker) : host.Quiet true
          (reportFailure FacadeKind.contrast.family host.env.config.failureThreshold b e) := by
        unfold reportFailure
        split <;> exact .log _ _
      rw [hidle]
      exact ⟨_, rfl, (hnoted.still (report _ _)).modifyBreaker Breaker.stop⟩
    cases hcreated with
    | missing hquiet =>
      obtain ⟨v, hv, hl⟩ := failed (e := (Query.contrast k).notFound)
        ((h.ask (.contrast k)).still hquiet)
      dsimp only
      rw [hv]
      exact .missing hget hl
    | @fails e _ name he hquiet =>
      obtain ⟨v, hv, hl⟩ := failed (e := e) (((h.ask (.contrast k)).count rfl rfl).still hquiet)
      dsimp only
      rw [hv]
      exact .fails name hget he hl
    | @creates o _ name hold hnew hquiet =>
      have hl := ((((h.ask (.contrast k)).count rfl rfl).still hquiet).note (e := .adopted f o)
        rfl rfl).modifyBreaker Breaker.succeed
      obtain ⟨facade, hf, hcache⟩ := hl.there
      have hadopted : emit (.adopted f o) w₂ = ((), w₂.note (.adopted f o)) := rfl
      have hbreaker : modifyBreaker f Breaker.succeed (w₂.note (.adopted f o)) = ((),
        (modifyBreaker f Breaker.succeed (w₂.note (.adopted f o))).2) := rfl
      have hinsert : (c.insert (.contrast k) o).2 =
          (c.insert (.contrast k) o).2.guarded c.pending [] c.nextGuard := by
        have h := c.insert_guarded c.pending [] c.nextGuard (.contrast k) o
        rw [hidle] at h
        exact congrArg Prod.snd h
      have hput := hl.withCache (c.insert (.contrast k) o).2
      have hgo : host.Quiet true (host.letDisplacedGo FacadeKind.contrast.family (.contrast k)
          (c.insert (.contrast k) o).1) := hs.letDisplacedGo_quiet _ _ _
      dsimp only
      rw [bind_of_run hadopted, bind_of_run hbreaker, bind_of_run (useCache_of_facade hf _), hcache]
      refine .creates (p := c.pending) (n := c.nextGuard) name hget (h.objects.trans hold) ?_ ?_
      · exact hnew.trans_le (hgo ((modifyBreaker f Breaker.succeed
          (w₂.note (.adopted f o))).2.withCache f .main _)).objects
      · show w.Looked f .main ((c.insert (.contrast k) o).2.guarded c.pending [] c.nextGuard) _ _ _
        rw [← hinsert]
        exact (hput.still (hgo _)).modifyBreaker Breaker.stop

theorem resolveContrast_obtained (hf : w.facade? f = some facade)
    (hi : (facade.cache .main).running = []) (k : ContrastKind) :
    (Query.contrast k).Obtained f (facade.cache .main) w (host.resolveContrast f k w).1
      (host.resolveContrast f k w).2 := by
  have hsought : w.Looked f .main (facade.cache .main) [] 0 (w.note (.sought f)) :=
    (Looked.self hf).note rfl rfl
  cases hget : ((facade.cache .main).get (.contrast k)).1 with
  | some o =>
    rw [resolveContrast_cached hf hget]
    exact .hit hget rfl
      ((hsought.withCache _).still ((pin_quiet (.object o) : host.Quiet true _) _))
  | none =>
    rw [resolveContrast_uncached hf hget]
    split
    · exact .barred rfl hget hsought
    · split
      · exact .barred rfl hget (hsought.note rfl rfl)
      · rw [missing_contrast hf hget]
        exact hs.attemptContrast_obtained k hget hi (hsought.modifyBreaker Breaker.start)

/-- Every lookup of a façade comes to what is said of lookups, if nothing is being created in its
cache. -/
theorem obtain_obtained (hf : w.facade? f = some facade)
    (hi : (facade.cache q.operation).running = []) :
    q.Obtained f (facade.cache q.operation) w (host.obtain f q w).1 (host.obtain f q w).2 := by
  cases q with
  | contrast k => exact hs.resolveContrast_obtained hf hi k
  | _ => exact hs.resolve_obtained hf hi nofun _

end Host.Secluded

end ImageDispatch
