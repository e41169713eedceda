import ImageDispatch.Proofs.Attempts.Seclusion

/-!
# What happens without a lookup

Code of others is not answered here. All that a dispatcher does then, apart from looking for
implementations and answering queries, leaves the implementations of façades and the counters of
lookups as they are.

* `World.counted`: the events that count queries, hits, misses, creations and failures.
* `World.Gauged`: the number of users of the vendor library that was told last is the number now.
* `World.cache?`: the cache of a façade for an operation, unless the façade is gone.
* `World.Quiet still p w w'`: nothing that has to do with lookups has happened from `w` to `w'`.
  Façades may have gone, or come with empty caches of the policy `p`; if `still`, not even that.
* `Host.Quiet`: an action is quiet in every world. One lemma for each action of a dispatcher.
-/

namespace ImageDispatch

open Act World

variable {σ α β : Type}

/-- The event counts a query, a hit, a miss, a creation or a failure to create. -/
def Event.isCounted : Event → Bool
  | .count .fallbacks _ | .count (.loaded _) _ => false
  | .count .. => true
  | _ => false

/-- The number of users of the vendor library that the event tells. -/
def Event.users? : Event → Option Nat
  | .gauge .vendorInstances n => some n
  | _ => none

namespace World

/-- What was counted for lookups, the last first. -/
def counted (w : World σ) : List Event := w.journal.filter Event.isCounted

/-- The number of users of the vendor library that was told last. -/
def users? (w : World σ) : Option Nat := w.journal.findSome? Event.users?

/-- The gauge of the users of the vendor library is right, once it is set. -/
def Gauged (w : World σ) : Prop := ∀ n, w.users? = some n → n = w.instances

theorem lastValue?_eq_users? (w : World σ) :
    lastValue? .vendorInstances w.journal.reverse = w.users? := by
  unfold lastValue? users?
  rw [List.reverse_reverse]
  congr 1
  funext e
  cases e with
  | gauge g n => cases g <;> rfl
  | _ => rfl

/-- The cache of a façade for an operation, unless the façade is gone. -/
def cache? (w : World σ) (f : FacadeId) (op : Operation) : Option (Cache Key ObjectId) :=
  (w.facade? f).map fun facade => facade.cache op

theorem cache?_eq_some {w : World σ} {f : FacadeId} {op : Operation} {c : Cache Key ObjectId} :
    w.cache? f op = some c ↔ ∃ facade, w.facade? f = some facade ∧ facade.cache op = c :=
  Option.map_eq_some_iff

theorem cache?_of_facades {w w' : World σ} (h : w'.facades = w.facades) (f : FacadeId)
    (op : Operation) : w'.cache? f op = w.cache? f op := by
  rw [cache?, cache?, facade?, facade?, h]

/-- Where a façade changes, it may have other caches. -/
theorem cache?_modify {w : World σ} {f : FacadeId} {facade : Facade}
    (hf : w.facade? f = some facade) (change : Facade → Facade) (g : FacadeId) (op : Operation) :
    (modifyFacade f change w).2.cache? g op =
      if g = f then some ((change facade).cache op) else w.cache? g op := by
  have h := facade?_modify w f g change
  rw [hf] at h
  show (({ w with facades := w.facades.modify f (Option.map change) } : World σ).facade? g).map _ =
    _
  rw [h]
  split <;> rfl

/-- A cache that is there afterwards was there before, or its façade is new. -/
def Descends (p : CachePolicy) (w w' : World σ) : Prop :=
  ∀ {f op c}, w'.cache? f op = some c →
    w.cache? f op = some c ∨ w.facades.size ≤ f ∧ c = .empty p

/-- Nothing that has to do with lookups has happened (module doc). -/
structure Quiet (still : Bool) (p : CachePolicy) (w w' : World σ) : Prop where
  counted : w'.counted = w.counted
  queries : w'.queries = w.queries
  objects : w.objects.size ≤ w'.objects.size
  facades : w.facades.size ≤ w'.facades.size
  descends : w.Descends p w'
  gauged : w.Gauged → w'.Gauged
  still : still = true → w'.facades = w.facades ∧ w'.users? = w.users? ∧ w'.instances = w.instances

namespace Quiet

variable {still : Bool} {p : CachePolicy} {w w₁ w₂ : World σ}

theorem descends_of_eq (h : w₁.facades = w.facades) : w.Descends p w₁ := by
  intro f op c hc
  rw [cache?_of_facades h] at hc
  exact .inl hc

/-- Where façades stay as they are, and the number of users and what was told of it. -/
theorem of_still (hc : w₁.counted = w.counted) (hq : w₁.queries = w.queries)
    (ho : w.objects.size ≤ w₁.objects.size) (hf : w₁.facades = w.facades)
    (hu : w₁.users? = w.users?) (hi : w₁.instances = w.instances) : w.Quiet still p w₁ where
  counted := hc
  queries := hq
  objects := ho
  facades := (congrArg Array.size hf).ge
  descends := descends_of_eq hf
  gauged h n hn := by
    rw [hi]
    exact h n (hu ▸ hn)
  still _ := ⟨hf, hu, hi⟩

theorem refl (w : World σ) : w.Quiet still p w :=
  of_still rfl rfl (Nat.le_refl _) rfl rfl rfl

theorem trans (h₁ : w.Quiet still p w₁) (h₂ : w₁.Quiet still p w₂) : w.Quiet still p w₂ where
  counted := h₂.counted.trans h₁.counted
  queries := h₂.queries.trans h₁.queries
  objects := h₁.objects.trans h₂.objects
  facades := h₁.facades.trans h₂.facades
  descends := by
    intro f op c hc
    rcases h₂.descends hc with hc | ⟨hnew, hempty⟩
    · exact h₁.descends hc
    · exact .inr ⟨h₁.facades.trans hnew, hempty⟩
  gauged h := h₂.gauged (h₁.gauged h)
  still hs := by
    obtain ⟨hf₁, hu₁, hi₁⟩ := h₁.still hs
    obtain ⟨hf₂, hu₂, hi₂⟩ := h₂.still hs
    exact ⟨hf₂.trans hf₁, hu₂.trans hu₁, hi₂.trans hi₁⟩

theorem weaken (h : w.Quiet true p w₁) : w.Quiet still p w₁ :=
  ⟨h.counted, h.queries, h.objects, h.facades, h.descends, h.gauged, fun _ => h.still rfl⟩

theorem note {e : Event} (hc : e.isCounted = false) (hu : e.users? = none) :
    w.Quiet still p (w.note e) := by
  refine of_still ?_ rfl (Nat.le_refl _) rfl ?_ rfl
  · exact List.filter_cons_of_neg (by rw [hc]; nofun)
  · show (e :: w.journal).findSome? Event.users? = _
    rw [List.findSome?_cons, hu]
    rfl

/-- Façades change, and what holds them. -/
theorem of_descends {facades : Array (Option Facade)} {pins : List Ref}
    (hsize : w.facades.size ≤ facades.size)
    (hd : w.Descends p { w with facades, pins }) : w.Quiet false p { w with facades, pins } :=
  ⟨rfl, rfl, Nat.le_refl _, hsize, hd, id, nofun⟩

theorem dismantle (f : FacadeId) (pins : List Ref) :
    w.Quiet false p { w with facades := w.facades.modify f fun _ => none, pins } := by
  refine of_descends (Array.size_modify ..).ge fun {g op c} hc => ?_
  obtain ⟨facade, hg, rfl⟩ := cache?_eq_some.1 hc
  rw [facade?_remove] at hg
  split at hg
  · cases hg
  · exact .inl (cache?_eq_some.2 ⟨facade, hg, rfl⟩)

theorem found (kind : FacadeKind) (pins : List Ref) :
    w.Quiet false p { w with facades := w.facades.push (some (.new kind p)), pins } := by
  refine of_descends (by rw [Array.size_push]; omega) fun {g op c} hc => ?_
  obtain ⟨facade, hg, rfl⟩ := cache?_eq_some.1 hc
  rw [facade?_push] at hg
  split at hg
  next hnew =>
    cases hg
    exact .inr ⟨hnew.ge, by cases op <;> rfl⟩
  next => exact .inl (cache?_eq_some.2 ⟨facade, hg, rfl⟩)

/-- A façade changes, but not its caches. -/
theorem modifyFacade {f : FacadeId} {change : Facade → Facade}
    (h : ∀ facade op, w.facade? f = some facade → (change facade).cache op = facade.cache op) :
    w.Quiet false p (modifyFacade f change w).2 := by
  refine of_descends (Array.size_modify ..).ge fun {g op c} hc => .inl ?_
  obtain ⟨facade', hg, rfl⟩ := cache?_eq_some.1 hc
  rw [facade?_modify] at hg
  split at hg
  next heq =>
    subst heq
    obtain ⟨facade, hf, rfl⟩ := Option.map_eq_some_iff.1 hg
    exact cache?_eq_some.2 ⟨facade, hf, (h facade op hf).symm⟩
  next => exact cache?_eq_some.2 ⟨facade', hg, rfl⟩

/-- The number of users changes, and then it is told. -/
theorem recount {n : Nat} (h : ({ w with instances := n } : World σ).Quiet true p w₁) :
    w.Quiet false p (w₁.note (.gauge .vendorInstances w₁.instances)) where
  counted := h.counted
  queries := h.queries
  objects := h.objects
  facades := h.facades
  descends := h.descends
  gauged _ m hm := by
    cases hm
    rfl
  still := nofun

end Quiet

end World

namespace Host

/-- The action is quiet in every world (module doc). -/
def Quiet (host : Host σ) (still : Bool) (a : Act σ α) : Prop :=
  ∀ w : World σ, w.Quiet still host.env.config.cachePolicy (a w).2

namespace Quiet

variable {host : Host σ} {still : Bool} {a : Act σ α}

theorem ret (x : α) : host.Quiet still (pure x : Act σ α) := fun w => .refl w

theorem bind {f : α → Act σ β} (ha : host.Quiet still a) (hf : ∀ x, host.Quiet still (f x)) :
    host.Quiet still (a >>= f) := fun w => (ha w).trans (hf _ _)

theorem map {f : α → β} (ha : host.Quiet still a) : host.Quiet still (f <$> a) := ha

theorem read {f : World σ → Act σ α} (hf : ∀ w, host.Quiet still (f w)) :
    host.Quiet still (get >>= f) := fun w => hf w w

theorem forM {γ : Type} {f : γ → Act σ Unit} :
    (l : List γ) → (∀ x ∈ l, host.Quiet still (f x)) → host.Quiet still (l.forM f)
  | [], _ => ret ()
  | x :: rest, hf => (hf x List.mem_cons_self).bind fun _ =>
    forM rest fun y hy => hf y (List.mem_cons_of_mem _ hy)

theorem mapM {γ : Type} {f : γ → Act σ α} (hf : ∀ x, host.Quiet still (f x)) :
    (l : List γ) → host.Quiet still (l.mapM f)
  | [] => by rw [List.mapM_nil]; exact .ret _
  | x :: rest => by
    rw [List.mapM_cons]
    exact (hf x).bind fun _ => (mapM hf rest).bind fun _ => .ret _

theorem emit {e : Event} (hc : e.isCounted = false) (hu : e.users? = none) :
    host.Quiet still (emit e : Act σ Unit) := fun _ => .note hc hu

theorem log (severity : Severity) (text : String) :
    host.Quiet still (log severity text : Act σ Unit) := emit rfl rfl

/-- A change of something else. -/
theorem change {f : World σ → World σ}
    (h : ∀ w : World σ, (f w).journal = w.journal ∧ (f w).queries = w.queries ∧
      w.objects.size ≤ (f w).objects.size ∧ (f w).facades = w.facades ∧
      (f w).instances = w.instances) :
    host.Quiet still (modify f : Act σ Unit) := by
  intro w
  obtain ⟨hj, hq, ho, hf, hi⟩ := h w
  refine .of_still ?_ hq ho hf ?_ hi
  · exact congrArg (List.filter Event.isCounted) hj
  · exact congrArg (List.findSome? Event.users?) hj

end Quiet

namespace Secluded

variable {host : Host σ} {still : Bool} (hs : host.Secluded)

include hs

theorem runForeign_quiet (code : σ → Foreign σ α) : host.Quiet still (host.runForeign code) := by
  intro w
  obtain ⟨memory, x, hrun⟩ := hs.runForeign_run code w
  rw [hrun]
  exact .of_still rfl rfl (Nat.le_refl _) rfl rfl rfl

theorem invoke_quiet (o : ObjectId) (m : Method) (succeeded : α → Bool) (code : σ → Foreign σ α) :
    host.Quiet still (host.invoke o m succeeded code) :=
  Quiet.bind (.emit rfl rfl) fun _ => (hs.runForeign_quiet code).bind fun _ =>
    Quiet.bind (.emit rfl rfl) fun _ => .ret _

/-! ## Collecting -/

theorem runRegistration_quiet (r : Registration σ) :
    host.Quiet still (host.runRegistration r) := by
  unfold runRegistration
  cases r.register with
  | some register => exact hs.runForeign_quiet register
  | none => exact (Quiet.log _ _).bind fun _ => .ret _

theorem loadStatic_quiet (family : ExtensionFamily) : host.Quiet still (host.loadStatic family) :=
  (Quiet.mapM hs.runRegistration_quiet _).bind fun _ => .ret _

theorem runEntry_quiet (entry : RegistrationEntry (Register σ)) :
    host.Quiet still (host.runEntry entry) := by
  unfold runEntry
  cases entry.register with
  | some register =>
    exact (hs.runForeign_quiet register).bind fun _ => (Quiet.log _ _).bind fun _ => .ret _
  | none => exact (Quiet.log _ _).bind fun _ => .ret _

theorem runRegistering_quiet :
    (r : Registering (Register σ)) → host.Quiet still (host.runRegistering r)
  | .single register => hs.runForeign_quiet register
  | .entries entries => (Quiet.mapM hs.runEntry_quiet entries).bind fun _ => .ret _

theorem registerLibrary_quiet (family : ExtensionFamily) :
    host.Quiet still (host.registerLibrary family) := by
  unfold registerLibrary
  refine .read fun w => ?_
  cases Library.registering? w.library family with
  | error e => exact .ret _
  | ok r => exact (hs.runRegistering_quiet r).bind fun _ => .ret _

theorem registerSource_quiet (family : ExtensionFamily) :
    host.Quiet still (host.registerSource family) := by
  unfold registerSource
  cases host.env.source with
  | none => exact .ret _
  | provider p => exact hs.runForeign_quiet _
  | library path =>
    refine (hs.registerLibrary_quiet family).bind fun r => ?_
    cases r <;> exact .ret _

theorem loadDynamic_quiet (family : ExtensionFamily) :
    host.Quiet still (host.loadDynamic family) := by
  unfold loadDynamic
  cases host.env.sourceName? with
  | none => exact .ret _
  | some name =>
    refine (hs.registerSource_quiet family).bind fun ⟨list, r⟩ => ?_
    dsimp only
    split <;> exact (Quiet.log _ _).bind fun _ => .ret _

theorem load_quiet (family : ExtensionFamily) (static dynamic : Bool) :
    host.Quiet still (host.load family static dynamic) := by
  have linked : host.Quiet still (host.loadStatic family) := hs.loadStatic_quiet family
  have loaded : host.Quiet still (host.loadDynamic family) := hs.loadDynamic_quiet family
  unfold load
  cases static <;> cases dynamic
  · exact .ret _
  · exact loaded.bind fun _ => .ret _
  · exact linked.bind fun _ => .ret _
  · exact linked.bind fun _ => loaded.bind fun _ => .ret _

/-! ## The vendor library and the bootstrap service -/

theorem openSource_quiet : host.Quiet still host.openSource := by
  unfold openSource
  cases host.env.source with
  | none => exact .ret _
  | provider p =>
    exact (hs.runForeign_quiet _).bind fun _ => Quiet.bind (.emit rfl rfl) fun _ => .ret _
  | library path =>
    refine .read fun w => ?_
    split
    · exact Quiet.bind (.emit rfl rfl) fun _ => .ret _
    · cases host.env.loader path w.memory with
      | error reason => exact Quiet.bind (.emit rfl rfl) fun _ => .ret _
      | ok library =>
        refine (Quiet.log _ _).bind fun _ => Quiet.bind (.change fun w => ?_) fun _ =>
          Quiet.bind (.emit rfl rfl) fun _ => .ret _
        exact ⟨rfl, rfl, Nat.le_refl _, rfl, rfl⟩

theorem closeSource_quiet : host.Quiet still host.closeSource := by
  unfold closeSource
  cases host.env.source with
  | none => exact .ret _
  | provider p => exact Quiet.bind (.emit rfl rfl) fun _ => hs.runForeign_quiet _
  | library path =>
    refine Quiet.bind (.emit rfl rfl) fun _ => .read fun w => ?_
    split
    · refine Quiet.bind (.change fun w => ?_) fun _ => Quiet.log _ _
      exact ⟨rfl, rfl, Nat.le_refl _, rfl, rfl⟩
    · exact .ret _

omit hs in
theorem exclusively_quiet {change : Act σ Unit} (h : host.Quiet still change) :
    host.Quiet still (exclusively change) := by
  unfold exclusively
  refine .read fun w => ?_
  split
  · exact .emit rfl rfl
  · refine Quiet.bind (.change fun w => ?_) fun _ => h.bind fun _ => .change fun w => ?_
    · exact ⟨rfl, rfl, Nat.le_refl _, rfl, rfl⟩
    · exact ⟨rfl, rfl, Nat.le_refl _, rfl, rfl⟩

theorem increase_quiet : host.Quiet false host.increase := by
  have count : host.Quiet false (do
      modify fun w : World σ => { w with instances := w.instances + 1 }
      emit (.gauge .vendorInstances (← get).instances)) :=
    fun w => World.Quiet.recount (.refl _)
  refine exclusively_quiet (.read fun w => ?_)
  split
  · refine hs.openSource_quiet.bind fun r => ?_
    cases r with
    | ok => exact count
    | error e => exact (Quiet.log _ _).bind fun _ => count
  · exact count

theorem decrease_quiet : host.Quiet false host.decrease := by
  refine exclusively_quiet (.read fun w => ?_)
  split
  · exact .log _ _
  · intro w
    rw [bind_run]
    show w.Quiet false _ ((do
      if (← get).instances = 0 then
        host.closeSource
      emit (.gauge .vendorInstances (← get).instances) : Act σ Unit)
        { w with instances := w.instances - 1 }).2
    rw [get_run]
    split
    · exact World.Quiet.recount (hs.closeSource_quiet _)
    · exact World.Quiet.recount (.refl _)

theorem giveBack_quiet : host.Quiet false host.giveBack :=
  Quiet.bind (.emit rfl rfl) fun _ => hs.decrease_quiet

theorem connect_quiet : host.Quiet still host.connect := by
  unfold connect
  cases host.env.service with
  | none => exact .log _ _
  | some s => exact hs.runForeign_quiet s.connect

theorem disconnect_quiet : host.Quiet still host.disconnect := by
  unfold disconnect
  cases host.env.service with
  | none => exact .log _ _
  | some s => exact hs.runForeign_quiet s.disconnect

/-! ## Holding and letting go -/

theorem settleObject_quiet (o : ObjectId) : host.Quiet still (host.settleObject o) := by
  unfold Host.settleObject
  refine .read fun w => ?_
  split
  · exact .ret _
  · split
    · refine Quiet.bind (.change fun w => ?_) fun _ => (hs.invoke_quiet _ _ _ _).bind fun r => ?_
      · exact ⟨rfl, rfl, (Array.size_modify ..).ge, rfl, rfl⟩
      · cases r <;> exact .log _ _
    · exact .ret _

theorem unpinObject_quiet (o : ObjectId) : host.Quiet still (host.unpinObject o) :=
  Quiet.bind (.change fun _ => ⟨rfl, rfl, Nat.le_refl _, rfl, rfl⟩) fun _ =>
    hs.settleObject_quiet o

theorem settleFacade_quiet (f : FacadeId) : host.Quiet false (host.settleFacade f) := by
  have leave : host.Quiet false (do emit (.dissolved f); host.decrease) :=
    Quiet.bind (.emit rfl rfl) fun _ => hs.decrease_quiet
  intro w
  unfold Host.settleFacade
  rw [get_run]
  cases hf : w.facade? f with
  | none => exact .refl w
  | some facade =>
    dsimp only
    split
    · rw [bind_run]
      refine (World.Quiet.dismantle f (facade.objects.map Ref.object ++ w.pins)).trans ?_
      refine ((Quiet.forM facade.objects fun o _ => hs.unpinObject_quiet o).bind fun _ => ?_) _
      split
      · exact Quiet.bind (Quiet.bind (.emit rfl rfl) fun _ => hs.disconnect_quiet) fun _ => leave
      · exact leave
    · exact .refl w

theorem settle_quiet : (r : Ref) → host.Quiet false (host.settle r)
  | .object o => hs.settleObject_quiet o
  | .facade f => hs.settleFacade_quiet f
  | .lease => hs.giveBack_quiet

theorem unpin_quiet (r : Ref) : host.Quiet false (host.unpin r) :=
  Quiet.bind (.change fun _ => ⟨rfl, rfl, Nat.le_refl _, rfl, rfl⟩) fun _ => hs.settle_quiet r

omit hs in
theorem pin_quiet (r : Ref) : host.Quiet still (pin r : Act σ Unit) :=
  .change fun _ => ⟨rfl, rfl, Nat.le_refl _, rfl, rfl⟩

omit hs in
theorem handOver_quiet (r : Ref) : host.Quiet still (handOver r : Act σ Unit) :=
  .change fun _ => ⟨rfl, rfl, Nat.le_refl _, rfl, rfl⟩

omit hs in
theorem hold_quiet (r : Ref) : host.Quiet still (hold r : Act σ Reply) := by
  refine .read fun w => ?_
  split
  · exact Quiet.bind (.change fun _ => ⟨rfl, rfl, Nat.le_refl _, rfl, rfl⟩) fun _ => .ret _
  · exact .ret _

theorem drop_quiet (r : Ref) : host.Quiet false (host.drop r) := by
  refine .read fun w => ?_
  split
  · exact Quiet.bind (.change fun _ => ⟨rfl, rfl, Nat.le_refl _, rfl, rfl⟩) fun _ =>
      (hs.settle_quiet r).bind fun _ => .ret _
  · exact .ret _

theorem takeLease_quiet : host.Quiet false host.takeLease :=
  hs.increase_quiet.bind fun _ => Quiet.bind (.emit rfl rfl) fun _ =>
    .change fun _ => ⟨rfl, rfl, Nat.le_refl _, rfl, rfl⟩

theorem makeFacade_quiet (kind : FacadeKind) : host.Quiet false (host.makeFacade kind) := by
  have enter : host.Quiet false (host.enter kind) := hs.increase_quiet.bind fun _ => fun w =>
    (World.Quiet.note (e := .founded w.facades.size kind) rfl rfl).trans
      (World.Quiet.found kind (.facade w.facades.size :: w.pins))
  unfold makeFacade
  split
  · exact Quiet.bind (Quiet.bind hs.connect_quiet fun _ => .read fun _ => .emit rfl rfl)
      fun _ => enter
  · exact enter

omit hs in
theorem setParameter_quiet (f : FacadeId) (p : Parameter) :
    host.Quiet false (setParameter f p : Act σ Reply) := by
  intro w
  unfold setParameter
  rw [facade?_run]
  cases hf : w.facade? f with
  | none => exact .refl w
  | some facade =>
    dsimp only
    split
    · cases ha : facade.accept p with
      | error e => exact .refl w
      | ok facade' =>
        refine World.Quiet.modifyFacade fun facade₀ op hf₀ => ?_
        cases hf.symm.trans hf₀
        rw [Facade.accept_ok ha]
        cases op <;> rfl
    · exact .refl w

/-! ## Work -/

omit hs in
theorem blame_quiet (name : String) (e : Error) :
    host.Quiet still (blame name e : Act σ Error) := by
  unfold blame
  split
  · exact .ret _
  · exact (Quiet.log _ _).bind fun _ => .ret _

theorem push_quiet (o : ObjectId) (object : AlgorithmObject) (p : Parameter) :
    host.Quiet still (host.push o object p) := by
  refine (hs.invoke_quiet _ _ _ _).bind fun r => ?_
  cases r with
  | ok => exact .ret _
  | error e => exact Quiet.bind (blame_quiet _ _) fun _ => .ret _

theorem work_quiet (o : ObjectId) (object : AlgorithmObject) (job : Job) :
    host.Quiet still (host.work o object job) := by
  refine (hs.invoke_quiet _ _ _ _).bind fun ⟨r, written⟩ => ?_
  cases r with
  | ok => exact .ret _
  | error e => exact Quiet.bind (blame_quiet _ _) fun _ => .ret _

/-- An implementation that works leaves façades alone, also when it is let go. -/
theorem employ_quiet (o : ObjectId) (p : Option Parameter) (job : Job) :
    host.Quiet still (host.employ o p job) := by
  have letGo (r : Except Error Unit × Job) :
      host.Quiet still (do host.unpin (.object o); return r) :=
    Quiet.bind (hs.unpinObject_quiet o) fun _ => .ret r
  refine .read fun w => ?_
  cases w.objects[o]? with
  | none => exact .ret _
  | some object =>
    have worked := (hs.work_quiet o object job).bind letGo
    cases p with
    | none => exact worked
    | some p =>
      refine (hs.push_quiet o object p).bind fun r => ?_
      cases r with
      | ok => exact worked
      | error e => exact letGo _

omit hs in
theorem shortfall_quiet (q : Query) (e : Error) :
    host.Quiet still (shortfall q e : Act σ Unit) := by
  cases q with
  | detail level =>
    unfold shortfall
    dsimp only
    split
    · exact Quiet.bind (.emit rfl rfl) fun _ => .log _ _
    · exact .log _ _
  | _ => exact .ret _

omit hs in
theorem openCall_quiet (f : FacadeId) (kind : FacadeKind) (task : Task) :
    host.Quiet still (host.openCall f kind task) := by
  refine (pin_quiet _).bind fun _ => ?_
  split
  · exact .emit rfl rfl
  · exact .ret _

theorem direct_quiet (o : ObjectId) (call : DirectCall) :
    host.Quiet false (host.direct o call) := by
  have called (token : Token) : host.Quiet false (host.callDirectly o token call) := by
    cases call <;> exact (hs.invoke_quiet _ _ _ _).bind fun _ => .ret _
  refine .read fun w => ?_
  cases w.objects[o]? with
  | none => exact .ret _
  | some object =>
    dsimp only
    split
    · exact (pin_quiet _).bind fun _ => (called _).bind fun _ => (hs.unpin_quiet _).bind fun _ =>
        .ret _
    · exact .ret _

/-! ## Entry points for callers in C -/

omit hs in
theorem lookUp_quiet (id : Int32) : host.Quiet still (lookUp id : Act σ _) := by
  refine .read fun w => ?_
  split
  · exact .ret _
  · split <;> exact .ret _

omit hs in
theorem status_quiet : (r : Except Error Unit) → host.Quiet still (status r : Act σ Status)
  | .ok () => .ret _
  | .error _ => (Quiet.log _ _).bind fun _ => .ret _

omit hs in
theorem begin_quiet (settings : Option (String → Option String)) :
    host.Quiet still (begin (opening settings) : Act σ Unit) := by
  have logs : ∀ e ∈ opening settings, e.isCounted = false ∧ e.users? = none := by
    intro e he
    cases settings with
    | none => cases he
    | some lookup =>
      rcases List.mem_cons.1 he with rfl | he
      · exact ⟨rfl, rfl⟩
      · unfold Config.settingReport at he
        split at he
        · cases he
        · split at he
          · cases he
          · rw [List.mem_singleton.1 he]
            exact ⟨rfl, rfl⟩
  refine .read fun w => ?_
  split
  · exact Quiet.bind (.change fun _ => ⟨rfl, rfl, Nat.le_refl _, rfl, rfl⟩) fun _ =>
      Quiet.forM _ fun e he => .emit (logs e he).1 (logs e he).2
  · exact .ret _

theorem enroll_quiet (f : FacadeId) (family : String) :
    host.Quiet false (host.enroll f family) := by
  refine .read fun w => ?_
  split
  · exact (Quiet.log _ _).bind fun _ => (hs.unpin_quiet _).bind fun _ => .ret _
  · exact Quiet.bind (.change fun _ => ⟨rfl, rfl, Nat.le_refl _, rfl, rfl⟩) fun _ =>
      Quiet.bind (.emit rfl rfl) fun _ => (Quiet.log _ _).bind fun _ => .ret _

theorem retire_quiet (id : Int32) (family : String) :
    host.Quiet false (host.retire id family) := by
  refine (lookUp_quiet id).bind fun r => ?_
  split
  · exact .ret _
  · split
    · exact (Quiet.log _ _).bind fun _ => .ret _
    · refine .read fun w => ?_
      split
      · exact .ret _
      · exact Quiet.bind (.change fun _ => ⟨rfl, rfl, Nat.le_refl _, rfl, rfl⟩) fun _ =>
          Quiet.bind (.emit rfl rfl) fun _ => (Quiet.log _ _).bind fun _ =>
            (hs.unpin_quiet _).bind fun _ => .ret _

theorem createOutcome_quiet (family : InstanceFamily) (level : Int32) :
    host.Quiet false (host.createOutcome family level) := by
  unfold createOutcome
  split
  · exact .ret _
  · refine (hs.makeFacade_quiet _).bind fun f => ?_
    split
    · exact (Quiet.map (setParameter_quiet f _)).bind fun _ => hs.enroll_quiet f _
    · exact hs.enroll_quiet f _

end Secluded

end Host

end ImageDispatch
