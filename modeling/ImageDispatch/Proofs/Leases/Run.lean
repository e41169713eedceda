import ImageDispatch.Proofs.Leases.Entry
import ImageDispatch.Proofs.Lifetime.Run

/-!
# Runs in the books

* `World.Rest`: between the calls of clients the books are balanced, and no façade is half gone.
* `World.Rest.foundedIds_perm`, `World.Rest.connectedIds_perm`: the façades that are there are
  those that were made and did not give their lease back, and the bootstrap service knows of those
  among them of whose kind it is told.
* `World.Bracketed`, `bracketed`: what follows for the vendor library and the bootstrap service
  after every run of clients.
-/

namespace ImageDispatch

open Act World

variable {σ : Type} {env : Environment σ}

namespace World

variable {w w' : World σ} {f : FacadeId}

/-- The façades that are there, by number. -/
def living (w : World σ) : List FacadeId :=
  (List.range w.facades.size).filter fun f => (w.facade? f).isSome

/-- The façade is there, and the bootstrap service is told of its kind. -/
def isServed (w : World σ) (f : FacadeId) : Bool :=
  (w.facade? f).any fun facade => facade.kind.usesService

theorem mem_living : f ∈ w.living ↔ ∃ facade, w.facade? f = some facade := by
  rw [living, List.mem_filter, List.mem_range, Option.isSome_iff_exists]
  refine ⟨And.right, fun h => ⟨?_, h⟩⟩
  obtain ⟨facade, hf⟩ := h
  by_contra hlt
  simp [facade?, Array.getElem?_eq_none (Nat.le_of_not_lt hlt)] at hf

theorem nodup_living (w : World σ) : w.living.Nodup := List.nodup_range.filter _

theorem isServed_eq_true : w.isServed f = true ↔
    ∃ facade, w.facade? f = some facade ∧ facade.kind.usesService = true := by
  rw [isServed, Option.any_eq_true]

/-! ## Between calls -/

/-- Between calls the books are balanced, and every façade that is gone has given its lease back. -/
structure Rest (env : Environment σ) (w : World σ) : Prop where
  orderly : w.Orderly
  pins : w.pins = []
  balanced : w.Balanced env
  counting : w.counting = false
  gone : ∀ {f}, f < w.facades.size → w.facade? f = none → .dissolved f ∈ w.journal

theorem rest_start (memory : σ) : Rest env { memory := memory } where
  orderly := orderly_start memory
  pins := rfl
  balanced := by
    refine ⟨⟨fun _ _ => .start, trivial, rfl, ?_, nofun, ?_, nofun, nofun, nofun, nofun, nofun⟩,
      fun _ => nofun⟩
    · intro f facade hf
      simp [facade?] at hf
    · intro f hr
      rcases refersTo_iff.1 hr with hr | hr | hr
      · cases hr
      · cases hr
      · rw [Stores, InstanceTable.handles_empty] at hr; cases hr
  counting := rfl
  gone := nofun

theorem Rest.accounted (h : w.Rest env) (hr : w.Reaches [] w') (ha : w.Accounted env w')
    (hd : ¬w'.Disturbed) : w'.Rest env := by
  obtain ⟨hb, hs⟩ := ha.balanced h.balanced hd
  refine ⟨hr.orderly, hr.pins_eq, hb, hs.counting.trans h.counting, fun hlt hf => ?_⟩
  rcases hs.left (by simp) hlt hf with ⟨hlt, hf⟩ | hd
  · exact ha.journal (h.gone hlt hf)
  · exact hd

namespace Rest

variable (h : w.Rest env)

include h

theorem founded (hlt : f < w.facades.size) : ∃ kind, .founded f kind ∈ w.journal := by
  cases hf : w.facade? f with
  | none =>
    have hd := mem_dissolvedIds.2 (h.gone hlt hf)
    exact mem_foundedIds.1 (h.balanced.books.regular.dissolvedIds_subset hd)
  | some facade => exact ⟨_, (h.balanced.books.standing hf).founded⟩

/-- The façades that were made are there, or have given their lease back. -/
theorem foundedIds_perm : (foundedIds w.journal).Perm (w.living ++ dissolvedIds w.journal) := by
  have hreg := h.balanced.books.regular
  have hnodup : (w.living ++ dissolvedIds w.journal).Nodup := by
    refine List.nodup_append'.2 ⟨w.nodup_living, hreg.nodup_dissolvedIds, fun f hl hd => ?_⟩
    obtain ⟨facade, hf⟩ := mem_living.1 hl
    exact (h.balanced.books.standing hf).leased (mem_dissolvedIds.1 hd)
  refine (List.perm_ext_iff_of_nodup hreg.nodup_foundedIds hnodup).2 fun f => ?_
  rw [List.mem_append, mem_living]
  constructor
  · intro hm
    obtain ⟨kind, hk⟩ := mem_foundedIds.1 hm
    cases hf : w.facade? f with
    | none => exact .inr (mem_dissolvedIds.2 (h.gone (h.balanced.books.known hk) hf))
    | some facade => exact .inl ⟨facade, rfl⟩
  · rintro (⟨facade, hf⟩ | hd)
    · exact mem_foundedIds.2 ⟨_, (h.balanced.books.standing hf).founded⟩
    · exact hreg.dissolvedIds_subset hd

/-- The bootstrap service was told of the façades of its kinds, and told again of those that are
gone. -/
theorem connectedIds_perm :
    (connectedIds w.journal).Perm (w.living.filter w.isServed ++ disconnectedIds w.journal) := by
  have hreg := h.balanced.books.regular
  have hnodup : (w.living.filter w.isServed ++ disconnectedIds w.journal).Nodup := by
    refine List.nodup_append'.2
      ⟨w.nodup_living.filter _, hreg.nodup_disconnectedIds, fun f hl hd => ?_⟩
    obtain ⟨facade, hf⟩ := mem_living.1 (List.mem_of_mem_filter hl)
    exact (h.balanced.books.standing hf).connected (mem_disconnectedIds.1 hd)
  refine (List.perm_ext_iff_of_nodup hreg.nodup_connectedIds hnodup).2 fun f => ?_
  rw [List.mem_append, List.mem_filter, mem_living, isServed_eq_true, mem_connectedIds,
    mem_disconnectedIds]
  constructor
  · intro hm
    have hlt := h.balanced.connected h.counting hm
    obtain ⟨kind, hk⟩ := h.founded hlt
    have hserved := (hreg.connected_iff hk).1 hm
    cases hf : w.facade? f with
    | none => exact .inr ((hreg.disconnected_iff hk (h.gone hlt hf)).2 hserved)
    | some facade =>
      cases hreg.kind_inj hk (h.balanced.books.standing hf).founded
      exact .inl ⟨⟨facade, rfl⟩, facade, rfl, hserved⟩
  · rintro (⟨-, facade, hf, hserved⟩ | hd)
    · exact (hreg.connected_iff (h.balanced.books.standing hf).founded).2 hserved
    · obtain ⟨earlier, ⟨⟨kind, hs, hserved⟩, -⟩, -, hsub⟩ := hreg.of_mem hd
      exact (hreg.connected_iff (hsub _ hs.founded)).2 hserved

/-- The users of the library are the façades that are there, the leases of clients, and the users
that clients have counted themselves. -/
theorem instances_eq :
    w.instances = w.living.length + w.held.count .lease + w.journal.count (.tallied true) := by
  have hc := h.balanced.books.counted
  have hl := h.foundedIds_perm.length_eq
  rw [List.length_append] at hl
  omega

end Rest

end World

/-! ## Runs -/

namespace ClientStep

variable {host : Host σ} (hf : host.Fair)

include hf

theorem accounts (settings : Option (String → Option String)) (step : ClientStep) :
    Accounts host.env (step.take host settings) := by
  cases step with
  | ask r => exact (hf.answer r).accounts.map
  | enroll kind =>
    refine ⟨ClientStep.triple hf.tidy settings (.enroll kind), fun w hw => ?_⟩
    have hm := hf.makeFacade kind
    exact hf.enroll_accounted hw (hm.triple hw rfl) (hm.handled hw rfl) kind.family
  | share id =>
    refine ⟨ClientStep.triple hf.tidy settings (.share id), fun w hw => ?_⟩
    show w.Accounted host.env (shareInstance id w).2
    unfold shareInstance
    rw [bind_run, Host.lookUp_run]
    cases hb : w.behind? id with
    | none => exact .refl w
    | some x =>
      obtain ⟨f, kind⟩ := x
      obtain ⟨-, facade, hfacade, -⟩ := behind?_eq_some.1 hb
      exact (Host.Fair.hold_handled (.refl w) (by simp)
        (fun _ _ g hg => by cases hg; simp [hfacade]) (by simp)).toAccounted
  | retire id family => exact (hf.retire id family).map
  | createInstance family level pointer =>
    exact (hf.createInstance settings family level pointer).map
  | processImage family id input output =>
    exact (hf.processImage settings family id input output).accounts.map
  | destroyInstance family pointer => exact (hf.destroyInstance settings family pointer).map

end ClientStep

/-- After a run in which no call waits for itself, and no client counts a user less on its own, the
books are balanced. -/
theorem rest_after (env : Environment σ) (depth : Nat)
    (settings : Option (String → Option String)) (memory : σ) (steps : List ClientStep)
    (hd : ¬(World.after env depth settings memory steps).Disturbed) :
    (World.after env depth settings memory steps).Rest env := by
  have ha := Accounts.forM (fun step : ClientStep =>
    step.accounts (Host.nested_fair env depth) settings) steps
  have hacc := ha.accounted (orderly_start memory)
  rw [Host.nested_env] at hacc
  exact (rest_start memory).accounted (reaches_after env depth settings memory steps) hacc hd

/-- What holds of the vendor library and of the bootstrap service after a run of clients. -/
structure World.Bracketed (env : Environment σ) (w : World σ) : Prop where
  /-- The users of the vendor library are the façades that are there, the leases of clients, and the
  users that clients have counted themselves. -/
  users : w.instances =
    w.living.length + w.held.count .lease + w.journal.count (.tallied true)
  /-- The source is asked to open from 0 users to 1, to close from 1 to 0, and at no other time. -/
  log : env.hasSource = true → LibraryLog w.instances (w.journal.filter Event.isLibrary)
  alternates : env.hasSource = true →
    (w.journal.filter Event.isSourceCall).IsChain fun e e' => e.isOpening ≠ e'.isOpening
  /-- Where there are no users the source is closed: now, and whenever there were none. -/
  unused : env.hasSource = true → w.instances = 0 → sourceIsOpen w.journal = false
  closed : env.hasSource = true → ∀ later earlier,
    w.journal = later ++ .gauge .vendorInstances 0 :: earlier → sourceIsOpen earlier = false
  /-- When the source is asked to close, all implementations of façades have been released. -/
  emptied : ∀ later earlier, w.journal = later ++ .closed :: earlier →
    ∀ f o, .adopted f o ∈ earlier → Released o earlier
  /-- The bootstrap service is told once of each façade of its kinds, -/
  connects : ∀ f kind, .founded f kind ∈ w.journal →
    w.journal.count (.connected f) = if kind.usesService then 1 else 0
  /-- before the first implementation is asked for. -/
  seeks : ∀ later earlier f, w.journal = later ++ .sought f :: earlier → ∃ kind,
    .founded f kind ∈ earlier ∧ (.connected f ∈ earlier ↔ kind.usesService = true)
  /-- It is told once that the façade is gone, -/
  disconnects : ∀ f kind, .founded f kind ∈ w.journal →
    w.journal.count (.disconnected f) =
      if kind.usesService = true ∧ w.facade? f = none then 1 else 0
  /-- when the implementations have been released, and the lease has not been given back. -/
  leaves : ∀ later earlier f, w.journal = later ++ .disconnected f :: earlier →
    (∀ o, .adopted f o ∈ earlier → Released o earlier) ∧ .dissolved f ∉ earlier
  /-- The façades that are gone have given their lease back, each once. -/
  dissolves : ∀ f kind, .founded f kind ∈ w.journal →
    w.journal.count (.dissolved f) = if w.facade? f = none then 1 else 0

/-- Where the books are balanced and no façade is half gone, the vendor library and the bootstrap
service are as they should. -/
theorem World.Rest.bracket {w : World σ} (h : w.Rest env) : w.Bracketed env := by
  have hb := h.balanced.books
  have hreg := hb.regular
  have hlog := fun hs => hb.log hs h.counting
  -- A façade that is there was neither disconnected nor dissolved, and one that is gone was.
  have there : ∀ {f kind facade}, .founded f kind ∈ w.journal → w.facade? f = some facade →
      facade.kind = kind ∧ .disconnected f ∉ w.journal ∧ .dissolved f ∉ w.journal := by
    intro f kind facade hk hf
    have hs := hb.standing hf
    exact ⟨hreg.kind_inj hs.founded hk, hs.connected, hs.leased⟩
  have gone : ∀ {f kind}, .founded f kind ∈ w.journal → w.facade? f = none →
      .dissolved f ∈ w.journal := fun hk hf => h.gone (hb.known hk) hf
  constructor
  case users => exact h.instances_eq
  case log => exact hlog
  case alternates =>
    intro hs
    rw [← filter_isSourceCall]
    exact (hlog hs).alternates
  case unused =>
    intro hs h₀
    have := hlog hs
    rw [h₀] at this
    rw [← sourceIsOpen_filter]
    exact this.closed_at_zero
  case closed =>
    intro hs later earlier he
    have hfilter : w.journal.filter Event.isLibrary = later.filter Event.isLibrary ++
        .gauge .vendorInstances 0 :: earlier.filter Event.isLibrary := by
      rw [he, List.filter_append, List.filter_cons_of_pos rfl]
    rw [← sourceIsOpen_filter]
    exact (hlog hs).closed_at_gauge hfilter
  case emptied =>
    intro later earlier he
    rw [he] at hreg
    exact hreg.split.1.2
  case connects =>
    intro f kind hk
    rw [hreg.count_connected, if_congr (hreg.connected_iff hk) rfl rfl]
  case seeks =>
    intro later earlier f he
    rw [he] at hreg
    obtain ⟨⟨kind, hs⟩, hearlier⟩ := hreg.split
    exact ⟨kind, hs.founded, hearlier.connected_iff hs.founded⟩
  case disconnects =>
    intro f kind hk
    rw [hreg.count_disconnected]
    refine if_congr ?_ rfl rfl
    cases hf : w.facade? f with
    | none => simpa using hreg.disconnected_iff hk (gone hk hf)
    | some facade => simpa using (there hk hf).2.1
  case leaves =>
    intro later earlier f he
    rw [he] at hreg
    obtain ⟨⟨⟨kind, hs, -⟩, hempty⟩, -⟩ := hreg.split
    exact ⟨hempty, hs.leased⟩
  case dissolves =>
    intro f kind hk
    rw [hreg.count_dissolved]
    refine if_congr ?_ rfl rfl
    cases hf : w.facade? f with
    | none => simpa using gone hk hf
    | some facade => simpa using (there hk hf).2.2

/-- In every run of clients, with code of others that does as it likes and comes back to the
dispatcher to any depth, the vendor library is open as long as it has users, its source opens or
not as it likes, and it is closed only when all implementations of façades have been released. The
bootstrap service is told of each façade of its kinds before and after. A run in which a call
waits for itself does not end, and clients may not count users less on their own. -/
theorem bracketed (env : Environment σ) (depth : Nat)
    (settings : Option (String → Option String)) (memory : σ) (steps : List ClientStep)
    (hstalled : .stalled ∉ (World.after env depth settings memory steps).journal)
    (htallied : .tallied false ∉ (World.after env depth settings memory steps).journal) :
    (World.after env depth settings memory steps).Bracketed env :=
  (rest_after env depth settings memory steps (by
    rintro (hd | hd)
    · exact hstalled hd
    · exact htallied hd)).bracket

/-- Surroundings with a source of dynamic extensions that opens at the second attempt. It has an
extension for surfaces of a format, and the memory is whether it was asked to open before. -/
def Environment.reluctant : Environment Bool where
  config := {}
  statics := []
  provider := some {
    name := "reluctant"
    openUp := fun asked => .done true (if asked then .ok () else .error .notOpen)
    close := fun asked => .done asked ()
    register := fun _ asked => .done asked
      ([⟨⟨.hdrEnhancer, "bright", "1"⟩, .hdr [⟨[.rgba8888], .default, 1⟩], ⟨0⟩⟩], .ok 1) }
  loader _ _ := .error "no library"
  code := {
    create _ asked := .done asked (some 0)
    init _ asked := .done asked (.ok ())
    deinit _ asked := .done asked (.ok ())
    set _ _ asked := .done asked (.ok ())
    get _ asked := .done asked none
    work _ job asked := .done asked (.ok (), job)
    rate _ _ asked := .done asked (.ok 0) }

/-- The source fails to open for the first façade, and is asked again for the second one. -/
theorem bracketed_reluctant :
    let w := World.after .reluctant 1 none false [.ask (.facade .hdr), .ask (.drop (.facade 0)),
      .ask (.facade .hdr), .ask (.process 1 (.hdr (.packed 1 1 .rgba8888))),
      .ask (.drop (.facade 1))]
    w.journal.filter Event.isSourceCall = [.closed, .opened true, .closed, .opened false] ∧
      .adopted 1 0 ∈ w.journal ∧ w.Bracketed .reluctant := by
  intro w
  exact ⟨by decide +kernel, by decide +kernel,
    bracketed .reluctant 1 none false _ (by decide +kernel) (by decide +kernel)⟩

end ImageDispatch
