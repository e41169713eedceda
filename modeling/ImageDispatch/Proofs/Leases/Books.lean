import ImageDispatch.Proofs.Leases.Journal
import ImageDispatch.Proofs.Lifetime.Plain

/-!
# The books of a world

What the journal of a world tells about its leases, façades and implementations agrees with the
state.

* `World.Books owed`: the invariant. The number of users is the number of leases and `owed` more,
  whose lease is not noted yet or has been given back already.
* The lemmas after it: what an event, or a change of holders, objects or façades, does to the
  books.
-/

namespace ImageDispatch

/-- There is a source of dynamic extensions. -/
def Environment.hasSource {σ : Type} (env : Environment σ) : Bool := env.sourceName?.isSome

/-- The event does not change who has a lease or an implementation. -/
def Event.isMark : Event → Bool
  | .founded .. | .dissolved _ | .tallied _ | .adopted .. => false
  | _ => true

namespace World

variable {σ : Type}

/-- A running call holds the façade, or the façade is gone. Implementations of other façades are
neither held by running calls nor in release. -/
def Busy (w : World σ) (f : FacadeId) : Prop := .facade f ∈ w.pins ∨ w.facade? f = none

/-- The journal agrees with the state (module doc). -/
structure Books (env : Environment σ) (owed : Nat) (w : World σ) : Prop where
  /-- While the source opens or closes, its calls are ahead of the number of users. -/
  log : env.hasSource = true → w.counting = false →
    LibraryLog w.instances (w.journal.filter Event.isLibrary)
  regular : Regular w.journal
  counted : w.instances + (dissolvedIds w.journal).length =
    (foundedIds w.journal).length + w.held.count .lease + w.journal.count (.tallied true) + owed
  standing : ∀ {f facade}, w.facade? f = some facade → Standing f facade.kind w.journal
  known : ∀ {f kind}, .founded f kind ∈ w.journal → f < w.facades.size
  kept : ∀ {f}, w.refersTo (.facade f) = true → w.facade? f ≠ none
  unheld : ∀ {f o}, .adopted f o ∈ w.journal → .object o ∉ w.held
  pinned : ∀ {f o}, .adopted f o ∈ w.journal → .object o ∈ w.pins → w.Busy f
  cached : ∀ {f o g facade}, .adopted f o ∈ w.journal → w.facade? g = some facade →
    o ∈ facade.objects → g = f
  stage : ∀ {f o}, .adopted f o ∈ w.journal →
    w.stage? o = some .live ∨ w.stage? o = some .finished
  ended : ∀ {f o}, .adopted f o ∈ w.journal → w.stage? o = some .finished →
    Released o w.journal ∨ w.Busy f

namespace Books

variable {env : Environment σ} {n : Nat} {w w' : World σ}

theorem same (h : w.Books env n) (hs : w.Same w') : w'.Books env n := by
  obtain ⟨memory, journal, objects, facades, held, pins, instances, counting, _, _, table, _⟩ := w
  obtain ⟨memory', _, _, _, _, _, _, _, _, _, _, _⟩ := w'
  obtain ⟨rfl, rfl, rfl, rfl, rfl, rfl, rfl, rfl⟩ := hs
  exact { h with }

theorem kept_of_mem_pins (h : w.Books env n) {f : FacadeId} (hf : .facade f ∈ w.pins) :
    ∃ facade, w.facade? f = some facade :=
  Option.ne_none_iff_exists'.1 (h.kept (refersTo_iff.2 (.inr (.inl hf))))

/-- A façade that created something was made. -/
theorem lt_size_of_adopted (h : w.Books env n) {f : FacadeId} {o : ObjectId}
    (ha : .adopted f o ∈ w.journal) : f < w.facades.size := by
  obtain ⟨kind, hf⟩ := h.regular.founded_of_adopted ha
  exact h.known hf

/-- The next façade has not gone away yet. One that has gone was made, and has a smaller number. -/
theorem next_present (h : w.Books env n) :
    .disconnected w.facades.size ∉ w.journal ∧ .dissolved w.facades.size ∉ w.journal := by
  constructor
  · intro hm
    obtain ⟨earlier, ⟨⟨kind, hs, -⟩, -⟩, -, hsub⟩ := h.regular.of_mem hm
    exact Nat.lt_irrefl _ (h.known (hsub _ hs.founded))
  · intro hm
    obtain ⟨earlier, ⟨⟨kind, hs, -⟩, -⟩, -, hsub⟩ := h.regular.of_mem hm
    exact Nat.lt_irrefl _ (h.known (hsub _ hs))

/-! ## Events -/

/-- An event that is due is noted. It may change how many users have no lease. -/
theorem note {m : Nat} (h : w.Books env n) {e : Event} (hf : ∀ f kind, e ≠ .founded f kind)
    (ha : ∀ f o, e ≠ .adopted f o) (hl : e.isLibrary = true → w.counting = true)
    (hdue : e.Due w.journal)
    (hd : ∀ f, e = .disconnected f ∨ e = .dissolved f → w.facade? f = none)
    (hc : w.instances + (dissolvedIds (e :: w.journal)).length =
      (foundedIds (e :: w.journal)).length + w.held.count .lease +
        (e :: w.journal).count (.tallied true) + m) : (w.note e).Books env m := by
  have old : ∀ {f o}, .adopted f o ∈ e :: w.journal → .adopted f o ∈ w.journal :=
    fun hm => (List.mem_cons.1 hm).resolve_left (Ne.symm (ha _ _))
  constructor
  case log =>
    intro hs hc
    show LibraryLog w.instances ((e :: w.journal).filter Event.isLibrary)
    rw [List.filter_cons_of_neg fun he => by
      rw [show w.counting = false from hc] at hl; cases hl he]
    exact h.log hs hc
  case regular => exact ⟨hdue, h.regular⟩
  case counted => exact hc
  case standing =>
    intro f facade hf
    have hne : ¬(e = .disconnected f ∨ e = .dissolved f) := fun he => by
      cases (hd f he).symm.trans hf
    rw [not_or] at hne
    obtain ⟨h₁, h₂, h₃⟩ := h.standing hf
    exact ⟨List.mem_cons_of_mem _ h₁,
      fun hm => h₂ ((List.mem_cons.1 hm).resolve_left (Ne.symm hne.1)),
      fun hm => h₃ ((List.mem_cons.1 hm).resolve_left (Ne.symm hne.2))⟩
  case known =>
    exact fun hm => h.known ((List.mem_cons.1 hm).resolve_left (Ne.symm (hf _ _)))
  case kept => exact h.kept
  case unheld => exact fun ha => h.unheld (old ha)
  case pinned => exact fun ha => h.pinned (old ha)
  case cached => exact fun ha => h.cached (old ha)
  case stage => exact fun ha => h.stage (old ha)
  case ended =>
    intro f o ha hs
    exact (h.ended (old ha) hs).imp_left fun ⟨ok, hok⟩ => ⟨ok, List.mem_cons_of_mem _ hok⟩

/-- An event that is due, and does not change who has a lease or an implementation. -/
theorem mark (h : w.Books env n) {e : Event} (hm : e.isMark = true)
    (hl : e.isLibrary = true → w.counting = true) (hdue : e.Due w.journal)
    (hd : ∀ f, e = .disconnected f → w.facade? f = none) : (w.note e).Books env n := by
  refine h.note ?_ ?_ hl hdue ?_ ?_
  · rintro f kind rfl; cases hm
  · rintro f o rfl; cases hm
  · rintro f (he | rfl)
    · exact hd f he
    · cases hm
  · obtain ⟨h₁, h₂, h₃⟩ : dissolvedIds (e :: w.journal) = dissolvedIds w.journal ∧
        foundedIds (e :: w.journal) = foundedIds w.journal ∧
        (e :: w.journal).count (.tallied true) = w.journal.count (.tallied true) := by
      cases e with
      | founded | dissolved | tallied | adopted => cases hm
      | _ => exact ⟨rfl, rfl, List.count_cons_of_ne (by simp)⟩
    rw [h₁, h₂, h₃]
    exact h.counted

/-- A façade that is gone gives its lease back. -/
theorem dissolve (h : w.Books env n) {f : FacadeId} (hf : w.facade? f = none)
    (hdue : Event.Due w.journal (.dissolved f)) :
    (w.note (.dissolved f)).Books env (n + 1) := by
  refine h.note (by simp) (by simp) (by simp [Event.isLibrary]) hdue (by simp [hf]) ?_
  have := h.counted
  rw [List.count_cons_of_ne (by simp)]
  simp only [dissolvedIds, foundedIds, List.filterMap_cons, Event.dissolved?, Event.founded?,
    List.length_cons] at this ⊢
  omega

/-- A client counts a user. -/
theorem tally (h : w.Books env (n + 1)) : (w.note (.tallied true)).Books env n := by
  refine h.note (by simp) (by simp) (by simp [Event.isLibrary]) trivial (by simp) ?_
  have := h.counted
  rw [List.count_cons_self]
  simp only [dissolvedIds, foundedIds, List.filterMap_cons, Event.dissolved?,
    Event.founded?] at this ⊢
  omega

/-- A façade takes a new object into its implementations. Nothing else has it. -/
theorem adopt (h : w.Books env n) {f : FacadeId} {o : ObjectId} {kind : FacadeKind}
    (hf : Standing f kind w.journal) (hb : .facade f ∈ w.pins) (ho : w.stage? o = some .live)
    (hnew : ∀ f, .adopted f o ∉ w.journal) (hheld : .object o ∉ w.held)
    (hcached : ∀ g facade, w.facade? g = some facade → o ∉ facade.objects) :
    (w.note (.adopted f o)).Books env n := by
  have cases_mem : ∀ {g o'}, .adopted g o' ∈ .adopted f o :: w.journal →
      (g = f ∧ o' = o) ∨ .adopted g o' ∈ w.journal := by
    intro g o' hm
    rcases List.mem_cons.1 hm with he | hm
    · cases he; exact .inl ⟨rfl, rfl⟩
    · exact .inr hm
  constructor
  case log => exact h.log
  case regular => exact ⟨⟨⟨kind, hf⟩, hnew⟩, h.regular⟩
  case counted =>
    have := h.counted
    rw [show (w.note (.adopted f o)).journal.count (.tallied true) =
      w.journal.count (.tallied true) from List.count_cons_of_ne (by simp)]
    exact this
  case standing =>
    intro g facade hg
    obtain ⟨h₁, h₂, h₃⟩ := h.standing hg
    exact ⟨List.mem_cons_of_mem _ h₁, fun hm => h₂ ((List.mem_cons.1 hm).resolve_left (by simp)),
      fun hm => h₃ ((List.mem_cons.1 hm).resolve_left (by simp))⟩
  case known => exact fun hm => h.known ((List.mem_cons.1 hm).resolve_left (by simp))
  case kept => exact h.kept
  case unheld =>
    intro g o' hm
    rcases cases_mem hm with ⟨rfl, rfl⟩ | hm
    · exact hheld
    · exact h.unheld hm
  case pinned =>
    intro g o' hm hp
    rcases cases_mem hm with ⟨rfl, rfl⟩ | hm
    · exact .inl hb
    · exact h.pinned hm hp
  case cached =>
    intro g o' g' facade hm hg hmem
    rcases cases_mem hm with ⟨rfl, rfl⟩ | hm
    · exact absurd hmem (hcached g' facade hg)
    · exact h.cached hm hg hmem
  case stage =>
    intro g o' hm
    rcases cases_mem hm with ⟨rfl, rfl⟩ | hm
    · exact .inl ho
    · exact h.stage hm
  case ended =>
    intro g o' hm hs
    rcases cases_mem hm with ⟨rfl, rfl⟩ | hm
    · exact .inr (.inl hb)
    · exact (h.ended hm hs).imp_left fun ⟨ok, hok⟩ => ⟨ok, List.mem_cons_of_mem _ hok⟩

/-! ## Users and holders -/

/-- The number of users changes, and whether a call is changing it. -/
theorem recount (h : w.Books env n) {i m : Nat} {c : Bool}
    (hl : env.hasSource = true → c = false →
      LibraryLog i (w.journal.filter Event.isLibrary))
    (hc : i + n = w.instances + m) :
    { w with instances := i, counting := c : World σ }.Books env m :=
  { h with
    log := hl
    counted := by
      have := h.counted
      show i + (dissolvedIds w.journal).length = (foundedIds w.journal).length +
        w.held.count .lease + w.journal.count (.tallied true) + m
      omega }

/-- What clients hold changes. -/
theorem rehold (h : w.Books env n) {m : Nat} {held : List Ref}
    (hf : ∀ f, .facade f ∈ held → w.facade? f ≠ none)
    (ho : ∀ f o, .adopted f o ∈ w.journal → .object o ∉ held)
    (hc : n + w.held.count .lease = m + held.count .lease) :
    { w with held : World σ }.Books env m := by
  refine { h with counted := ?_, kept := fun {f} hr => ?_, unheld := fun {f o} ha => ho f o ha }
  · have := h.counted
    show w.instances + (dissolvedIds w.journal).length = (foundedIds w.journal).length +
      held.count .lease + w.journal.count (.tallied true) + m
    omega
  · rcases refersTo_iff.1 hr with hr | hr
    · exact hf f hr
    · exact h.kept (refersTo_iff.2 (.inr hr))

/-- What running calls hold changes. -/
theorem repin (h : w.Books env n) {pins : List Ref}
    (hf : ∀ f, .facade f ∈ pins → w.facade? f ≠ none)
    (hp : ∀ f o, .adopted f o ∈ w.journal → .object o ∈ pins →
      .facade f ∈ pins ∨ w.facade? f = none)
    (he : ∀ f o, .adopted f o ∈ w.journal → w.stage? o = some .finished →
      Released o w.journal ∨ .facade f ∈ pins ∨ w.facade? f = none) :
    { w with pins : World σ }.Books env n := by
  refine { h with
    kept := fun {f} hr => ?_
    pinned := fun {f o} ha ho => hp f o ha ho
    ended := fun {f o} ha hs => he f o ha hs }
  rcases refersTo_iff.1 hr with hr | hr | hr
  · exact h.kept (refersTo_iff.2 (.inl hr))
  · exact hf f hr
  · exact h.kept (refersTo_iff.2 (.inr (.inr hr)))

/-- A running call takes hold of a façade that is there. -/
theorem pin_facade (h : w.Books env n) {f : FacadeId} (hf : w.facade? f ≠ none) :
    { w with pins := .facade f :: w.pins : World σ }.Books env n := by
  have mono : ∀ {g}, w.Busy g → .facade g ∈ .facade f :: w.pins ∨ w.facade? g = none :=
    fun hb => hb.imp_left (List.mem_cons_of_mem _)
  refine h.repin (fun g hg => ?_) (fun g o ha ho => ?_) fun g o ha hs => ?_
  · rcases List.mem_cons.1 hg with hg | hg
    · cases hg; exact hf
    · exact h.kept (refersTo_iff.2 (.inr (.inl hg)))
  · exact mono (h.pinned ha ((List.mem_cons.1 ho).resolve_left (by simp)))
  · exact (h.ended ha hs).imp_right mono

/-- A running call takes hold of an object. If a façade has created it, that façade is busy. -/
theorem pin_object (h : w.Books env n) {o : ObjectId}
    (ho : ∀ f, .adopted f o ∈ w.journal → w.Busy f) :
    { w with pins := .object o :: w.pins : World σ }.Books env n := by
  have mono : ∀ {g}, w.Busy g → .facade g ∈ .object o :: w.pins ∨ w.facade? g = none :=
    fun hb => hb.imp_left (List.mem_cons_of_mem _)
  refine h.repin (fun g hg => ?_) (fun g o' ha ho' => ?_) fun g o' ha hs => ?_
  · exact h.kept (refersTo_iff.2 (.inr (.inl ((List.mem_cons.1 hg).resolve_left (by simp)))))
  · rcases List.mem_cons.1 ho' with he | ho'
    · cases he; exact mono (ho g ha)
    · exact mono (h.pinned ha ho')
  · exact (h.ended ha hs).imp_right mono

/-- A running call lets go of an object. -/
theorem unpin_object (h : w.Books env n) (o : ObjectId) :
    { w with pins := w.pins.erase (.object o) : World σ }.Books env n := by
  have mono : ∀ {g}, w.Busy g → .facade g ∈ w.pins.erase (.object o) ∨ w.facade? g = none :=
    fun hb => hb.imp_left (List.mem_erase_of_ne (by simp)).2
  refine h.repin (fun g hg => ?_) (fun g o' ha ho' => ?_) fun g o' ha hs => ?_
  · exact h.kept (refersTo_iff.2 (.inr (.inl (List.mem_of_mem_erase hg))))
  · exact mono (h.pinned ha (List.mem_of_mem_erase ho'))
  · exact (h.ended ha hs).imp_right mono

/-- The instance table changes, and keeps façades that are there. -/
theorem retable (h : w.Books env n) {table : InstanceTable FacadeId}
    (ht : ∀ f ∈ table.handles, w.facade? f ≠ none) : { w with table : World σ }.Books env n := by
  refine { h with kept := fun {f} hr => ?_ }
  rcases refersTo_iff.1 hr with hr | hr | hr
  · exact h.kept (refersTo_iff.2 (.inl hr))
  · exact h.kept (refersTo_iff.2 (.inr (.inl hr)))
  · exact ht f hr

/-! ## Objects -/

/-- A new object does not live yet. -/
theorem create (h : w.Books env n) (object : AlgorithmObject) :
    { w with objects := w.objects.push object : World σ }.Books env n := by
  have hs : ∀ {f o}, .adopted f o ∈ w.journal →
      World.stage? { w with objects := w.objects.push object } o = w.stage? o := by
    intro f o ha
    rw [stage?_push, if_neg]
    rintro rfl
    rcases h.stage ha with hl | hl <;> rw [stage?_size] at hl <;> cases hl
  exact { h with
    stage := fun ha => by rw [hs ha]; exact h.stage ha
    ended := fun ha he => h.ended ha (by rw [← hs ha]; exact he) }

/-- An object starts to live, held by the running call. -/
theorem enliven (h : w.Books env n) {o : ObjectId} (ho : w.stage? o = some .starting) :
    { w with
      objects := w.objects.modify o fun object => { object with stage := .live }
      pins := .object o :: w.pins : World σ }.Books env n := by
  have hnew : ∀ f, .adopted f o ∉ w.journal := by
    intro f ha
    rcases h.stage ha with hl | hl <;> rw [ho] at hl <;> cases hl
  have hs : ∀ {f o'}, .adopted f o' ∈ w.journal → World.stage? { w with
      objects := w.objects.modify o fun object => { object with stage := .live }
      pins := .object o :: w.pins } o' = w.stage? o' := by
    intro f o' ha
    rw [stage?_modify, if_neg]
    rintro rfl
    exact hnew f ha
  have hb := h.pin_object (o := o) fun f ha => absurd ha (hnew f)
  exact { hb with
    stage := fun ha => by rw [hs ha]; exact h.stage ha
    ended := fun ha he => hb.ended ha ((hs ha).symm.trans he) }

/-- An object stops to live. If a façade has created it, that façade is busy. -/
theorem finish (h : w.Books env n) {o : ObjectId} (ho : w.stage? o = some .live)
    (hb : ∀ f, .adopted f o ∈ w.journal → w.Busy f) :
    { w with
      objects := w.objects.modify o fun object => { object with stage := .finished }
      : World σ }.Books env n := by
  have hs : ∀ o', World.stage? { w with
      objects := w.objects.modify o fun object => { object with stage := .finished } } o' =
      if o' = o then some .finished else w.stage? o' := by
    intro o'
    rw [stage?_modify, ho]
    rfl
  refine { h with stage := fun {f o'} ha => ?_, ended := fun {f o'} ha he => ?_ }
  · rw [hs]
    split
    · exact .inr rfl
    · exact h.stage ha
  · rw [hs] at he
    split at he
    · rename_i heq
      subst heq
      exact .inr (hb f ha)
    · exact h.ended ha he

/-! ## Façades -/

/-- A façade changes. It may take in objects that it has created. -/
theorem change (h : w.Books env n) {f : FacadeId} {change : Facade → Facade}
    (hk : ∀ facade, w.facade? f = some facade → (change facade).kind = facade.kind)
    (ho : ∀ facade, w.facade? f = some facade → ∀ o ∈ (change facade).objects,
      o ∈ facade.objects ∨ .adopted f o ∈ w.journal) :
    { w with facades := w.facades.modify f (Option.map change) : World σ }.Books env n := by
  have hf := facade?_modify w f
  have hnone : ∀ {g}, World.facade? { w with
      facades := w.facades.modify f (Option.map change) } g = none ↔ w.facade? g = none := by
    intro g
    rw [hf]
    split
    · rename_i he; rw [he, Option.map_eq_none_iff]
    · rfl
  refine { h with
    standing := fun {g facade} hg => ?_
    known := fun hm => by simpa using h.known hm
    kept := fun hr => by rw [Ne, hnone]; exact h.kept (refersTo_iff.2 (refersTo_iff.1 hr))
    pinned := fun ha hp => (h.pinned ha hp).imp_right hnone.2
    cached := fun {g o g' facade} ha hg hm => ?_
    ended := fun ha hs => (h.ended ha hs).imp_right (Or.imp_right hnone.2) }
  · rw [hf] at hg
    split at hg
    · rename_i he
      obtain ⟨facade, hfacade, rfl⟩ := Option.map_eq_some_iff.1 hg
      rw [he, hk facade hfacade]
      exact h.standing hfacade
    · exact h.standing hg
  · rw [hf] at hg
    split at hg
    · rename_i he
      obtain ⟨facade, hfacade, rfl⟩ := Option.map_eq_some_iff.1 hg
      rcases ho facade hfacade o hm with hm | hm
      · rw [he]; exact h.cached ha hfacade hm
      · rw [he]; exact h.regular.adopted_inj hm ha
    · exact h.cached ha hg hm

/-- A new façade is noted. The running call holds it. -/
theorem found (h : w.Books env (n + 1)) (kind : FacadeKind) (p : CachePolicy)
    (hc : .connected w.facades.size ∈ w.journal ↔ kind.usesService = true) :
    { w.note (.founded w.facades.size kind) with
      facades := w.facades.push (some (.new kind p))
      pins := .facade w.facades.size :: w.pins : World σ }.Books env n := by
  have hsize : w.facade? w.facades.size = none := by simp [facade?]
  have hf : ∀ g, World.facade? { w.note (.founded w.facades.size kind) with
      facades := w.facades.push (some (.new kind p))
      pins := .facade w.facades.size :: w.pins } g =
      if g = w.facades.size then some (.new kind p) else w.facade? g :=
    facade?_push (w.note (.founded w.facades.size kind)) _ _
  have old : ∀ {e : Event}, e ≠ .founded w.facades.size kind →
      e ∈ .founded w.facades.size kind :: w.journal → e ∈ w.journal :=
    fun hne hm => (List.mem_cons.1 hm).resolve_left hne
  -- Nothing was said of the new façade before.
  have hnew : ∀ {g o}, .adopted g o ∈ w.journal → g ≠ w.facades.size :=
    fun ha he => Nat.lt_irrefl _ (he ▸ h.lt_size_of_adopted ha)
  have hbusy : ∀ {g o}, .adopted g o ∈ w.journal → w.Busy g →
      World.Busy { w.note (.founded w.facades.size kind) with
        facades := w.facades.push (some (.new kind p))
        pins := .facade w.facades.size :: w.pins } g := by
    intro g o ha hb
    refine hb.imp (List.mem_cons_of_mem _) fun hg => ?_
    rw [hf, if_neg (hnew ha)]
    exact hg
  constructor
  case log => exact h.log
  case regular =>
    exact ⟨⟨fun kind' hm => Nat.lt_irrefl _ (h.known hm), hc⟩, h.regular⟩
  case counted =>
    have := h.counted
    show w.instances + (dissolvedIds w.journal).length =
      (foundedIds w.journal).length + 1 + w.held.count .lease +
        (Event.founded w.facades.size kind :: w.journal).count (.tallied true) + n
    rw [List.count_cons_of_ne (by simp)]
    omega
  case standing =>
    intro g facade hg
    rw [hf] at hg
    split at hg
    · rename_i he
      cases hg
      subst he
      obtain ⟨hconnected, hleased⟩ := h.next_present
      exact ⟨List.mem_cons_self, fun hm => hconnected (old (by simp) hm),
        fun hm => hleased (old (by simp) hm)⟩
    · obtain ⟨h₁, h₂, h₃⟩ := h.standing hg
      exact ⟨List.mem_cons_of_mem _ h₁, fun hm => h₂ (old (by simp) hm),
        fun hm => h₃ (old (by simp) hm)⟩
  case known =>
    intro g kind' hm
    show g < (w.facades.push _).size
    rw [Array.size_push]
    rcases List.mem_cons.1 hm with he | hm
    · cases he; exact Nat.lt_succ_self _
    · exact Nat.lt_succ_of_lt (h.known hm)
  case kept =>
    intro g hr
    rw [hf]
    split
    · simp
    · rename_i hne
      refine h.kept (refersTo_iff.2 ?_)
      rcases refersTo_iff.1 hr with hr | hr | hr
      · exact .inl hr
      · exact .inr (.inl ((List.mem_cons.1 hr).resolve_left (by simpa using hne)))
      · exact .inr (.inr hr)
  case unheld => exact fun ha => h.unheld (old (by simp) ha)
  case pinned =>
    intro g o ha hp
    have ha := old (by simp) ha
    exact hbusy ha (h.pinned ha ((List.mem_cons.1 hp).resolve_left (by simp)))
  case cached =>
    intro g o g' facade ha hg ho
    rw [hf] at hg
    split at hg
    · cases hg
      rw [Facade.objects_new] at ho
      cases ho
    · exact h.cached (old (by simp) ha) hg ho
  case stage => exact fun ha => h.stage (old (by simp) ha)
  case ended =>
    intro g o ha hs
    have ha := old (by simp) ha
    refine (h.ended ha hs).imp (fun hended => ?_) (hbusy ha)
    obtain ⟨ok, hok⟩ := hended
    exact ⟨ok, List.mem_cons_of_mem _ hok⟩

/-- A façade that nothing keeps goes away, and the running call takes over its objects. -/
theorem dismantle (h : w.Books env n) {f : FacadeId} {facade : Facade}
    (hf : w.facade? f = some facade) (hr : w.refersTo (.facade f) = false) :
    { w with
      facades := w.facades.modify f fun _ => none
      pins := facade.objects.map Ref.object ++ w.pins : World σ }.Books env n := by
  have hg := facade?_remove w (facade.objects.map Ref.object ++ w.pins) f
  have hbusy : ∀ {g}, w.Busy g → World.Busy { w with
      facades := w.facades.modify f fun _ => none
      pins := facade.objects.map Ref.object ++ w.pins } g := by
    intro g hb
    refine hb.imp (List.mem_append_right _) fun hn => ?_
    rw [hg]
    split
    · rfl
    · exact hn
  refine { h with
    standing := fun {g facade'} hg' => ?_
    known := fun hm => by simpa using h.known hm
    kept := fun {g} hr' => ?_
    pinned := fun {g o} ha hp => ?_
    cached := fun {g o g' facade'} ha hg' hm => ?_
    ended := fun ha hs => (h.ended ha hs).imp_right hbusy }
  · rw [hg] at hg'
    split at hg'
    · cases hg'
    · exact h.standing hg'
  · have hkeeps : w.refersTo (.facade g) = true := by
      rcases refersTo_iff.1 hr' with hr' | hr' | hr'
      · exact refersTo_iff.2 (.inl hr')
      · refine refersTo_iff.2 (.inr (.inl ((List.mem_append.1 hr').resolve_left ?_)))
        simp
      · exact refersTo_iff.2 (.inr (.inr hr'))
    rw [hg, if_neg]
    · exact h.kept hkeeps
    · rintro rfl
      exact Bool.false_ne_true (hr.symm.trans hkeeps)
  · rcases List.mem_append.1 hp with hp | hp
    · obtain ⟨o', ho', he⟩ := List.mem_map.1 hp
      cases he
      exact .inr ((hg g).trans (if_pos (h.cached ha hf ho').symm))
    · exact hbusy (h.pinned ha hp)
  · rw [hg] at hg'
    split at hg'
    · cases hg'
    · exact h.cached ha hg' hm

end Books

end World

end ImageDispatch
