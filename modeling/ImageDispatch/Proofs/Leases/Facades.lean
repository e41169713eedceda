import ImageDispatch.Proofs.Leases.Objects

/-!
# Façades that come and go

* `Host.Fair.makeFacade`: the bootstrap service is told of a façade, then a user is counted, and
  then the façade is there.
* `Host.Fair.settleFacade`: a façade that nothing keeps hands its objects to the running call. When
  they have been released (`emptied_of_dismantled`) it takes leave of the bootstrap service, gives
  its lease back, and a user is counted less.
-/

namespace ImageDispatch

open Act World

variable {σ : Type}

namespace World

variable {env : Environment σ} {w w₁ w₂ w' : World σ}

/-- A passage to the end tells of the release. -/
theorem Evolves.released {o : ObjectId} (h : w.Evolves w') (hs : w.stage? o ≠ some .finished)
    (hs' : w'.stage? o = some .finished) : Released o w'.journal := by
  obtain ⟨t, ht, hpass⟩ := h o
  have told : ∀ ok, .ended o .deinit ok ∈ t → Released o w'.journal := by
    intro ok hm
    have : Event.ended o .deinit ok ∈ w'.calls o := by rw [ht]; exact List.mem_append_right _ hm
    exact ⟨ok, (List.mem_filter.1 (List.mem_reverse.1 this)).1⟩
  generalize World.stage? w o = s at hs hpass
  rw [hs'] at hpass
  cases hpass with
  | passed h ok => exact told ok (by simp [release])
  | released h ok => exact told ok (by simp [release])
  | rests => exact absurd rfl hs

/-- When the objects of a façade that was taken apart have been let go, everything that it has
created has been released. -/
theorem emptied_of_dismantled {f : FacadeId} (hb : w.Books env 0) (hf : w.facade? f ≠ none)
    (hr : w.refersTo (.facade f) = false) (hw' : w'.Orderly) (hb' : w'.Books env 0)
    (hp : w'.pins = w.pins) (he : w.Evolves w') (hj : w.journal ⊆ w'.journal)
    (hgone : w'.facade? f = none)
    (hold : ∀ {o}, .adopted f o ∈ w'.journal → .adopted f o ∈ w.journal) :
    Emptied f w'.journal := by
  have idle : ¬w.Busy f := fun hbusy => by
    rcases hbusy with hm | hn
    · exact Bool.false_ne_true (hr.symm.trans (refersTo_iff.2 (.inr (.inl hm))))
    · exact hf hn
  intro o ha
  have hs : w'.stage? o = some .finished := by
    refine (hb'.stage ha).resolve_left fun hl => ?_
    rcases refersTo_iff.1 (hw'.kept_of_live hl (by simp)) with hm | hm | ⟨g, facade, hg, hm⟩
    · exact hb'.unheld ha hm
    · exact idle (hb.pinned (hold ha) (hp ▸ hm))
    · rw [hb'.cached ha hg hm, hgone] at hg
      cases hg
  by_cases hs₀ : w.stage? o = some .finished
  · obtain ⟨ok, hok⟩ := (hb.ended (hold ha) hs₀).resolve_right idle
    exact ⟨ok, hj hok⟩
  · exact he.released hs₀ hs

/-- The objects that running calls hold live. -/
def PinsLive (w : World σ) : Prop := ∀ {o}, .object o ∈ w.pins → w.stage? o = some .live

theorem OrderlyBut.pinsLive (h : w.Orderly) : w.PinsLive :=
  fun hm => h.live_of_kept (refersTo_iff.2 (.inr (.inl hm)))

/-- A running call lets go of the façade that it held all the time since `w`. -/
theorem Balanced.unpin_facade (hw : w.PinsLive) (hb : w.Balanced env) (hb' : w'.Balanced env)
    (hs : w.Steady w') (he : w.Evolves w') {f : FacadeId} (hp : w'.pins = .facade f :: w.pins) :
    { w' with pins := w.pins : World σ }.Balanced env := by
  have busy : ∀ {g o}, .adopted g o ∈ w.journal → w.Busy g →
      .facade g ∈ w.pins ∨ w'.facade? g = none := fun ha hbusy =>
    hbusy.imp_right fun hn => (hs.gone (by simp) (hb.books.lt_size_of_adopted ha) hn).facade
  refine ⟨hb'.books.repin (fun g hm => ?_) (fun g o ha hm => ?_) fun g o ha hfin => ?_,
    hb'.connected⟩
  · exact hb'.books.kept (refersTo_iff.2 (.inr (.inl (by rw [hp]; exact .tail _ hm))))
  · have ha := hs.adopted_of_old ha (by simp [hw hm])
    exact busy ha (hb.books.pinned ha hm)
  · by_cases hs₀ : w.stage? o = some .finished
    · have ha := hs.adopted_of_old ha (by simp [hs₀])
      exact (hb.books.ended ha hs₀).imp (fun ⟨ok, hok⟩ => ⟨ok, hs.journal hok⟩) (busy ha)
    · exact .inl (he.released hs₀ hfin)

/-- The façade `f` of `v` has been taken apart in `w`, and has not given its lease back yet. It has
taken leave of the bootstrap service if `told`. -/
structure Leaving (env : Environment σ) (f : FacadeId) (kind : FacadeKind) (told : Bool)
    (v w : World σ) : Prop where
  orderly : w.Orderly
  balanced : w.Balanced env
  calm : v.CalmBut (some f) w
  counting : w.counting = v.counting
  gone : w.facade? f = none
  founded : .founded f kind ∈ w.journal
  undissolved : .dissolved f ∉ w.journal
  disconnected : .disconnected f ∈ w.journal ↔ told = true
  emptied : Emptied f w.journal

/-- The façade `f` has come, and is new. -/
structure Entered (env : Environment σ) (f : FacadeId) (v w : World σ) : Prop where
  balanced : w.Balanced env
  steady : v.Steady w
  fresh : v.facades.size ≤ f

theorem Leaving.step {f : FacadeId} {kind : FacadeKind} {told : Bool}
    (h : w.Leaving env f kind told w₁) (hw : w₂.Orderly) (ha : w₁.Accounted env w₂)
    (hd : ¬w₂.Disturbed) : w.Leaving env f kind told w₂ := by
  obtain ⟨hb, hs⟩ := ha.balanced h.balanced hd
  have hg := hs.gone (by simp) (h.balanced.books.known h.founded) h.gone
  exact ⟨hw, hb, h.calm.trans (hs.toCalmBut.but _), hs.counting.trans h.counting, hg.facade,
    ha.journal h.founded, fun hm => h.undissolved (hg.dissolved hm),
    ⟨fun hm => h.disconnected.1 (hg.disconnected hm),
      fun ht => ha.journal (h.disconnected.2 ht)⟩,
    fun o hm => by
      obtain ⟨ok, hok⟩ := h.emptied o (hg.adopted hm)
      exact ⟨ok, ha.journal hok⟩⟩

/-- A façade that is taken apart is the only one that changes. -/
theorem CalmBut.dismantle (w : World σ) (f : FacadeId) (pins : List Ref) :
    w.CalmBut (some f) { w with facades := w.facades.modify f fun _ => none, pins } := by
  have hsize : (w.facades.modify f fun _ => none).size = w.facades.size := Array.size_modify
  have hg := facade?_remove w pins f
  refine ⟨fun _ => id, Nat.le_refl _, hsize.ge, fun {g} hne _ hn => ⟨?_, id, id, id⟩,
    fun {g} hne hlt hn => .inl ⟨hlt.trans_eq hsize, ?_⟩, .inl⟩
  · rw [hg, if_neg (by simpa using Ne.symm hne)]
    exact hn
  · rwa [hg, if_neg (by simpa using Ne.symm hne)] at hn

/-- A façade that comes changes nothing else. -/
theorem CalmBut.push (w : World σ) (facade : Facade) (pins : List Ref) :
    w.Calm { w with facades := w.facades.push (some facade), pins } := by
  have hsize : (w.facades.push (some facade)).size = w.facades.size + 1 := Array.size_push _
  have hg := facade?_push w facade pins
  refine ⟨fun _ => id, Nat.le_refl _, (Nat.le_succ _).trans_eq hsize.symm,
    fun {g} _ hlt hn => ⟨?_, id, id, id⟩, fun {g} _ hlt hn => .inl ?_, .inl⟩
  · rw [hg, if_neg hlt.ne]
    exact hn
  · rw [hg] at hn
    split at hn
    · cases hn
    · rename_i hne
      exact ⟨lt_of_le_of_ne (Nat.lt_succ_iff.1 (hlt.trans_eq hsize)) hne, hn⟩

/-- A façade that was taken apart is leaving, once its objects have been let go. -/
theorem Accounted.leaving {f : FacadeId} {facade : Facade}
    (h : { w with
      facades := w.facades.modify f fun _ => none
      pins := facade.objects.map Ref.object ++ w.pins : World σ }.Accounted env w')
    (hb : w.Balanced env) (hf : w.facade? f = some facade) (hr : w.refersTo (.facade f) = false)
    (hw' : w'.Orderly) (hp : w'.pins = w.pins) (he : w.Evolves w') (hd : ¬w'.Disturbed) :
    w.Leaving env f facade.kind false w' := by
  have hsize : (w.facades.modify f fun _ => none).size = w.facades.size := Array.size_modify
  have hs := hb.books.standing hf
  obtain ⟨hb', hst⟩ := h.balanced ⟨hb.books.dismantle hf hr, fun hc g hm => by
    rw [hsize]; exact hb.connected hc hm⟩ hd
  have hg := hst.gone (by simp) ((hb.books.known hs.founded).trans_eq hsize.symm)
    ((facade?_remove w _ f f).trans (if_pos rfl))
  exact ⟨hw', hb', (CalmBut.dismantle w f _).trans (hst.toCalmBut.but _), hst.counting, hg.facade,
    h.journal hs.founded, fun hm => hs.leased (hg.dissolved hm),
    ⟨fun hm => absurd (hg.disconnected hm) hs.connected, by simp⟩,
    emptied_of_dismantled hb.books (by simp [hf]) hr hw' hb'.books hp he h.journal hg.facade
      hg.adopted⟩

end World

namespace Host.Fair

variable {host : Host σ} (hf : host.Fair)

include hf

/-! ## A façade goes -/

omit hf in
/-- The bootstrap service may be told of a façade that is leaving. -/
theorem leaving_note {v w : World σ} {f : FacadeId} {kind : FacadeKind}
    (h : v.Leaving host.env f kind false w) (hk : kind.usesService = true) :
    v.Leaving host.env f kind true (w.note (.disconnected f)) := by
  have hs : Standing f kind w.journal :=
    ⟨h.founded, fun hm => Bool.false_ne_true (h.disconnected.1 hm), h.undissolved⟩
  refine ⟨h.orderly.same rfl rfl rfl rfl rfl, ?_, h.calm.trans (.note ?_ (by simp)), h.counting,
    h.gone, .tail _ h.founded, by simpa using h.undissolved, by simp, fun o hm => ?_⟩
  · exact h.balanced.mark rfl rfl (by simp) ⟨⟨kind, hs, hk⟩, h.emptied⟩ fun g hg => by
      cases hg; exact h.gone
  · intro g hne _ _
    simpa using hne
  · obtain ⟨ok, hok⟩ := h.emptied o ((List.mem_cons.1 hm).resolve_left (by simp))
    exact ⟨ok, .tail _ hok⟩

theorem takeLeave_grows {w : World σ} (hw : w.Orderly) (f : FacadeId) :
    w.journal ⊆ (host.takeLeave f w).2.journal ∧ (host.takeLeave f w).2.table = w.table := by
  have hw₁ : (w.note (.disconnected f)).Orderly := hw.same rfl rfl rfl rfl rfl
  have h := (hf.plain host.disconnect_plain []).handled hw₁ rfl
  exact ⟨fun _ he => h.journal (.tail _ he), h.table⟩

theorem takeLeave_leaving {v w : World σ} {f : FacadeId} {kind : FacadeKind}
    (h : v.Leaving host.env f kind false w) (hk : kind.usesService = true)
    (hd : ¬(host.takeLeave f w).2.Disturbed) :
    v.Leaving host.env f kind true (host.takeLeave f w).2 := by
  have h₁ := leaving_note h hk
  have hp := hf.plain host.disconnect_plain []
  exact h₁.step (hp.triple h₁.orderly rfl).orderly (hp.handled h₁.orderly rfl).toAccounted hd

/-- A façade that is leaving gives its lease back. -/
theorem dissolve_leaving {v w : World σ} {f : FacadeId} {kind : FacadeKind}
    (h : v.Leaving host.env f kind kind.usesService w) (hv : v.facade? f ≠ none)
    (hd : ¬(host.decrease (w.note (.dissolved f))).2.Disturbed) :
    (host.decrease (w.note (.dissolved f))).2.Balanced host.env ∧
      v.Steady (host.decrease (w.note (.dissolved f))).2 := by
  have hw₁ : (w.note (.dissolved f)).Orderly := h.orderly.same rfl rfl rfl rfl rfl
  have hdue : Event.Due w.journal (.dissolved f) :=
    ⟨⟨kind, h.founded, h.disconnected⟩, h.undissolved, h.emptied⟩
  have hr := hf.decrease_books hw₁ (h.balanced.books.dissolve h.gone hdue) hd
  have hc : v.CalmBut (some f) (w.note (.dissolved f)) :=
    h.calm.trans (.note (fun g hne _ _ => by simpa using hne) (by simp))
  have hcalm := (hc.trans (hr.calm.but _)).whole hv (hr.calm.journal List.mem_cons_self)
  refine ⟨hr.balanced fun hu g hm => ?_, hcalm, hr.steady.counting.trans h.counting, fun hu => ?_⟩
  · exact h.balanced.connected hu ((List.mem_cons.1 hm).resolve_left (by simp))
  · cases (h.counting.trans hu).symm.trans hr.idle

/-- A façade that is leaving leads to a world that comes from before it was taken apart. -/
theorem dissolve_handled {v w : World σ} {f : FacadeId} (kind : FacadeKind) (hw : w.Orderly)
    (hj : v.journal ⊆ w.journal) (ht : w.table = v.table) (hv : v.facade? f ≠ none)
    (hl : v.Balanced host.env → ¬w.Disturbed →
      v.Leaving host.env f kind kind.usesService w) :
    v.Handled host.env (host.decrease (w.note (.dissolved f))).2 := by
  have hw₁ : (w.note (.dissolved f)).Orderly := hw.same rfl rfl rfl rfl rfl
  obtain ⟨hj₁, ht₁⟩ := hf.decrease_grows hw₁
  refine ⟨⟨fun _ he => hj₁ (.tail _ (hj he)), fun hb hd => ?_⟩, ht₁.trans ht⟩
  exact hf.dissolve_leaving
    (hl hb (Accounted.not_disturbed (fun _ he => hj₁ (.tail _ he)) hd)) hv hd

/-- A façade that has lost its last holder is taken apart. -/
theorem settleFacade {w : World σ} {f : FacadeId} (hw : w.OrderlyBut (some (.facade f))) :
    w.Handled host.env (host.settleFacade f w).2 := by
  unfold Host.settleFacade
  rw [get_run]
  cases hfacade : w.facade? f with
  | none => exact .refl w
  | some facade =>
    by_cases hr : w.refersTo (.facade f) = false
    · simp only [hr, ↓reduceIte]
      rw [bind_run]
      have hw₁ := hw.dismantle hfacade
      have hu := hf.unpinObjects facade.objects
      obtain ⟨hw₂, hp₂, he⟩ := hu.triple hw₁ rfl
      have h₂ := hu.handled hw₁ rfl
      show w.Handled host.env ((facade.objects.forM host.unpinObject >>= fun _ => _)
        { w with
          facades := w.facades.modify f fun _ => none
          pins := facade.objects.map Ref.object ++ w.pins }).2
      rw [bind_run]
      generalize (facade.objects.forM host.unpinObject _).2 = u at hw₂ hp₂ he h₂ ⊢
      have he := (Evolves.of_eq (w := w) (fun _ => rfl) fun _ => rfl).trans he
      have leaving := fun hb => h₂.toAccounted.leaving hb hfacade hr hw₂ hp₂ he
      have hv : w.facade? f ≠ none := by simp [hfacade]
      by_cases hk : facade.kind.usesService = true
      · simp only [hk, ↓reduceIte]
        rw [bind_run]
        obtain ⟨hj, ht⟩ := hf.takeLeave_grows hw₂ f
        refine hf.dissolve_handled facade.kind (hf.tidy.takeLeave f hw₂ rfl).orderly
          (fun _ he => hj (h₂.journal he)) (ht.trans h₂.table) hv fun hb hd => ?_
        rw [hk]
        exact hf.takeLeave_leaving (leaving hb (Accounted.not_disturbed hj hd)) hk hd
      · simp only [hk]
        refine hf.dissolve_handled facade.kind hw₂ h₂.journal h₂.table hv fun hb hd => ?_
        rw [show facade.kind.usesService = false by simpa using hk]
        exact leaving hb hd
    · simp only [hr]
      exact .refl w

/-- A running call lets go of the façade that it has held since `v`. -/
theorem unpin_facade {v w : World σ} {f : FacadeId} (hv : v.PinsLive)
    (h : v.Reaches (.facade f :: v.pins) w) (ha : v.Handled host.env w) :
    v.Handled host.env (host.unpin (.facade f) w).2 := by
  have he : w.pins.erase (.facade f) = v.pins := by rw [h.pins_eq]; simp
  have h₁ : v.Handled host.env { w with pins := w.pins.erase (.facade f) } := by
    rw [he]
    refine ⟨⟨ha.journal, fun hb hd => ?_⟩, ha.table⟩
    obtain ⟨hb', hs⟩ := ha.balanced hb hd
    exact ⟨hb.unpin_facade hv hb' hs h.evolves h.pins_eq,
      hs.trans (.of_eq rfl rfl rfl rfl (Nat.le_refl _))⟩
  have hw₁ : { w with pins := w.pins.erase (.facade f) : World σ }.OrderlyBut
      (some (.facade f)) := by
    rw [he]; exact h.orderly.unpin h.pins_eq
  exact h₁.trans (hf.settleFacade hw₁)

/-! ## A façade comes -/

omit hf in
/-- Whoever changes the number of users is the only one. -/
theorem increase_idle {w : World σ} (hd : ¬(host.increase w).2.Disturbed) :
    w.counting = false := by
  by_contra hc
  refine hd ?_
  unfold Host.increase
  rw [exclusively_run, if_pos (by simpa using hc)]
  exact .inl List.mem_cons_self

theorem enter_grows (kind : FacadeKind) {w : World σ} (hw : w.Orderly) :
    w.journal ⊆ (host.enter kind w).2.journal ∧ (host.enter kind w).2.table = w.table := by
  obtain ⟨hj, ht⟩ := hf.increase_grows hw
  exact ⟨fun _ he => .tail _ (hj he), ht⟩

/-- A façade is there from now on. The bootstrap service has been told of it before, if it is told
of its kind, and of no other façade that is not there. -/
theorem enter_entered (kind : FacadeKind) {w : World σ} (hw : w.Orderly)
    (hb : w.Books host.env 0)
    (hc : ∀ f, .connected f ∈ w.journal →
      f < w.facades.size ∨ f = w.facades.size ∧ kind.usesService = true)
    (hk : kind.usesService = true → .connected w.facades.size ∈ w.journal)
    (hd : ¬(host.enter kind w).2.Disturbed) :
    w.Entered host.env (host.enter kind w).1 (host.enter kind w).2 := by
  have hr := hf.increase_books hw hb (Accounted.not_disturbed (fun _ => .tail _) hd)
  have hj := (hf.increase_grows hw).1
  have hrun : ∀ u, (host.increase w).2 = u → host.enter kind w = (u.facades.size,
      { u.note (.founded u.facades.size kind) with
        facades := u.facades.push (some (.new kind host.env.config.cachePolicy))
        pins := .facade u.facades.size :: u.pins }) := by
    rintro _ rfl
    rfl
  generalize (host.increase w).2 = u at hr hj hrun
  rw [hrun u rfl]
  have told : .connected u.facades.size ∈ u.journal ↔ kind.usesService = true := by
    refine ⟨fun hm => ?_, fun hs => hr.size ▸ hj (hk hs)⟩
    rw [hr.size] at hm
    rcases hc _ (hr.connected hm) with hlt | ⟨-, hs⟩
    · exact absurd hlt (Nat.lt_irrefl _)
    · exact hs
  have h₁ : u.Calm (u.note (.founded u.facades.size kind)) := .note (by simp) (by simp)
  refine ⟨⟨hr.books.found kind _ told, fun _ f hm => ?_⟩,
    ⟨(hr.calm.trans h₁).trans (CalmBut.push _ _ _), hr.steady.counting,
      fun hu => by cases hu.symm.trans hr.idle⟩, hr.size.ge⟩
  have hm := hc f (hr.connected ((List.mem_cons.1 hm).resolve_left (by simp)))
  show f < (u.facades.push _).size
  rw [Array.size_push, hr.size]
  omega

theorem announce_grows {w : World σ} (hw : w.Orderly) :
    w.journal ⊆ (host.announce w).2.journal ∧ (host.announce w).2.table = w.table := by
  have h := (hf.plain host.connect_plain []).handled hw rfl
  exact ⟨fun _ he => .tail _ (h.journal he), h.table⟩

/-- The bootstrap service is told of the façade that comes next. -/
theorem announce_entered {kind : FacadeKind} {w : World σ} (hw : w.Orderly)
    (hb : w.Balanced host.env) (hk : kind.usesService = true)
    (hd : ¬(host.enter kind (host.announce w).2).2.Disturbed) :
    w.Entered host.env (host.enter kind (host.announce w).2).1
      (host.enter kind (host.announce w).2).2 := by
  have hc := hf.plain host.connect_plain []
  have hw₁ := (hc.triple hw rfl).orderly
  have h₁ := hc.handled hw rfl
  have hrun : (host.announce w).2 =
      (host.connect w).2.note (.connected (host.connect w).2.facades.size) := rfl
  rw [hrun] at hd ⊢
  generalize (host.connect w).2 = u at hd hw₁ h₁ ⊢
  have hw₂ : (u.note (.connected u.facades.size)).Orderly := hw₁.same rfl rfl rfl rfl rfl
  have hj := (hf.enter_grows kind hw₂).1
  obtain ⟨hb₁, hs₁⟩ := h₁.balanced hb
    (Accounted.not_disturbed (fun _ he => hj (.tail _ he)) hd)
  -- The lock is free, or the call would have waited for itself.
  have hu : u.counting = false :=
    increase_idle (w := u.note (.connected u.facades.size))
      (Accounted.not_disturbed (fun _ => .tail _) hd)
  have hlt := fun f hm => hb₁.connected hu (f := f) hm
  have hdue : Event.Due u.journal (.connected u.facades.size) :=
    ⟨fun hm => Nat.lt_irrefl _ (hlt _ hm), fun kind hm => Nat.lt_irrefl _ (hb₁.books.known hm)⟩
  have told : ∀ f, .connected f ∈ (u.note (.connected u.facades.size)).journal →
      f < u.facades.size ∨ f = u.facades.size ∧ kind.usesService = true := by
    intro f hm
    rcases List.mem_cons.1 hm with hm | hm
    · cases hm; exact .inr ⟨rfl, hk⟩
    · exact .inl (hlt f hm)
  have he := hf.enter_entered kind hw₂
    (hb₁.books.mark rfl (by simp [Event.isLibrary]) hdue (by simp)) told
    (fun _ => List.mem_cons_self) hd
  have hs₂ : u.Steady (u.note (.connected u.facades.size)) :=
    ⟨CalmBut.note_of_isMark rfl (by simp), rfl, fun hu' => by cases hu'.symm.trans hu⟩
  exact ⟨he.balanced, hs₁.trans (hs₂.trans he.steady), hs₁.facades.trans he.fresh⟩

theorem makeFacade_grows (kind : FacadeKind) {w : World σ} (hw : w.Orderly) :
    w.journal ⊆ (host.makeFacade kind w).2.journal ∧
      (host.makeFacade kind w).2.table = w.table := by
  unfold Host.makeFacade
  split
  · obtain ⟨hj, ht⟩ := hf.announce_grows hw
    obtain ⟨hj₁, ht₁⟩ := hf.enter_grows kind (hf.tidy.announce hw rfl).orderly
    exact ⟨fun _ he => hj₁ (hj he), ht₁.trans ht⟩
  · exact hf.enter_grows kind hw

theorem makeFacade_entered (kind : FacadeKind) {w : World σ} (hw : w.Orderly)
    (hb : w.Balanced host.env) (hd : ¬(host.makeFacade kind w).2.Disturbed) :
    w.Entered host.env (host.makeFacade kind w).1 (host.makeFacade kind w).2 := by
  revert hd
  unfold Host.makeFacade
  by_cases hk : kind.usesService = true
  · rw [if_pos hk, bind_run]
    exact hf.announce_entered hw hb hk
  · rw [if_neg hk]
    intro hd
    have hu := increase_idle (Accounted.not_disturbed (fun _ => .tail _) hd)
    exact hf.enter_entered kind hw hb.books (fun f hm => .inl (hb.connected hu hm))
      (fun h => absurd h hk) hd

theorem makeFacade (kind : FacadeKind) :
    Act.Fair host.env [] (host.makeFacade kind) fun f => [.facade f] := by
  refine ⟨hf.tidy.makeFacade kind, fun w _ hw _ => ?_⟩
  obtain ⟨hj, ht⟩ := hf.makeFacade_grows kind hw
  refine ⟨⟨hj, fun hb hd => ?_⟩, ht⟩
  have he := hf.makeFacade_entered kind hw hb hd
  exact ⟨he.balanced, he.steady⟩

end Host.Fair

end ImageDispatch
