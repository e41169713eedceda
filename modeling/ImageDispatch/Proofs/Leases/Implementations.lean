import ImageDispatch.Proofs.Leases.Facades
import ImageDispatch.Proofs.Lifetime.Implementations

/-!
# Implementations in the books

A façade asks for an implementation only while it is there (`Host.Fair.resolve`). One that is
created for it is new, and is noted before it goes into a cache (`Host.Fair.createGuarded`), so the
implementations in the caches of a façade are its own.
-/

namespace ImageDispatch

open Act World

variable {σ α : Type} {env : Environment σ}

/-! ## Changes of façades -/

theorem World.handled_change {w : World σ} {f : FacadeId} {change : Facade → Facade}
    (hk : ∀ facade, w.facade? f = some facade → (change facade).kind = facade.kind)
    (ho : w.Balanced env → ∀ facade, w.facade? f = some facade → ∀ o ∈ (change facade).objects,
      o ∈ facade.objects ∨ .adopted f o ∈ w.journal) :
    w.Handled env { w with facades := w.facades.modify f (Option.map change) } := by
  have hsize : (w.facades.modify f (Option.map change)).size = w.facades.size :=
    Array.size_modify
  refine ⟨⟨fun _ => id, fun h _ => ⟨⟨h.books.change hk (ho h), ?_⟩, .change w f change⟩⟩, rfl⟩
  exact fun hc g hm => (h.connected hc hm).trans_eq hsize.symm

/-- A use of a cache that puts in only what the façade has created. -/
theorem useCache_handled {w : World σ} {f : FacadeId} {op : Operation}
    {use : Cache Key ObjectId → α × Cache Key ObjectId}
    (h : w.Balanced env → ∀ facade, w.facade? f = some facade →
      ∀ o ∈ (use (facade.cache op)).2.values,
        o ∈ (facade.cache op).values ∨ .adopted f o ∈ w.journal) :
    w.Handled env (useCache f op use w).2 := by
  rw [useCache_run]
  cases hf : w.facade? f with
  | none => exact .refl w
  | some facade =>
    refine handled_change (fun _ _ => Facade.kind_withCache _ _ _) fun hb facade' hf' o ho => ?_
    cases hf.symm.trans hf'
    rcases Facade.mem_objects_withCache.1 ho with ho | ⟨op', -, ho⟩
    · exact (h hb facade hf o ho).imp_left fun ho => Facade.mem_objects.2 ⟨op, ho⟩
    · exact .inl (Facade.mem_objects.2 ⟨op', ho⟩)

theorem Spares.fair {use : Cache Key ObjectId → α × Cache Key ObjectId} (h : Spares use)
    (ps : List Ref) (f : FacadeId) (op : Operation) :
    Fair env ps (useCache f op use : Act σ (Option α)) fun _ => ps :=
  ⟨h.triple ps f op, fun _ _ _ _ =>
    useCache_handled fun _ _ _ _ ho => .inl (by rwa [h.values] at ho)⟩

theorem modifyBreaker_fair (ps : List Ref) (f : FacadeId) (change : Breaker → Breaker) :
    Fair env ps (Host.modifyBreaker f change : Act σ Unit) fun _ => ps :=
  ⟨modifyBreaker_triple ps f change, fun _ _ _ _ =>
    handled_change (fun _ _ => rfl) fun _ _ _ _ ho => .inl ho⟩

/-! ## Holds -/

/-- A running call takes hold of an object. If a façade has created it, that façade is busy. -/
theorem World.Handled.pin_object {v w : World σ} {o : ObjectId} (h : v.Handled env w)
    (hb : v.Balanced env → ¬w.Disturbed → ∀ f, .adopted f o ∈ w.journal → w.Busy f) :
    v.Handled env (pin (.object o) w).2 := by
  refine ⟨⟨h.journal, fun hv hd => ?_⟩, h.table⟩
  obtain ⟨hbal, hs⟩ := h.balanced hv hd
  exact ⟨⟨hbal.books.pin_object (hb hv hd), hbal.connected⟩,
    hs.trans (.of_eq rfl rfl rfl rfl (Nat.le_refl _))⟩

namespace Host.Fair

variable {host : Host σ} (hf : host.Fair)

include hf

/-! ## Creations of façades -/

omit hf in
/-- A façade that the running call holds takes a new object into its implementations. -/
theorem adopt_handled {v w : World σ} {f : FacadeId} {o : ObjectId} {ps : List Ref}
    (h : v.Handled host.env w) (hw : w.Orderly) (hp : w.pins = .object o :: .facade f :: ps)
    (hv : v.Balanced host.env → v.facade? f ≠ none)
    (hn : v.Balanced host.env → ¬w.Disturbed → v.Newborn w o) :
    v.Handled host.env (w.note (.adopted f o)) := by
  refine ⟨⟨fun _ he => .tail _ (h.journal he), fun hb hd => ?_⟩, h.table⟩
  have hd := Accounted.not_disturbed (w := w) (fun _ => .tail _) hd
  obtain ⟨hbal, hs⟩ := h.balanced hb hd
  have hn := hn hb hd
  have hpin : .facade f ∈ w.pins := by rw [hp]; exact .tail _ List.mem_cons_self
  have hlive := hw.live_of_kept (refersTo_iff.2 (.inr (.inl (hp ▸ List.mem_cons_self))))
  obtain ⟨facade, hfacade⟩ := hbal.books.kept_of_mem_pins hpin
  have old : ∀ {g o'}, .adopted g o' ∈ Event.adopted f o :: w.journal →
      (g = f ∧ o' = o) ∨ .adopted g o' ∈ w.journal := by
    intro g o' hm
    rcases List.mem_cons.1 hm with he | hm
    · cases he; exact .inl ⟨rfl, rfl⟩
    · exact .inr hm
  refine ⟨⟨hbal.books.adopt (hbal.books.standing hfacade) hpin hlive hn.adopted hn.held hn.cached,
    fun hc g hm => hbal.connected hc ((List.mem_cons.1 hm).resolve_left (by simp))⟩,
    ⟨fun _ he => .tail _ (hs.journal he), hs.objects, hs.facades, fun {g} hx hlt hg => ?_,
      fun hx hlt hg => (hs.left hx hlt hg).imp_right (.tail _), fun {g o'} hm => ?_⟩,
    hs.counting, fun hc => ?_⟩
  · have hgone := hs.gone hx hlt hg
    refine ⟨hgone.facade,
      fun hm => hgone.disconnected ((List.mem_cons.1 hm).resolve_left (by simp)),
      fun hm => hgone.dissolved ((List.mem_cons.1 hm).resolve_left (by simp)), fun hm => ?_⟩
    rcases old hm with ⟨rfl, -⟩ | hm
    · exact absurd hg (hv hb)
    · exact hgone.adopted hm
  · rcases old hm with ⟨-, rfl⟩ | hm
    · exact .inr hn.size
    · exact hs.adopted hm
  · exact (hs.frozen hc).trans (.note rfl (by simp))

/-- What had to leave a cache is let go. If a façade has created it, that façade is busy. -/
theorem letDisplacedGo {v w : World σ} (family : String) (k : Key)
    {displaced : Option (Key × ObjectId)} (h : v.Handled host.env w)
    (hw : w.OrderlyBut (displaced.map fun p => .object p.2))
    (hb : v.Balanced host.env → ¬w.Disturbed → ∀ p, displaced = some p →
      ∀ f, .adopted f p.2 ∈ w.journal → w.Busy f) :
    v.Handled host.env (host.letDisplacedGo family k displaced w).2 := by
  cases displaced with
  | none => exact h
  | some p =>
    obtain ⟨k', o⟩ := p
    have hb := fun hv hd => hb hv hd _ rfl
    unfold Host.letDisplacedGo
    cases Cache.evicted? k (some (k', o)) with
    | none => exact hf.settleObject h hw hb
    | some k' =>
      have h₁ := fun e (he : Event.isQuiet e = true) => h.trans (handled_note w he)
      refine hf.settleObject (h₁ _ rfl) (hw.same rfl rfl rfl rfl rfl) fun hv hd f ha => ?_
      exact hb hv (Accounted.not_disturbed (fun _ => .tail _) hd) f
        ((List.mem_cons.1 ha).resolve_left (by simp))

/-- A façade that the running call holds puts in what it has created, and lets what has to leave
go. -/
theorem putIn {v w : World σ} {o : ObjectId} {ps : List Ref}
    {use : Cache Key ObjectId → Option (Key × ObjectId) × Cache Key ObjectId} (hu : PutsIn o use)
    {f : FacadeId} (op : Operation) (family : String) (k : Key) (h : v.Handled host.env w)
    (hw : w.Orderly) (hp : w.pins = .object o :: .facade f :: ps)
    (ha : .adopted f o ∈ w.journal) :
    v.Handled host.env ((do
      let displaced ← useCache f op use
      host.letDisplacedGo family k displaced.join) w).2 := by
  have hpin : .facade f ∈ w.pins := by rw [hp]; exact .tail _ List.mem_cons_self
  have hlive := hw.live_of_kept (refersTo_iff.2 (.inr (.inl (hp ▸ List.mem_cons_self))))
  have hmem : ∀ facade, w.facade? f = some facade → ∀ x,
      ((∃ p, (use (facade.cache op)).1 = some p ∧ p.2 = x) ∨
        x ∈ (use (facade.cache op)).2.values) ↔ x = o ∨ x ∈ (facade.cache op).values :=
    fun facade hfacade => hu.values (hw.keyed hfacade op)
  have h₁ : w.Handled host.env (useCache f op use w).2 :=
    useCache_handled fun _ facade hfacade x hx =>
      ((hmem facade hfacade x).1 (.inr hx)).symm.imp_right (by rintro rfl; exact ha)
  obtain ⟨hj, hpins⟩ : (useCache f op use w).2.journal = w.journal ∧
      (useCache f op use w).2.pins = w.pins := by
    rw [useCache_run]
    cases w.facade? f <;> exact ⟨rfl, rfl⟩
  rw [bind_run]
  refine hf.letDisplacedGo family k (h.trans h₁) (hu.orderlyBut hw hlive f op)
    fun hv hd p hdisplaced g hg => .inl ?_
  rw [hj] at hg
  obtain ⟨hbal, -⟩ := h.balanced hv fun hd' => hd (by rwa [Disturbed, hj])
  -- What had to leave was in a cache of the façade, or is what was put in.
  have hgf : f = g := by
    rw [useCache_run] at hdisplaced
    cases hfacade : w.facade? f with
    | none => rw [hfacade] at hdisplaced; cases hdisplaced
    | some facade =>
      rw [hfacade] at hdisplaced
      rcases (hmem facade hfacade p.2).1 (.inl ⟨p, hdisplaced, rfl⟩) with hx | hx
      · exact hbal.books.regular.adopted_inj (hx ▸ ha) hg
      · exact hbal.books.cached hg hfacade (Facade.mem_objects.2 ⟨op, hx⟩)
  rw [← hgf, hpins]
  exact hpin

omit hf in
/-- A façade that a running call holds is there. -/
theorem there_of_pinned {w : World σ} {f : FacadeId} {ps : List Ref}
    (hp : w.pins = .facade f :: ps) (hb : w.Balanced host.env) : w.facade? f ≠ none :=
  hb.books.kept (refersTo_iff.2 (.inr (.inl (hp ▸ List.mem_cons_self))))

theorem createGuarded (f : FacadeId) (kind : FacadeKind) (op : Operation) (q : Query)
    (g : GuardId) : Act.Fair host.env [.facade f] (host.createGuarded f kind op q g)
      fun r => gained r ++ [.facade f] := by
  refine ⟨(hf.tidy.createGuarded f kind op q g).frame [.facade f], fun w ps hw hp => ?_⟩
  obtain ⟨hc, hn⟩ := hf.create_newborn q hw
  have hr := (hf.tidy.create q).frame [.facade f] hw hp
  unfold Host.createGuarded
  rw [bind_run]
  generalize host.create q w = x at hc hn hr ⊢
  obtain ⟨r, u⟩ := x
  cases r with
  | error e =>
    have h₁ : u.Handled host.env (useCache f op (fun c => ((), c.fail g)) u).2 :=
      useCache_handled fun _ _ _ _ ho => .inl ho
    exact hc.trans h₁
  | ok o =>
    have h₁ := adopt_handled hc hr.orderly hr.pins_eq (there_of_pinned hp) fun hb hd =>
      hn hb hd o rfl
    exact hf.putIn (putsIn_finish q.key g o) op kind.family q.key h₁
      (hr.orderly.same rfl rfl rfl rfl rfl) hr.pins_eq List.mem_cons_self

/-! ## Resolving -/

omit hf in
/-- A façade that the running call holds asks for an implementation. -/
theorem sought_handled {w : World σ} {f : FacadeId} {ps : List Ref}
    (hp : w.pins = .facade f :: ps) : w.Handled host.env (w.note (.sought f)) := by
  refine ⟨⟨fun _ => .tail _, fun hb _ => ?_⟩, rfl⟩
  obtain ⟨facade, hfacade⟩ := Option.ne_none_iff_exists'.1 (there_of_pinned hp hb)
  have hs := hb.books.standing hfacade
  exact ⟨hb.mark rfl rfl (by simp) ⟨_, hs⟩ (by simp),
    .note (CalmBut.note_of_isMark rfl (by simp)) rfl (by simp)⟩

omit hf in
/-- A running call takes hold of an implementation from a cache of a façade that it holds. -/
theorem pin_cached_handled {v w : World σ} {f : FacadeId} {op : Operation} {x : α} {o : ObjectId}
    {use : Cache Key ObjectId → α × Cache Key ObjectId} (hu : Spares use)
    (h : v.Handled host.env w) (hpin : .facade f ∈ w.pins)
    (hx : (useCache f op use w).1 = some x) (ho : ∀ c, (use c).1 = x → o ∈ c.values) :
    v.Handled host.env (pin (.object o) (useCache f op use w).2).2 := by
  have h₁ : w.Handled host.env (useCache f op use w).2 :=
    useCache_handled fun _ _ _ _ ho => .inl (by rwa [hu.values] at ho)
  refine (h.trans h₁).pin_object fun hb hd g hg => .inl ?_
  rw [useCache_run] at hx hd hg ⊢
  cases hfacade : w.facade? f with
  | none => rw [hfacade] at hx; cases hx
  | some facade =>
    rw [hfacade] at hx hd hg
    obtain ⟨hbal, -⟩ := h.balanced hb hd
    have hm : o ∈ facade.objects :=
      Facade.mem_objects.2 ⟨op, ho _ (Option.some.inj hx)⟩
    rw [← hbal.books.cached hg hfacade hm]
    exact hpin

theorem resolve (f : FacadeId) (kind : FacadeKind) (op : Operation) (q : Query)
    (announcement : Option String) :
    Act.Fair host.env [.facade f] (host.resolve f kind op q announcement)
      fun r => gained r ++ [.facade f] := by
  refine ⟨(hf.tidy.resolve f kind op q announcement).frame [.facade f], fun w ps hw hp => ?_⟩
  have h₁ : w.Handled host.env (emit (.sought f) w).2 := sought_handled hp
  have hw₁ : w.Reaches (.facade f :: ps) (emit (.sought f) w).2 :=
    ⟨hw.same rfl rfl rfl rfl rfl, hp, (unmoved_note w fun _ => rfl).evolves⟩
  unfold Host.resolve
  rw [bind_run]
  generalize (emit (.sought f) w).2 = v at h₁ hw₁
  have hs := spares_begin q.key
  have hr := (hs.triple [.facade f] f op).follow hw₁
  have h₂ := (hs.fair [.facade f] f op).follow hw₁ h₁
  rw [bind_run]
  generalize hx : (useCache f op (fun c => c.begin q.key) v).1 = x
  rcases x with _ | o | g | _
  · exact h₂
  · exact (pin_cached_handled hs h₁ (hw₁.pins_eq ▸ List.mem_cons_self) hx
      fun c => Cache.mem_values_of_begin).trans (handled_note _ rfl)
  · have create := hf.createGuarded f kind op q g
    cases announcement with
    | none => exact ((count_fair [.facade f] _).bind fun _ => create).follow hr h₂
    | some text =>
      exact ((count_fair [.facade f] _).bind fun _ => (log_fair [.facade f] _ _).bind fun _ =>
        create).follow hr h₂
  · exact (h₂.trans (handled_note _ rfl)).trans (handled_note _ rfl)

/-! ## Contrast enhancers -/

theorem attemptContrast (f : FacadeId) (algorithm : ContrastKind) :
    Act.Fair host.env [.facade f] (host.attemptContrast f algorithm)
      fun r => gained r ++ [.facade f] := by
  refine ⟨(hf.tidy.attemptContrast f algorithm).frame [.facade f], fun w ps hw hp => ?_⟩
  obtain ⟨hc, hn⟩ := hf.create_newborn (.contrast algorithm) hw
  have hr := (hf.tidy.create (.contrast algorithm)).frame [.facade f] hw hp
  unfold Host.attemptContrast
  rw [bind_run]
  generalize host.create (.contrast algorithm) w = x at hc hn hr ⊢
  obtain ⟨r, u⟩ := x
  cases r with
  | ok o =>
    have h₁ := adopt_handled hc hr.orderly hr.pins_eq (there_of_pinned hp) fun hb hd =>
      hn hb hd o rfl
    have hr₁ : w.Reaches ([.object o, .facade f] ++ ps) (u.note (.adopted f o)) :=
      hr.trans ⟨hr.orderly.same rfl rfl rfl rfl rfl, hr.pins_eq,
        (unmoved_note u fun _ => rfl).evolves⟩
    have hm : Act.Fair host.env _ (modifyBreaker f Breaker.succeed) _ :=
      modifyBreaker_fair [.object o, .facade f] f Breaker.succeed
    exact hf.putIn (putsIn_insert (Query.contrast algorithm).key o) .main _ _
      (hm.follow hr₁ h₁) (hm.triple.follow hr₁).orderly (hm.triple.follow hr₁).pins_eq
      List.mem_cons_self
  | error e =>
    have failed : Act.Fair host.env [.facade f] (emit (.failed f)) fun _ => [.facade f] :=
      emit_fair [.facade f] (fun _ => rfl) rfl
    exact (failed.bind fun _ => (modifyBreaker_fair [.facade f] f _).bind fun _ => .read fun _ =>
      (hf.plain (host.reportFailure_plain _ _ _ _) [.facade f]).bind fun _ =>
        .ret _).follow hr hc

omit hf in
theorem cachedContrast (f : FacadeId) (algorithm : ContrastKind)
    {otherwise : Act σ (Except Error ObjectId)}
    (h : Act.Fair host.env [.facade f] otherwise fun r => gained r ++ [.facade f])
    (ht : Triple [] otherwise gained) :
    Act.Fair host.env [.facade f] (Host.cachedContrast f algorithm otherwise)
      fun r => gained r ++ [.facade f] := by
  have hs := spares_get (.contrast algorithm)
  refine ⟨(Host.Tidy.cachedContrast f algorithm ht).frame [.facade f], fun w ps hw hp => ?_⟩
  have hr := hs.triple [.facade f] f .main hw hp
  have hc : w.Handled host.env _ := (hs.fair [.facade f] f .main).handled hw hp
  unfold Host.cachedContrast
  rw [bind_run]
  generalize hx : (useCache f .main (fun c => c.get (.contrast algorithm)) w).1 = x
  rcases x with _ | _ | o
  · exact h.follow hr hc
  · exact h.follow hr hc
  · exact pin_cached_handled hs (.refl w) (hp ▸ List.mem_cons_self) hx
      fun c => Cache.mem_values_of_get

theorem createContrast (f : FacadeId) (algorithm : ContrastKind) :
    Act.Fair host.env [.facade f] (host.createContrast f algorithm)
      fun r => gained r ++ [.facade f] := by
  have gives : ∀ e : Error, Act.Fair host.env [.facade f]
      (pure (.error e) : Act σ (Except Error ObjectId)) fun r => gained r ++ [.facade f] :=
    fun e => .ret_of _ (by rfl)
  refine .read fun w => ?_
  split
  · exact gives _
  · split
    · exact gives _
    · split
      · exact (log_fair [.facade f] _ _).bind fun _ => gives _
      · refine (modifyBreaker_fair [.facade f] f _).bind fun _ =>
          (cachedContrast f algorithm (hf.attemptContrast f _)
            (hf.tidy.attemptContrast f _)).bind fun r => ?_
        exact (modifyBreaker_fair _ f _).bind fun _ =>
          .ret_of (fun r => gained r ++ [.facade f]) rfl

theorem resolveContrast (f : FacadeId) (algorithm : ContrastKind) :
    Act.Fair host.env [.facade f] (host.resolveContrast f algorithm)
      fun r => gained r ++ [.facade f] := by
  refine ⟨(hf.tidy.resolveContrast f algorithm).frame [.facade f], fun w ps hw hp => ?_⟩
  have h₁ : w.Handled host.env (emit (.sought f) w).2 := sought_handled hp
  have hw₁ : w.Reaches (.facade f :: ps) (emit (.sought f) w).2 :=
    ⟨hw.same rfl rfl rfl rfl rfl, hp, (unmoved_note w fun _ => rfl).evolves⟩
  exact (cachedContrast f algorithm (hf.createContrast f algorithm)
    (hf.tidy.createContrast f algorithm)).follow hw₁ h₁

end Host.Fair

end ImageDispatch
