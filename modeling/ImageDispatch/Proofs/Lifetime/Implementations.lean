import ImageDispatch.Proofs.Lifetime.Creation
import ImageDispatch.Proofs.Lifetime.Release

/-!
# Triples of resolving

What a use of a cache does to the things that it holds, and how a façade gets the implementation
for a key.

* `Spares`, `PutsIn`: uses that keep what is in a cache, and uses that put an object in.
* `Tidy.resolve`, `Tidy.resolveContrast`: the running call holds the implementation it gets, so
  that the cache may lose it meanwhile. What leaves a cache is settled at once.
-/

namespace ImageDispatch

open Act World

variable {σ α : Type}

/-! ## Uses of the caches -/

/-- A use of a cache that keeps everything in it. -/
structure Spares (use : Cache Key ObjectId → α × Cache Key ObjectId) : Prop where
  keyed : ∀ {c}, c.Keyed → (use c).2.Keyed
  values : ∀ c, (use c).2.values = c.values

/-- A use of a cache that puts an object in, and answers with what had to leave. -/
structure PutsIn (o : ObjectId)
    (use : Cache Key ObjectId → Option (Key × ObjectId) × Cache Key ObjectId) : Prop where
  keyed : ∀ {c}, c.Keyed → (use c).2.Keyed
  values : ∀ {c}, c.Keyed → ∀ x,
    ((∃ p, (use c).1 = some p ∧ p.2 = x) ∨ x ∈ (use c).2.values) ↔ x = o ∨ x ∈ c.values

theorem spares_get (k : Key) : Spares fun c => c.get k :=
  ⟨fun h => h.get k, fun c => Cache.values_get c k⟩

theorem spares_begin (k : Key) : Spares fun c => c.begin k := by
  refine ⟨fun {c} h => ?_, fun c => ?_⟩ <;> obtain ⟨p, r, n, hb⟩ := c.begin_eq k
  · rw [hb]; exact (h.get k).guarded p r n
  · rw [hb, Cache.values_guarded, Cache.values_get]

theorem spares_fail (g : GuardId) : Spares fun c => ((), Cache.fail c g) := ⟨id, fun _ => rfl⟩

theorem putsIn_insert (k : Key) (o : ObjectId) : PutsIn o fun c => c.insert k o :=
  ⟨fun h => h.insert k o, fun h x => h.mem_values_insert k o x⟩

theorem putsIn_finish (k : Key) (g : GuardId) (o : ObjectId) :
    PutsIn o fun c => c.finish k g o := by
  refine ⟨fun {c} h => ?_, fun {c} h x => ?_⟩ <;> obtain ⟨p, n, hf⟩ := c.finish_eq k g o <;>
    rw [hf]
  · exact (h.insert k o).guarded p _ n
  · exact h.mem_values_insert k o x

/-- What a use of a cache does to the state, if the façade is there. -/
theorem useCache_run {w : World σ} {f : FacadeId} {op : Operation}
    (use : Cache Key ObjectId → α × Cache Key ObjectId) :
    useCache f op use w = match w.facade? f with
      | none => (none, w)
      | some facade => (some (use (facade.cache op)).1, { w with
          facades := w.facades.modify f (Option.map fun facade' =>
            facade'.withCache op (use (facade.cache op)).2) }) := by
  show (match w.facade? f with
    | none => pure none
    | some facade => _ : Act σ (Option α)) w = _
  cases w.facade? f <;> rfl

theorem Facade.mem_objects_withCache {facade : Facade} {op : Operation}
    {c : Cache Key ObjectId} {o : ObjectId} :
    o ∈ (facade.withCache op c).objects ↔
      o ∈ c.values ∨ ∃ op', op' ≠ op ∧ o ∈ (facade.cache op').values := by
  rw [mem_objects]
  constructor
  · rintro ⟨op', ho⟩
    by_cases he : op' = op
    · subst he; exact .inl (by simpa using ho)
    · exact .inr ⟨op', he, by rwa [cache_withCache_ne _ _ he] at ho⟩
  · rintro (ho | ⟨op', he, ho⟩)
    · exact ⟨op, by simpa using ho⟩
    · exact ⟨op', by rwa [cache_withCache_ne _ _ he]⟩

theorem Facade.Keyed.withCache {facade : Facade} (h : facade.Keyed) {op : Operation}
    {c : Cache Key ObjectId} (hc : c.Keyed) : (facade.withCache op c).Keyed := by
  intro op'
  by_cases he : op' = op
  · subst he; simpa using hc
  · rw [cache_withCache_ne _ _ he]; exact h op'

/-- A use that puts in what lives, and of which only `y` may leave. -/
theorem useCache_orderlyBut {w : World σ} (h : w.Orderly) {f : FacadeId} {op : Operation}
    {use : Cache Key ObjectId → α × Cache Key ObjectId} {y : Option Ref}
    (hk : ∀ {c}, c.Keyed → (use c).2.Keyed)
    (hnew : ∀ facade, w.facade? f = some facade → ∀ o ∈ (use (facade.cache op)).2.values,
      o ∈ (facade.cache op).values ∨ w.stage? o = some .live)
    (hkeep : ∀ facade, w.facade? f = some facade → ∀ o ∈ (facade.cache op).values,
      y ≠ some (.object o) → o ∈ (use (facade.cache op)).2.values) :
    (useCache f op use w).2.OrderlyBut y := by
  rw [useCache_run]
  cases hf : w.facade? f with
  | none => exact h.but y
  | some facade =>
    have live : ∀ o ∈ facade.objects, w.stage? o = some .live := fun o ho =>
      h.live_of_kept (refersTo_iff.2 (.inr (.inr ⟨f, facade, hf, ho⟩)))
    refine h.change (.inl rfl) ?_ ?_ ?_ <;> rintro facade' hf' <;> cases hf.symm.trans hf'
    · exact (h.keyed hf).withCache (hk (h.keyed hf op))
    · intro o ho
      rcases Facade.mem_objects_withCache.1 ho with ho | ⟨op', -, ho⟩
      · rcases hnew facade hf o ho with ho | ho
        · exact live o (Facade.mem_objects.2 ⟨op, ho⟩)
        · exact ho
      · exact live o (Facade.mem_objects.2 ⟨op', ho⟩)
    · intro o ho hy
      obtain ⟨op', ho⟩ := Facade.mem_objects.1 ho
      by_cases he : op' = op
      · subst he; exact Facade.mem_objects_withCache.2 (.inl (hkeep facade hf o ho hy))
      · exact Facade.mem_objects_withCache.2 (.inr ⟨op', he, ho⟩)

/-- A use moves no object, and no running call. -/
theorem useCache_evolves {w : World σ} (f : FacadeId) (op : Operation)
    (use : Cache Key ObjectId → α × Cache Key ObjectId) :
    w.Evolves (useCache f op use w).2 ∧ (useCache f op use w).2.pins = w.pins ∧
      ∀ o, (useCache f op use w).2.stage? o = w.stage? o := by
  rw [useCache_run]
  cases w.facade? f with
  | none => exact ⟨.refl w, rfl, fun _ => rfl⟩
  | some facade => exact ⟨.of_eq (fun _ => rfl) fun _ => rfl, rfl, fun _ => rfl⟩

/-- A use that puts in what lives, and of which only what had to leave may be without a holder. -/
theorem PutsIn.orderlyBut {o : ObjectId}
    {use : Cache Key ObjectId → Option (Key × ObjectId) × Cache Key ObjectId} (h : PutsIn o use)
    {w : World σ} (hw : w.Orderly) (hlive : w.stage? o = some .live) (f : FacadeId)
    (op : Operation) : (useCache f op use w).2.OrderlyBut
      ((useCache f op use w).1.join.map fun p => .object p.2) := by
  refine useCache_orderlyBut hw h.keyed ?_ ?_ <;> intro facade hf x hx <;>
    have hmem := h.values (hw.keyed hf op) x
  · rcases hmem.1 (.inr hx) with rfl | hx
    · exact .inr hlive
    · exact .inl hx
  · rw [useCache_run, hf]
    rintro hy
    refine (hmem.2 (.inr hx)).resolve_left ?_
    rintro ⟨p, hp, rfl⟩
    exact hy (by simp [hp])

/-- A use that keeps everything in the cache is of no interest to holders. -/
theorem Spares.triple {use : Cache Key ObjectId → α × Cache Key ObjectId} (h : Spares use)
    (ps : List Ref) (f : FacadeId) (op : Operation) :
    Triple ps (useCache f op use : Act σ (Option α)) fun _ => ps := by
  intro w qs hw hp
  obtain ⟨he, hpins, -⟩ := useCache_evolves (w := w) f op use
  exact ⟨useCache_orderlyBut hw h.keyed (fun _ _ o ho => .inl (by rwa [h.values] at ho))
    fun _ _ o ho _ => by rwa [h.values], hpins.trans hp, he⟩

/-- A value that a use answers with lives, if it comes from the cache. -/
theorem useCache_live {w : World σ} (h : w.Orderly) {f : FacadeId} {op : Operation}
    {use : Cache Key ObjectId → α × Cache Key ObjectId} {x : α} {o : ObjectId}
    (hx : (useCache f op use w).1 = some x)
    (ho : ∀ c, (use c).1 = x → o ∈ c.values) :
    (useCache f op use w).2.stage? o = some .live := by
  rw [(useCache_evolves f op use).2.2]
  rw [useCache_run] at hx
  cases hf : w.facade? f with
  | none => rw [hf] at hx; cases hx
  | some facade =>
    rw [hf] at hx
    exact h.live_of_kept (refersTo_iff.2 (.inr (.inr ⟨f, facade, hf,
      Facade.mem_objects.2 ⟨op, ho _ (Option.some.inj hx)⟩⟩)))

/-- A running call takes hold of an object that lives. -/
theorem pin_reaches {v w : World σ} {o : ObjectId} {ps : List Ref} (h : v.Reaches ps w)
    (ho : w.stage? o = some .live) :
    v.Reaches (.object o :: ps) (pin (.object o) w).2 :=
  h.trans ⟨h.orderly.pin fun _ e => by cases e; exact ho, congrArg _ h.pins_eq,
    .of_eq (fun _ => rfl) fun _ => rfl⟩

theorem modifyBreaker_triple (ps : List Ref) (f : FacadeId) (change : Breaker → Breaker) :
    Triple ps (Host.modifyBreaker f change : Act σ Unit) fun _ => ps := by
  intro w qs hw hp
  exact ⟨hw.change_of_eq (fun _ h => h) fun _ _ => .rfl, hp, .of_eq (fun _ => rfl) fun _ => rfl⟩

namespace Host.Tidy

variable {host : Host σ} (ht : host.Tidy)

include ht

/-! ## Implementations -/

theorem letDisplacedGo (family : String) (k : Key) {displaced : Option (Key × ObjectId)}
    {w : World σ} (h : w.OrderlyBut (displaced.map fun p => .object p.2)) :
    w.Reaches w.pins (host.letDisplacedGo family k displaced w).2 := by
  cases displaced with
  | none => exact ⟨h, rfl, .refl w⟩
  | some p =>
    obtain ⟨k', o⟩ := p
    unfold Host.letDisplacedGo
    cases Cache.evicted? k (some (k', o)) with
    | none => exact ht.settleObject o h
    | some k' =>
      refine Settles.after ?_ (fun _ => ht.settleObject o) h
      exact fun w => unmoved_note w fun _ => rfl

/-- The object that the running call holds is put into a cache, and what has to leave is
settled. -/
theorem putIn {o : ObjectId}
    {use : Cache Key ObjectId → Option (Key × ObjectId) × Cache Key ObjectId} (h : PutsIn o use)
    (f : FacadeId) (op : Operation) (family : String) (k : Key) :
    Triple [.object o] (do
      let displaced ← useCache f op use
      host.letDisplacedGo family k displaced.join) fun _ => [.object o] := by
  intro w ps hw hp
  obtain ⟨he, hpins, -⟩ := useCache_evolves (w := w) f op use
  have hlive : w.stage? o = some .live :=
    hw.live_of_kept (refersTo_iff.2 (.inr (.inl (by simp [hp]))))
  rw [bind_run]
  obtain ⟨h₁, h₂, h₃⟩ := ht.letDisplacedGo family k (h.orderlyBut hw hlive f op)
  exact ⟨h₁, h₂.trans (hpins.trans hp), he.trans h₃⟩

theorem createGuarded (f : FacadeId) (kind : FacadeKind) (op : Operation) (q : Query)
    (g : GuardId) : Triple [] (host.createGuarded f kind op q g) gained := by
  refine (ht.create q).bind fun r => ?_
  cases r with
  | error e => exact (((spares_fail g).triple [] f op).map).bind fun _ => .ret_of gained rfl
  | ok o =>
    exact (emit_triple _ fun _ => rfl).bind fun _ =>
      (ht.putIn (putsIn_finish q.key g o) f op _ _).bind fun _ => .ret_of gained rfl

theorem resolve (f : FacadeId) (kind : FacadeKind) (op : Operation) (q : Query)
    (announcement : Option String) :
    Triple [] (host.resolve f kind op q announcement) gained := by
  refine (emit_triple [] fun _ => rfl).bind fun _ => ?_
  intro w ps hw hp
  have h := (spares_begin q.key).triple [] f op hw hp
  rw [bind_run]
  generalize hx : (useCache f op (fun c => c.begin q.key) w).1 = x
  rcases x with _ | o | g | _
  · exact (Triple.ret_of gained rfl).follow h
  · have hlive := useCache_live hw hx fun c => Cache.mem_values_of_begin
    exact ((count_triple [.object o] _).bind fun _ => .ret_of gained rfl).follow
      (pin_reaches h hlive)
  · refine Triple.follow ?_ h
    refine (count_triple [] _).bind fun _ => ?_
    have create := ht.createGuarded f kind op q g
    cases announcement with
    | none => exact create
    | some text => exact (log_triple [] _ _).bind fun _ => create
  · exact ((count_triple [] _).bind fun _ => (emit_triple [] fun _ => rfl).bind fun _ =>
      .ret_of gained rfl).follow h

/-! ## Contrast enhancers -/

theorem attemptContrast (f : FacadeId) (algorithm : ContrastKind) :
    Triple [] (host.attemptContrast f algorithm) gained := by
  refine (ht.create (.contrast algorithm)).bind fun r => ?_
  cases r with
  | ok o =>
    exact (emit_triple _ fun _ => rfl).bind fun _ => (modifyBreaker_triple _ f _).bind fun _ =>
      (ht.putIn (putsIn_insert (Query.contrast algorithm).key o) f .main _ _).bind fun _ =>
        .ret_of gained rfl
  | error e =>
    refine (emit_triple [] fun _ => rfl).bind fun _ => ?_
    refine (modifyBreaker_triple [] f _).bind fun _ => .read fun w => ?_
    exact ((host.reportFailure_plain _ _ _ _).triple ht []).bind fun _ => .ret_of gained rfl

omit ht in
theorem cachedContrast (f : FacadeId) (algorithm : ContrastKind)
    {otherwise : Act σ (Except Error ObjectId)} (h : Triple [] otherwise gained) :
    Triple [] (Host.cachedContrast f algorithm otherwise) gained := by
  intro w ps hw hp
  have hget := (spares_get (.contrast algorithm)).triple [] f .main hw hp
  unfold Host.cachedContrast
  rw [bind_run]
  generalize hx : (useCache f .main (fun c => c.get (.contrast algorithm)) w).1 = x
  rcases x with _ | _ | o
  · exact h.follow hget
  · exact h.follow hget
  · have hlive := useCache_live hw hx fun c => Cache.mem_values_of_get
    exact (Triple.ret_of gained rfl).follow (pin_reaches hget hlive)

theorem createContrast (f : FacadeId) (algorithm : ContrastKind) :
    Triple [] (host.createContrast f algorithm) gained := by
  refine .read fun w => ?_
  split
  · exact .ret_of gained rfl
  · split
    · exact .ret_of gained rfl
    · split
      · exact (log_triple [] _ _).bind fun _ => .ret_of gained rfl
      · refine (modifyBreaker_triple [] f _).bind fun _ =>
          (cachedContrast f algorithm (ht.attemptContrast f _)).bind fun r => ?_
        exact (modifyBreaker_triple _ f _).bind fun _ => .ret_of gained rfl

theorem resolveContrast (f : FacadeId) (algorithm : ContrastKind) :
    Triple [] (host.resolveContrast f algorithm) gained :=
  (emit_triple [] fun _ => rfl).bind fun _ =>
    cachedContrast f algorithm (ht.createContrast f algorithm)

end Host.Tidy

end ImageDispatch
