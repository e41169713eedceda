import ImageDispatch.Proofs.Attempts.Causes

/-!
# The failures of a contrast enhancer

A contrast enhancer counts the creations that have failed since the last one that succeeded. It
attempts one creation at a time, and none any more after too many failures. While it creates, code
of others may come back with requests for the same façade.

* `outcomes`: how the creations of a façade have ended. `streak`: the failures since the last
  success.
* `World.Apart`: on the way from one world to the other nothing has to do with the creations of the
  façade.
* `World.Tallied`: what a contrast enhancer counts is this streak, and no creation has ended after
  too many failures.
* `World.Heeds`: a step after which a contrast enhancer still counts right. It leaves one alone that
  has given creation up, or is creating already.
* `Host.Relays`: on the way from one world to the other only requests of code of others have to do
  with the creations of the façade.
* `Host.Attempted`: a whole creation.
* `Host.Making.process_heeds`: whatever a façade is given to do is such a step, if the answers to
  requests of code of others are. So they are to any depth (`Host.nested_heeding`).
-/

namespace ImageDispatch

open Act World

variable {σ : Type}

/-! ## The record of creations -/

/-- How a creation of the façade has ended, if the event is about that. -/
def Event.outcome? (f : FacadeId) : Event → Option Bool
  | .adopted g _ => if g = f then some true else none
  | .failed g => if g = f then some false else none
  | _ => none

/-- How the creations of a façade have ended, the last one first. -/
def outcomes (f : FacadeId) (journal : List Event) : List Bool :=
  journal.filterMap (Event.outcome? f)

/-- How many creations have failed since the last success. -/
def streak (ended : List Bool) : Nat := (ended.takeWhile (!·)).length

@[simp] theorem streak_nil : streak [] = 0 := rfl

@[simp] theorem streak_success (ended : List Bool) : streak (true :: ended) = 0 := rfl

@[simp] theorem streak_failure (ended : List Bool) :
    streak (false :: ended) = streak ended + 1 := by simp [streak]

theorem outcomes_cons (f : FacadeId) (e : Event) (journal : List Event) :
    outcomes f (e :: journal) = (e.outcome? f).toList ++ outcomes f journal := by
  unfold outcomes
  rw [List.filterMap_cons]
  cases e.outcome? f <;> rfl

/-- No more can be attempted: creation has been given up, or is under way. -/
def Breaker.Locked (threshold : UInt32) (b : Breaker) : Prop :=
  b.isDisabled threshold = true ∨ b.creating = true

/-- The state after a creation has succeeded or failed. -/
def Breaker.conclude (b : Breaker) (ok : Bool) : Breaker := if ok then b.succeed else b.fail

/-- Each creation has ended while there were not too many failures. -/
def Paced (threshold : UInt32) (ended : List Bool) : Prop :=
  ∀ later last earlier, ended = later ++ last :: earlier → streak earlier ≤ threshold.toNat

theorem paced_nil (threshold : UInt32) : Paced threshold [] := by
  intro later last earlier h
  simp at h

theorem Paced.cons {threshold : UInt32} {ended : List Bool} (h : Paced threshold ended)
    (hs : streak ended ≤ threshold.toNat) (last : Bool) : Paced threshold (last :: ended) := by
  intro later b earlier he
  cases later with
  | nil =>
    obtain ⟨-, rfl⟩ := List.cons.inj he
    exact hs
  | cons _ later => exact h later b earlier (List.cons.inj he).2

/-- The failures are at most one too many. -/
theorem Paced.streak_le {threshold : UInt32} {ended : List Bool} (h : Paced threshold ended) :
    streak ended ≤ threshold.toNat + 1 := by
  cases ended with
  | nil => simp
  | cons last earlier =>
    have hs := h [] last earlier rfl
    cases last <;> simp [hs]

namespace World

variable {w w' w'' v : World σ} {f : FacadeId} {t : UInt32} {s : Scope}

/-! ## Apart from creations -/

/-- Nothing on the way from one world to the other has to do with the creations of a façade, other
than that it may be made or taken apart. -/
structure Apart (f : FacadeId) (w w' : World σ) : Prop where
  outcomes : outcomes f w'.journal = outcomes f w.journal
  size : w.facades.size ≤ w'.facades.size
  facade : ∀ facade', w'.facade? f = some facade' →
    (∃ facade, w.facade? f = some facade ∧ facade'.kind = facade.kind ∧ facade.Steady facade') ∨
      w.facades.size ≤ f ∧ facade'.breaker = {}

/-- Everything may be done but to that façade. -/
def Scope.beside (f : FacadeId) : Scope := ⟨true, fun g => g ≠ f, True⟩

theorem Apart.of_facade?
    (ho : ImageDispatch.outcomes f w'.journal = ImageDispatch.outcomes f w.journal)
    (hsize : w.facades.size ≤ w'.facades.size) (hf : w'.facade? f = w.facade? f) :
    w.Apart f w' :=
  ⟨ho, hsize, fun facade' h => .inl ⟨facade', hf ▸ h, rfl, rfl, rfl⟩⟩

theorem Move.apart (h : w.Move (.beside f) w') : w.Apart f w' := by
  cases h with
  | @note e hnotes =>
    refine .of_facade? ?_ le_rfl rfl
    have hnone : e.outcome? f = none := by
      cases e <;> simp_all [Event.outcome?, Scope.Notes, Scope.beside]
    rw [World.note, outcomes_cons, hnone]
    rfl
  | same h =>
    refine .of_facade? (by rw [h.journal]) (by rw [h.facades]) ?_
    rw [facade?, facade?, h.facades]
  | @change g change hk hp ho =>
    refine ⟨rfl, by simp, fun facade' hf' => .inl ?_⟩
    rw [facade?_modify] at hf'
    split at hf'
    next he =>
      subst he
      obtain ⟨facade, hf, rfl⟩ := Option.map_eq_some_iff.1 hf'
      exact ⟨facade, hf, hk facade hf, ho.resolve_left (fun hne => hne rfl) facade hf⟩
    · exact ⟨facade', hf', rfl, rfl, rfl⟩
  | found kind policy =>
    refine ⟨rfl, by simp, fun facade' hf' => ?_⟩
    rw [facade?_push] at hf'
    split at hf'
    next he =>
      cases hf'
      exact .inr ⟨he ▸ le_rfl, rfl⟩
    · exact .inl ⟨facade', hf', rfl, rfl, rfl⟩
  | dismantle =>
    refine ⟨rfl, by simp, fun facade' hf' => .inl ?_⟩
    rw [facade?_remove] at hf'
    split at hf'
    · cases hf'
    · exact ⟨facade', hf', rfl, rfl, rfl⟩
  | _ => exact .of_facade? rfl le_rfl rfl

theorem Move.all (h : w.Move s w') : w.Move true w' := by
  cases h with
  | note => exact .note (Scope.notes_all _ _)
  | same h => exact .same h
  | count => exact .count _ _
  | pin h => exact .pin h
  | unpin r => exact .unpin r
  | hold _ h => exact .hold rfl h
  | unhold _ r => exact .unhold rfl r
  | tabulate h => exact .tabulate h
  | create object => exact .create object
  | stage o stage => exact .stage o stage
  | change g hk => exact .change g hk nofun (.inl trivial)
  | found kind policy => exact .found kind policy
  | dismantle hf hr => exact .dismantle hf hr

/-! ## Worlds that count right -/

/-- What a contrast enhancer counts are its failures since its last success, and it was never given
another chance after too many of them. -/
structure Tallied (t : UInt32) (f : FacadeId) (w : World σ) : Prop where
  fresh : w.facades.size ≤ f → ImageDispatch.outcomes f w.journal = []
  count : ∀ {facade}, w.facade? f = some facade → facade.kind = .contrast →
    facade.breaker.failures.toNat = streak (ImageDispatch.outcomes f w.journal)
  paced : ∀ {facade}, w.facade? f = some facade → facade.kind = .contrast →
    Paced t (ImageDispatch.outcomes f w.journal)

/-- A contrast enhancer does not create anything now. -/
def Idle (f : FacadeId) (w : World σ) : Prop :=
  ∀ facade, w.facade? f = some facade → facade.kind = .contrast → facade.breaker.creating = false

theorem tallied_start (memory : σ) : Tallied t f { memory := memory } :=
  ⟨fun _ => rfl, nofun, nofun⟩

theorem idle_start (memory : σ) : Idle f { memory := memory } := by
  intro facade hf
  cases hf

theorem Apart.tallied (h : w.Apart f w') (ht : w.Tallied t f) : w'.Tallied t f where
  fresh hsize := h.outcomes.trans (ht.fresh (h.size.trans hsize))
  count hf hk := by
    rw [h.outcomes]
    rcases h.facade _ hf with ⟨facade, hf₀, hkind, hsteady⟩ | ⟨hnew, hbreaker⟩
    · rw [hsteady.breaker]
      exact ht.count hf₀ (hkind ▸ hk)
    · rw [ht.fresh hnew, hbreaker]
      rfl
  paced hf hk := by
    rw [h.outcomes]
    rcases h.facade _ hf with ⟨facade, hf₀, hkind, -⟩ | ⟨hnew, -⟩
    · exact ht.paced hf₀ (hkind ▸ hk)
    · rw [ht.fresh hnew]
      exact paced_nil t

theorem Apart.idle (h : w.Apart f w') (hi : w.Idle f) : w'.Idle f := by
  intro facade' hf' hk
  rcases h.facade _ hf' with ⟨facade, hf, hkind, hsteady⟩ | ⟨-, hbreaker⟩
  · rw [hsteady.breaker]
    exact hi facade hf (hkind ▸ hk)
  · rw [hbreaker]

/-- What happens has made a world that counts right from one that did. A contrast enhancer that has
given creation up, or is creating, was left alone. -/
structure TalliedStep (t : UInt32) (f : FacadeId) (w w' : World σ) : Prop where
  moves : w.Moves true w'
  tallied : w'.Tallied t f
  idle : w.Idle f → w'.Idle f
  locked : ∀ {facade facade'}, w.facade? f = some facade → facade.kind = .contrast →
    facade.breaker.Locked t → w'.facade? f = some facade' →
    facade.Steady facade' ∧
      ImageDispatch.outcomes f w'.journal = ImageDispatch.outcomes f w.journal

namespace TalliedStep

theorem refl (h : w.Tallied t f) : w.TalliedStep t f w :=
  ⟨.refl, h, id, fun hf _ _ hf' => by
    cases hf.symm.trans hf'
    exact ⟨⟨rfl, rfl⟩, rfl⟩⟩

theorem trans (h : w.TalliedStep t f w') (h' : w'.TalliedStep t f w'') :
    w.TalliedStep t f w'' where
  moves := h.moves.trans h'.moves
  tallied := h'.tallied
  idle hi := h'.idle (h.idle hi)
  locked hf hk hb hf'' := by
    obtain ⟨hlt, hback⟩ := h.moves.back (facade?_lt hf)
    obtain ⟨facade', hf', hkind, -⟩ := (h'.moves.back hlt).2 _ hf''
    obtain ⟨facade₀, hf₀, hkind₀, -⟩ := hback facade' hf'
    cases hf.symm.trans hf₀
    obtain ⟨hsteady, hout⟩ := h.locked hf hk hb hf'
    obtain ⟨hsteady', hout'⟩ :=
      h'.locked hf' (hkind₀.trans hk) (by rwa [hsteady.breaker]) hf''
    exact ⟨⟨hsteady'.breaker.trans hsteady.breaker, hsteady'.pairs.trans hsteady.pairs⟩,
      hout'.trans hout⟩

end TalliedStep

theorem Move.talliedStep (hm : w.Move (.beside f) w') (ht : w.Tallied t f) :
    w.TalliedStep t f w' where
  moves := .single hm.all
  tallied := hm.apart.tallied ht
  idle := hm.apart.idle
  locked hf _ _ hf' := by
    refine ⟨?_, hm.apart.outcomes⟩
    rcases hm.apart.facade _ hf' with ⟨facade, hf₀, -, hsteady⟩ | ⟨hnew, -⟩
    · cases hf.symm.trans hf₀
      exact hsteady
    · exact absurd (facade?_lt hf) (Nat.not_lt.2 hnew)

/-- A step that is right in every world that counts right. -/
def Heeds (t : UInt32) (f : FacadeId) (w w' : World σ) : Prop :=
  w.Tallied t f → w.TalliedStep t f w'

instance : Lawful (.beside f) (Heeds t f : World σ → World σ → Prop) where
  refl _ := .refl
  trans h h' ht := (h ht).trans (h' (h ht).tallied)
  move h := h.talliedStep

/-! ## Kinds of façades -/

/-- The façade was made, and is of such a kind if it is still there. -/
structure OfKind (p : FacadeKind → Prop) (f : FacadeId) (w : World σ) : Prop where
  made : f < w.facades.size
  kind : ∀ facade, w.facade? f = some facade → p facade.kind

namespace OfKind

variable {p : FacadeKind → Prop}

theorem of_facade {facade : Facade} (hf : w.facade? f = some facade) (hp : p facade.kind) :
    w.OfKind p f :=
  ⟨facade?_lt hf, fun facade' hf' => by
    cases hf.symm.trans hf'
    exact hp⟩

theorem moves (h : w.OfKind p f) (hm : w.Moves s w') : w'.OfKind p f := by
  obtain ⟨hlt, hback⟩ := hm.back h.made
  refine ⟨hlt, fun facade' hf' => ?_⟩
  obtain ⟨facade, hf, hkind, -⟩ := hback facade' hf'
  rw [hkind]
  exact h.kind facade hf

theorem tallied (h : w.OfKind (· ≠ .contrast) f) : w.Tallied t f :=
  ⟨fun hsize => absurd h.made (Nat.not_lt.2 hsize), fun hf hk => absurd hk (h.kind _ hf),
    fun hf hk => absurd hk (h.kind _ hf)⟩

/-- A façade of another kind has nothing to count. -/
theorem talliedStep (h : w.OfKind (· ≠ .contrast) f) (hm : w.Moves true w') :
    w.TalliedStep t f w' where
  moves := hm
  tallied := (h.moves hm).tallied
  idle _ facade hf hk := absurd hk ((h.moves hm).kind facade hf)
  locked hf hk _ _ := absurd hk (h.kind _ hf)

/-- Whatever begins where the façade is of such a kind consists of moves. -/
instance : Lawful (.all true) (fun w w' : World σ => w.OfKind p f → w.Moves true w') where
  refl _ _ := .refl
  trans h h' hk := (h hk).trans (h' (hk.moves (h hk)))
  move h _ := .single h

end OfKind

end World

/-! ## Requests of code of others -/

/-- On the way from one world to the other, nothing but requests of code of others has to do with
the creations of the façade. Each world on the way is one that the dispatcher goes through, or one
in which a request is made. -/
def Host.Relays (host : Host σ) (f : FacadeId) (w w' : World σ) : Prop :=
  Relation.ReflTransGen (fun v v' => v.Move (.beside f) v' ∨ ∃ r, v' = (host.serve r v).2) w w'

namespace Host.Relays

variable {host : Host σ} {f : FacadeId} {t : UInt32} {w w' : World σ}

instance : Lawful (.beside f) (fun w w' : World σ => host.Relays f w w') :=
  ⟨fun _ => .refl, .trans, fun h => .single (.inl h)⟩

theorem making (host : Host σ) (f : FacadeId) :
    host.Making fun w w' : World σ => host.Relays f w w' := fun r _ => .single (.inr ⟨r, rfl⟩)

/-- If requests are right in worlds that count right, then a contrast enhancer counts right on the
whole way. -/
theorem heeds (h : host.Relays f w w') (hm : host.Making (World.Heeds t f)) :
    w.Heeds t f w' := by
  induction h with
  | refl => exact Lawful.refl w
  | tail _ hstep ih =>
    rcases hstep with hmove | ⟨r, rfl⟩
    · exact Lawful.trans ih (Lawful.move hmove)
    · exact Lawful.trans ih (hm r _)

end Host.Relays

namespace World

variable {w w' v : World σ} {f : FacadeId} {t : UInt32}

/-! ## A creation -/

/-- What has begun in `w₀` has come to `w`. If the façade is still there, then this is the state of
its creations, and so they have ended. -/
structure Counts (t : UInt32) (f : FacadeId) (b : Breaker) (ended : List Bool) (w₀ w : World σ) :
    Prop where
  moves : w₀.Moves true w
  made : f < w.facades.size
  count : b.failures.toNat = streak ended
  paced : Paced t ended
  facade : ∀ facade, w.facade? f = some facade → facade.kind = .contrast ∧ facade.breaker = b ∧
    ImageDispatch.outcomes f w.journal = ended

namespace Counts

variable {b : Breaker} {ended : List Bool} {facade : Facade} {w₀ : World σ}

theorem of_tallied (ht : w.Tallied t f) (hf : w.facade? f = some facade)
    (hk : facade.kind = .contrast) : Counts t f facade.breaker (outcomes f w.journal) w w :=
  ⟨.refl, facade?_lt hf, ht.count hf hk, ht.paced hf hk, fun _ h => by
    cases hf.symm.trans h
    exact ⟨hk, rfl, rfl⟩⟩

theorem tallied (h : Counts t f b ended w₀ w) : w.Tallied t f where
  fresh hsize := absurd h.made (Nat.not_lt.2 hsize)
  count hf _ := by
    obtain ⟨-, rfl, rfl⟩ := h.facade _ hf
    exact h.count
  paced hf _ := by
    obtain ⟨-, -, rfl⟩ := h.facade _ hf
    exact h.paced

/-- While it cannot create, nothing else changes that. -/
theorem heeds (h : Counts t f b ended w₀ w) (hb : b.Locked t) (hw : w.Heeds t f w') :
    Counts t f b ended w₀ w' := by
  have hstep := hw h.tallied
  obtain ⟨hlt, hback⟩ := hstep.moves.back h.made
  refine ⟨h.moves.trans hstep.moves, hlt, h.count, h.paced, fun facade' hf' => ?_⟩
  obtain ⟨facade, hf, hkind, -⟩ := hback facade' hf'
  obtain ⟨hk, hbreaker, ho⟩ := h.facade facade hf
  obtain ⟨hsteady, hsame⟩ := hstep.locked hf hk (hbreaker ▸ hb) hf'
  exact ⟨hkind.trans hk, hsteady.breaker.trans hbreaker, hsame.trans ho⟩

/-- So it is on a whole way on which only requests of code of others could. -/
theorem relays (h : Counts t f b ended w₀ w) (hb : b.Locked t) {host : Host σ}
    (hm : host.Making (World.Heeds t f)) (hw : host.Relays f w w') : Counts t f b ended w₀ w' :=
  h.heeds hb (hw.heeds hm)

/-- The façade changes, and it may be noted how a creation has ended. -/
theorem change (h : Counts t f b ended w₀ w) {b' : Breaker} {ended' : List Bool}
    {change : Facade → Facade} {journal : List Event}
    (hcount : b'.failures.toNat = streak ended') (hpaced : Paced t ended')
    (hchange : ∀ facade, (change facade).kind = facade.kind ∧
      (facade.breaker = b → (change facade).breaker = b'))
    (hout : ImageDispatch.outcomes f w.journal = ended → ImageDispatch.outcomes f journal = ended')
    (hnote : Moves true w { w with journal }) :
    Counts t f b' ended' w₀
      { w with journal, facades := w.facades.modify f (Option.map change) } where
  moves := (h.moves.trans hnote).tail (.change f (fun facade _ => (hchange facade).1) nofun
    (.inl trivial))
  made := by
    show f < (w.facades.modify f _).size
    rw [Array.size_modify]
    exact h.made
  count := hcount
  paced := hpaced
  facade facade' hf' := by
    have hf := facade?_modify w f f change
    rw [if_pos rfl] at hf
    obtain ⟨facade, hf₀, rfl⟩ := Option.map_eq_some_iff.1 (hf.symm.trans hf')
    obtain ⟨hk, hb, ho⟩ := h.facade facade hf₀
    exact ⟨(hchange facade).1.trans hk, (hchange facade).2 hb, hout ho⟩

theorem modifyBreaker (h : Counts t f b ended w₀ w) {change : Breaker → Breaker}
    (hc : (change b).failures = b.failures) :
    Counts t f (change b) ended w₀ (Host.modifyBreaker f change w).2 :=
  h.change (by rw [hc, h.count]) h.paced (fun _ => ⟨rfl, fun hb => congrArg change hb⟩) id .refl

/-- A creation has ended while there were not too many failures. -/
theorem conclude (h : Counts t f b ended w₀ w) (hle : b.failures ≤ t)
    (hlt : t.toNat + 1 < UInt32.size) {e : Event} (ok : Bool) (he : e.outcome? f = some ok) :
    Counts t f (b.conclude ok) (ok :: ended) w₀
      (Host.modifyBreaker f (·.conclude ok) (w.note e)).2 := by
  have hout : ImageDispatch.outcomes f w.journal = ended →
      ImageDispatch.outcomes f (e :: w.journal) = ok :: ended := by
    intro ho
    rw [outcomes_cons, he, ho]
    rfl
  refine h.change ?_ (h.paced.cons (h.count ▸ hle) ok) (fun _ => ⟨rfl, fun hb => by rw [hb]⟩) hout
    (.single (.note (Scope.notes_all _ e)))
  cases ok with
  | true => rfl
  | false =>
    have hle' : b.failures.toNat ≤ t.toNat := hle
    have hone : (1 : UInt32).toNat = 1 := rfl
    show (b.failures + 1).toNat = _
    rw [streak_failure, ← h.count, UInt32.toNat_add, hone]
    exact Nat.mod_eq_of_lt (by simp [UInt32.size] at hlt; omega)

theorem useCache {α : Type} (h : Counts t f b ended w₀ w) (op : Operation)
    (use : Cache Key ObjectId → α × Cache Key ObjectId) :
    Counts t f b ended w₀ (useCache f op use w).2 := by
  rw [useCache_run]
  cases w.facade? f with
  | none => exact h
  | some facade =>
    exact h.change h.count h.paced
      (fun _ => ⟨Facade.kind_withCache _ _ _, fun hb => by rw [Facade.breaker_withCache, hb]⟩) id
      .refl

end Counts

end World

namespace Host

variable {host : Host σ} {f : FacadeId} {t : UInt32} {w : World σ} {facade : Facade}

/-! ## Looking for an implementation -/

theorem resolveContrast_gone (hf : w.facade? f = none) (k : ContrastKind) :
    host.resolveContrast f k w = (.error gone, w.note (.sought f)) := by
  have hf' : (w.note (.sought f)).facade? f = none := hf
  have hemit : emit (.sought f) w = ((), w.note (.sought f)) := rfl
  unfold resolveContrast cachedContrast createContrast
  rw [bind_of_run hemit, bind_run, useCache_run, hf']
  dsimp only
  rw [facade?_run, hf']
  rfl

theorem Making.moving (hm : host.Making (World.Heeds t f)) :
    host.Making fun w w' : World σ => w.OfKind (· ≠ .contrast) f → w.Moves true w' :=
  fun r v hd => (hm r v hd.tallied).moves

/-- It is counted how a creation has ended, and what was created is cached. -/
def conclude (f : FacadeId) (k : ContrastKind) : Except Error ObjectId → World σ → World σ
  | .ok o, w => (useCache f .main (fun c => c.insert (.contrast k) o)
      (modifyBreaker f Breaker.succeed (w.note (.adopted f o))).2).2
  | .error _, w => (modifyBreaker f Breaker.fail (w.note (.failed f))).2

/-- A creation that begins in `start`, where the façade is creating. `b` is the state of its
creations then, and so they have ended. While the implementation is created, and while one that it
displaces goes and a failure is reported, nothing but requests of code of others has to do with the
creations of the façade. In each world in which such a request is made, the façade is still
creating, and counts as it did. -/
inductive Attempted (host : Host σ) (t : UInt32) (f : FacadeId) (k : ContrastKind) (b : Breaker)
    (ended : List Bool) (w₀ start : World σ) : Except Error ObjectId × World σ → Prop
  | intro {r : Except Error ObjectId} {made done : World σ}
    (hcreate : host.create (.contrast k) start = (r, made)) (hmade : host.Relays f start made)
    (hmeanwhile : ∀ v, host.Relays f start v → Counts t f b ended w₀ v)
    (hdone : host.Relays f (conclude f k r made) done)
    (hafter : ∀ v, host.Relays f (conclude f k r made) v →
      Counts t f (b.conclude r.isOk) (r.isOk :: ended) w₀ v) :
    Attempted host t f k b ended w₀ start (r, done)

section

variable (hm : host.Making (World.Heeds t f)) (hlt : t.toNat + 1 < UInt32.size)

include hm hlt

/-- While it creates, a contrast enhancer is left alone. Then it counts how that has ended. -/
theorem Making.attemptContrast_attempted {b : Breaker} {ended : List Bool} {w₀ : World σ}
    (h : Counts t f b ended w₀ w) (hb : b.creating = true) (hle : b.failures ≤ t)
    (k : ContrastKind) : host.Attempted t f k b ended w₀ w (host.attemptContrast f k w) := by
  have hbusy (ok : Bool) : (b.conclude ok).Locked t := .inr (by cases ok <;> exact hb)
  have hmade : host.Relays f w (host.create (.contrast k) w).2 :=
    (Relays.making host f).create (.contrast k) w
  have hmeanwhile (v : World σ) (hv : host.Relays f w v) : Counts t f b ended w₀ v :=
    h.relays (.inr hb) hm hv
  unfold Host.attemptContrast
  rw [bind_run]
  cases hcreate : host.create (.contrast k) w with
  | mk r u =>
    rw [hcreate] at hmade
    cases r with
    | ok o =>
      have hended : Counts t f b.succeed (true :: ended) w₀
          (Host.modifyBreaker f Breaker.succeed (u.note (.adopted f o))).2 :=
        (hmeanwhile u hmade).conclude hle hlt true (by simp [Event.outcome?])
      have hin : Counts t f b.succeed (true :: ended) w₀ (conclude f k (.ok o) u) :=
        hended.useCache .main fun c => c.insert (.contrast k) o
      exact .intro hcreate hmade hmeanwhile ((Relays.making host f).letDisplacedGo _ _ _ _)
        fun v hv => hin.relays (hbusy true) hm hv
    | error e =>
      have hended : Counts t f b.fail (false :: ended) w₀ (conclude f k (.error e) u) :=
        (hmeanwhile u hmade).conclude hle hlt false (by simp [Event.outcome?])
      exact .intro hcreate hmade hmeanwhile
        ((Relays.making host f).plain (host.reportFailure_plain _ _ _ _) _)
        fun v hv => hended.relays (hbusy false) hm hv

/-- A contrast enhancer that has no implementation, and may create one, counts how that ends. -/
theorem Making.resolveContrast_attempted (ht : host.env.config.failureThreshold = t)
    (hw : w.Tallied t f) {k : ContrastKind} (hf : w.facade? f = some facade)
    (hk : facade.kind = .contrast) (hget : ((facade.cache .main).get (.contrast k)).1 = none)
    (hfree : ¬facade.breaker.Locked t) :
    ∃ x, host.resolveContrast f k w = (x.1, (Host.modifyBreaker f Breaker.stop x.2).2) ∧
      host.Attempted t f k facade.breaker.start (outcomes f w.journal) w
        (Host.modifyBreaker f Breaker.start (w.note (.sought f))).2 x ∧
      Counts t f ⟨if x.1.isOk then 0 else facade.breaker.failures + 1, false⟩
        (x.1.isOk :: outcomes f w.journal) w (Host.modifyBreaker f Breaker.stop x.2).2 := by
  obtain ⟨hd, hc⟩ := not_or.1 hfree
  rw [resolveContrast_uncached hf hget, ht, if_neg hd, if_neg hc, missing_contrast hf hget]
  have hle : facade.breaker.failures ≤ t := by
    by_contra hmany
    exact hd (decide_eq_true (UInt32.not_le.1 hmany))
  have hbegun := Counts.of_tallied hw hf hk
  have hstarted : Counts t f facade.breaker.start (outcomes f w.journal) w
      (Host.modifyBreaker f Breaker.start (w.note (.sought f))).2 :=
    hbegun.change hbegun.count hbegun.paced (fun _ => ⟨rfl, fun hb => congrArg Breaker.start hb⟩) id
      (.single (.note trivial))
  have hattempt := hm.attemptContrast_attempted hlt hstarted rfl hle k
  refine ⟨_, rfl, hattempt, ?_⟩
  generalize host.attemptContrast f k _ = x at hattempt
  obtain @⟨r, made, done, -, -, -, hdone, hafter⟩ := hattempt
  have hstopped : Counts t f (facade.breaker.start.conclude r.isOk).stop _ w
      (Host.modifyBreaker f Breaker.stop done).2 := (hafter done hdone).modifyBreaker rfl
  have hstop : (facade.breaker.start.conclude r.isOk).stop =
      ⟨if r.isOk then 0 else facade.breaker.failures + 1, false⟩ := by
    cases r.isOk <;> rfl
  rwa [hstop] at hstopped

/-- A contrast enhancer that looks for an implementation leaves a world that counts right. -/
theorem Making.resolveContrast_heeds (ht : host.env.config.failureThreshold = t)
    (k : ContrastKind) : Made (World.Heeds t f) (host.resolveContrast f k) := by
  intro w
  cases hf : w.facade? f with
  | none =>
    rw [resolveContrast_gone hf]
    exact Lawful.move (.note trivial)
  | some facade =>
    by_cases hk : facade.kind = .contrast
    · cases hget : ((facade.cache .main).get (.contrast k)).1 with
      | some o =>
        rw [resolveContrast_cached hf hget]
        refine Lawful.head (.note (e := .sought f) trivial) (Lawful.head ?_
          (Lawful.move (.pin (r := .object o) trivial)))
        refine .change f (fun _ _ => Facade.kind_withCache _ _ _) nofun (.inr fun facade' hf' => ?_)
        obtain rfl : facade = facade' := Option.some.inj (hf.symm.trans hf')
        exact ⟨Facade.breaker_withCache _ _ _, by rw [Facade.cache_withCache_self, Cache.pairs_get]⟩
      | none =>
        by_cases hfree : facade.breaker.Locked t
        · rw [resolveContrast_uncached hf hget, ht]
          by_cases hd : facade.breaker.isDisabled t = true
          · rw [if_pos hd]
            exact Lawful.move (.note trivial)
          · rw [if_neg hd, if_pos (hfree.resolve_left hd)]
            exact Lawful.head (.note (e := .sought f) trivial) (Lawful.move (.note trivial))
        · intro hw
          obtain ⟨x, hx, -, hdone⟩ := hm.resolveContrast_attempted hlt ht hw hf hk hget hfree
          rw [hx]
          exact
            { moves := hdone.moves
              tallied := hdone.tallied
              idle := fun _ facade' hf' _ => by rw [(hdone.facade facade' hf').2.1]
              locked := fun hf₀ _ hb _ => by
                cases hf.symm.trans hf₀
                exact absurd hb hfree }
    · have hd : w.OfKind (· ≠ .contrast) f := .of_facade hf hk
      exact fun _ => hd.talliedStep (hm.moving.resolveContrast trivial k w hd)

/-! ## Calls, requests and clients -/

/-- Whatever a façade is given to do, contrast enhancers count right. -/
theorem Making.process_heeds (ht : host.env.config.failureThreshold = t) (g : FacadeId)
    (task : Task) : Made (World.Heeds t f) (host.process g task) := by
  intro w
  by_cases hg : g = f
  · subst hg
    cases hf : w.facade? g with
    | none =>
      rw [process_refused (by simp [hf])]
      exact Lawful.refl w
    | some facade =>
      by_cases hk : facade.kind = .contrast
      · cases hd : facade.kind.does task with
        | false =>
          rw [process_refused fun facade' hf' => by cases hf.symm.trans hf'; exact hd]
          exact Lawful.refl w
        | true =>
          obtain ⟨k, input, output, rfl⟩ : ∃ k input output, task = .contrast k input output := by
            rw [hk] at hd
            cases task <;> simp_all [FacadeKind.does]
          have hdispatch : ∀ kind : FacadeKind, kind.does (.contrast k input output) = true →
              Made (World.Heeds t g) (host.dispatch g kind (.contrast k input output)) :=
            fun _ _ => hm.runContrast_of (hm.resolveContrast_heeds hlt ht k) _
          exact hm.process_of hdispatch w
      · have hd : w.OfKind (· ≠ .contrast) g := .of_facade hf hk
        exact fun _ => hd.talliedStep (hm.moving.process trivial trivial task w hd)
  · exact hm.process hg trivial task w

end

variable (env : Environment σ) (hlt : env.config.failureThreshold.toNat + 1 < UInt32.size)

include hlt

/-- However deep requests of code of others go, contrast enhancers count right. -/
theorem nested_heeding (f : FacadeId) : (depth : Nat) →
    (Host.nested env depth).Making (World.Heeds env.config.failureThreshold f)
  | 0 => making_zero env
  | depth + 1 => fun r =>
    have hm : (Host.nested env depth).Making (World.Heeds env.config.failureThreshold f) :=
      nested_heeding f depth
    hm.answer rfl r fun g task _ => hm.process_heeds hlt (by rw [nested_env]) g task

/-- So do they between any two moments of a run of clients. -/
theorem run_heeds (depth : Nat) (settings : Option (String → Option String)) (f : FacadeId)
    (steps : List ClientStep) :
    Made (World.Heeds env.config.failureThreshold f)
      (steps.forM (·.take (Host.nested env depth) settings)) := by
  have hm := nested_heeding env hlt f depth
  exact .forM (fun step => step.made hm rfl settings fun g task _ =>
    hm.process_heeds hlt (by rw [nested_env]) g task) steps

end Host

end ImageDispatch
