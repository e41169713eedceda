import ImageDispatch.Proofs.Cache.Refinement

/-!
# Creators that use their own cache

A creator runs between the miss that starts it and the insertion of what it returns. Meanwhile the
steps it takes may fill, clear or evict anything, the key under creation too.

* `CacheStep.stored`, `CacheStep.creators`: the values that a run puts in, and the keys of the
  creators that a script brings along.
* `Cache.Sound`: the cache stands for a recency list. Every run keeps it, however deep its creators
  are nested, and what a run puts in is what leaves and what stays (`CacheStep.run_keeps`).
* `Cache.Reached`: the states of a cache at any moment, also while creators are at work, with the
  values put in and released until then.
* `Cache.resolve_reentrant`: what a call leaves behind, whatever its creator did meanwhile.
-/

namespace ImageDispatch

namespace CacheTrace

variable {κ α : Type}

/-- The values released in a run, in order. -/
def released (trace : CacheTrace κ α) : List α := trace.events.filterMap CacheEvent.released?

/-- The keys whose creators were started in a run, in order. -/
def started (trace : CacheTrace κ α) : List κ := trace.events.filterMap CacheEvent.started?

end CacheTrace

namespace CacheStep

variable {κ α ε : Type}

mutual

/-- The keys of the creators that a step brings along, those further in after the one that brings
them. -/
def creators (step : CacheStep κ α ε) : List κ :=
  match step with
  | resolve k during _ => k :: creatorsAll during
  | _ => []

def creatorsAll (steps : List (CacheStep κ α ε)) : List κ :=
  match steps with
  | [] => []
  | step :: rest => creators step ++ creatorsAll rest

end

variable [DecidableEq κ]

mutual

/-- The values that a step puts into a cache, in order. -/
def stored (step : CacheStep κ α ε) (c : Cache κ α) : List α :=
  match step with
  | insert _ v => [v]
  | resolve k during outcome =>
    match c.begin k with
    | (.miss _, c) => storedAll during c ++ outcome.toOption.toList
    | _ => []
  | _ => []

def storedAll (steps : List (CacheStep κ α ε)) (c : Cache κ α) : List α :=
  match steps with
  | [] => []
  | step :: rest => stored step c ++ storedAll rest (step.run c).2.cache

end

end CacheStep

namespace Cache

variable {κ α : Type} {c : Cache κ α} {p : CachePolicy}

/-- The cache has the policy and stands for a recency list. -/
structure Sound (p : CachePolicy) (c : Cache κ α) : Prop where
  policy_eq : c.policy = p
  follows : ∃ l, c.Follows l

theorem sound_empty (p : CachePolicy) : (empty p : Cache κ α).Sound p :=
  ⟨rfl, [], follows_nil rfl⟩

theorem Sound.guarded (h : c.Sound p) (pending : List (κ × GuardId)) (running : List GuardId)
    (next : GuardId) : (c.guarded pending running next).Sound p := by
  obtain ⟨l, hl⟩ := h.follows
  exact ⟨h.policy_eq, l, hl.guarded pending running next⟩

theorem Sound.clear (h : c.Sound p) : c.clear.2.Sound p :=
  ⟨h.policy_eq, [], follows_nil rfl⟩

theorem Sound.keyed (h : c.Sound p) : c.Keyed :=
  let ⟨_, hl⟩ := h.follows
  hl.keyed

/-- What a run leaves behind if it puts in the values `stored`: a cache that stands for a list, and
no value lost or released while it is still there. -/
structure Keeps (p : CachePolicy) (c : Cache κ α) (trace : CacheTrace κ α) (stored : List α) :
    Prop where
  sound : trace.cache.Sound p
  balance : (trace.released ++ trace.cache.values).Perm (stored ++ c.values)

/-- So it is when nothing happens but that another cache with the same values is there. -/
theorem Sound.keeps {d : Cache κ α} (h : c.Sound p) (hv : c.values = d.values) :
    Keeps p d ⟨[], c⟩ [] :=
  ⟨h, .of_eq hv⟩

theorem Keeps.quiet {trace : CacheTrace κ α} {s : List α} (h : Keeps p c trace s)
    {events : List (CacheEvent κ α)} (he : events.filterMap CacheEvent.released? = trace.released) :
    Keeps p c ⟨events, trace.cache⟩ s :=
  ⟨h.sound, by rw [CacheTrace.released, he]; exact h.balance⟩

open scoped List in
theorem Keeps.append {trace next : CacheTrace κ α} {s t : List α} (h : Keeps p c trace s)
    (hn : Keeps p trace.cache next t) :
    Keeps p c ⟨trace.events ++ next.events, next.cache⟩ (s ++ t) where
  sound := hn.sound
  balance := by
    have swap : ∀ a b d : List α, a ++ (b ++ d) ~ b ++ (a ++ d) := by
      intro a b d
      rw [← List.append_assoc, ← List.append_assoc]
      exact List.perm_append_comm.append_right d
    rw [CacheTrace.released, List.filterMap_append, List.append_assoc, List.append_assoc]
    calc trace.released ++ (next.released ++ next.cache.values)
      _ ~ trace.released ++ (t ++ trace.cache.values) := hn.balance.append_left _
      _ ~ t ++ (trace.released ++ trace.cache.values) := swap _ _ _
      _ ~ t ++ (s ++ c.values) := h.balance.append_left _
      _ ~ s ++ (t ++ c.values) := swap _ _ _

variable [DecidableEq κ]

theorem Sound.get (h : c.Sound p) (k : κ) : (c.get k).2.Sound p := by
  obtain ⟨l, hl⟩ := h.follows
  rcases hl.get k with ⟨v, -, hg, hf⟩ | ⟨-, hg⟩ <;> rw [hg]
  · exact ⟨h.policy_eq, _, hf⟩
  · exact h

theorem Sound.begin (h : c.Sound p) (k : κ) : (c.begin k).2.Sound p := by
  obtain ⟨pending, running, next, hb⟩ := c.begin_eq k
  rw [hb]
  exact (h.get k).guarded pending running next

theorem values_begin (c : Cache κ α) (k : κ) : (c.begin k).2.values = c.values := by
  obtain ⟨pending, running, next, hb⟩ := c.begin_eq k
  rw [hb, values_guarded, values_get]

theorem Sound.insert (h : c.Sound p) (k : κ) (v : α) :
    Keeps p c ⟨CacheStep.displacement k (c.insert k v).1, (c.insert k v).2⟩ [v] where
  sound := by
    obtain ⟨l, hl⟩ := h.follows
    exact ⟨(hl.insert_rest k v).1.trans h.policy_eq, _, (hl.insert k v).2⟩
  balance := by
    have hperm := (h.keyed.pairs_insert_perm k v).map Prod.snd
    rw [List.map_append, map_snd_pairs, List.map_cons, map_snd_pairs] at hperm
    rw [CacheTrace.released, (CacheEvent.filterMap_displacement k _).2, Option.toList_map]
    exact hperm

theorem Sound.finish (h : c.Sound p) (k : κ) (g : GuardId) (v : α) :
    Keeps p c ⟨CacheStep.displacement k (c.finish k g v).1, (c.finish k g v).2⟩ [v] := by
  obtain ⟨pending, next, he⟩ := c.finish_eq k g v
  have hi := h.insert k v
  rw [he]
  exact ⟨hi.sound.guarded _ _ _, hi.balance⟩

end Cache

namespace CacheStep

open Cache

variable {κ α ε : Type} [DecidableEq κ] {p : CachePolicy}

/-- What a call for the value of `k` can do, with the values that it puts in. -/
inductive Resolving (c : Cache κ α) (k : κ) (during : List (CacheStep κ α ε))
    (outcome : Except ε α) : CacheAnswer α ε → CacheTrace κ α → List α → Prop
  | hit {v : α} {d : Cache κ α} (hb : c.begin k = (.hit v, d)) :
    Resolving c k during outcome (.resolved (.served v) []) ⟨[.hit k], d⟩ []
  | stalls {d : Cache κ α} (hb : c.begin k = (.blocked, d)) :
    Resolving c k during outcome (.resolved .stalled []) ⟨[.missed k, .stalled k], d⟩ []
  | fails {g : GuardId} {d : Cache κ α} {e : ε} (hb : c.begin k = (.miss g, d))
    (ho : outcome = .error e) :
    Resolving c k during outcome (.resolved (.failed e) (runAll during d).1)
      ⟨.missed k :: .started k :: (runAll during d).2.events, (runAll during d).2.cache.fail g⟩
      (storedAll during d)
  | creates {g : GuardId} {d : Cache κ α} {v : α} (hb : c.begin k = (.miss g, d))
    (ho : outcome = .ok v) :
    Resolving c k during outcome (.resolved (.served v) (runAll during d).1)
      ⟨.missed k :: .started k :: (runAll during d).2.events ++
          displacement k ((runAll during d).2.cache.finish k g v).1,
        ((runAll during d).2.cache.finish k g v).2⟩
      (storedAll during d ++ [v])

theorem resolving (c : Cache κ α) (k : κ) (during : List (CacheStep κ α ε))
    (outcome : Except ε α) :
    Resolving c k during outcome ((resolve k during outcome).run c).1
      ((resolve k during outcome).run c).2 ((resolve k during outcome).stored c) := by
  rw [run, stored]
  rcases hb : c.begin k with ⟨v | g | -, d⟩
  · exact .hit hb
  · cases outcome with
    | error e =>
      have hfails : Resolving c k during (.error e) _ _ _ := .fails hb rfl
      rwa [← List.append_nil (storedAll during d)] at hfails
    | ok v => exact .creates hb rfl
  · exact .stalls hb

mutual

/-- Whatever creators do with their own cache, it keeps standing for a list, and each value that was
there or is put in leaves once or is there afterwards. -/
theorem run_keeps (step : CacheStep κ α ε) {c : Cache κ α} (h : c.Sound p) :
    Keeps p c (step.run c).2 (step.stored c) := by
  cases step with
  | get k => exact (h.get k).keeps (c.values_get k)
  | insert k v => exact h.insert k v
  | contains k => exact h.keeps rfl
  | clear =>
    refine ⟨h.clear, ?_⟩
    have hreleased := (CacheEvent.filterMap_released (κ := κ) c.values).2
    exact .of_eq ((List.append_nil _).trans hreleased)
  | describe family => exact h.keeps rfl
  | resolve k during outcome =>
    have hsound := h.begin k
    have hvalues := c.values_begin k
    have hcases := resolving c k during outcome
    generalize ((resolve k during outcome).run c).1 = answer,
      ((resolve k during outcome).run c).2 = trace,
      (resolve k during outcome).stored c = stored at hcases ⊢
    cases hcases with
    | hit hb | stalls hb =>
      rw [hb] at hsound hvalues
      exact (hsound.keeps hvalues).quiet rfl
    | fails hb ho =>
      rw [hb] at hsound hvalues
      have hinner := (hsound.keeps hvalues).append (runAll_keeps during hsound)
      exact ⟨hinner.sound.guarded _ _ _, hinner.balance⟩
    | creates hb ho =>
      rw [hb] at hsound hvalues
      have hinner := (hsound.keeps hvalues).append (runAll_keeps during hsound)
      exact (hinner.append (hinner.sound.finish k _ _)).quiet rfl

theorem runAll_keeps (steps : List (CacheStep κ α ε)) {c : Cache κ α} (h : c.Sound p) :
    Keeps p c (runAll steps c).2 (storedAll steps c) := by
  cases steps with
  | nil => exact h.keeps rfl
  | cons step rest =>
    have hfirst := run_keeps step h
    exact hfirst.append (runAll_keeps rest hfirst.sound)

end

mutual

/-- A creator is started once at most for each time that a script brings it along. -/
theorem started_sublist (step : CacheStep κ α ε) (c : Cache κ α) :
    (step.run c).2.started.Sublist step.creators := by
  cases step with
  | get k => exact List.nil_sublist _
  | insert k v =>
    have hnone := (CacheEvent.filterMap_displacement k (c.insert k v).1).1
    exact List.sublist_nil.2 hnone
  | contains k => exact List.nil_sublist _
  | clear => exact List.sublist_nil.2 (CacheEvent.filterMap_released c.values).1
  | describe family => exact List.nil_sublist _
  | resolve k during outcome =>
    have hcases := resolving c k during outcome
    generalize ((resolve k during outcome).run c).1 = answer,
      ((resolve k during outcome).run c).2 = trace,
      (resolve k during outcome).stored c = stored at hcases ⊢
    rw [creators]
    cases hcases with
    | hit hb | stalls hb => exact List.nil_sublist _
    | @fails g d => exact (startedAll_sublist during d).cons_cons k
    | @creates g d v =>
      have hlast := (CacheEvent.filterMap_displacement k
        ((runAll during d).2.cache.finish k g v).1).1
      rw [CacheTrace.started, List.filterMap_append, hlast, List.append_nil]
      exact (startedAll_sublist during d).cons_cons k

theorem startedAll_sublist (steps : List (CacheStep κ α ε)) (c : Cache κ α) :
    (runAll steps c).2.started.Sublist (creatorsAll steps) := by
  cases steps with
  | nil => exact List.nil_sublist _
  | cons step rest =>
    rw [runAll_cons, creatorsAll, CacheTrace.started, List.filterMap_append]
    exact (started_sublist step c).append (startedAll_sublist rest _)

end

end CacheStep

namespace Cache

variable {κ α ε : Type} [DecidableEq κ] {c : Cache κ α} {p : CachePolicy} {k : κ} {v : α}

/-! ## Every moment of a cache -/

/-- The states that a cache with the policy `p` can be in at any moment, also within creations that
have begun and have not ended, with the values that were put in and released until then. -/
inductive Reached (ε : Type) (p : CachePolicy) : List α → List α → Cache κ α → Prop
  | start : Reached ε p [] [] (empty p)
  | step {stored released : List α} {c : Cache κ α} (step : CacheStep κ α ε)
    (h : Reached ε p stored released c) :
    Reached ε p (stored ++ step.stored c) (released ++ (step.run c).2.released)
      (step.run c).2.cache
  | within {stored released : List α} {c : Cache κ α} (k : κ) (h : Reached ε p stored released c) :
    Reached ε p stored released (c.begin k).2

variable {stored released : List α}

/-- No value that was put in is lost, or released while it is still there. -/
theorem Reached.keeps (h : Reached ε p stored released c) :
    c.Sound p ∧ (released ++ c.values).Perm stored := by
  induction h with
  | start => exact ⟨sound_empty p, .nil⟩
  | @step stored released c step _ ih =>
    have hstep := step.run_keeps ih.1
    refine ⟨hstep.sound, ?_⟩
    rw [List.append_assoc]
    refine (hstep.balance.append_left released).trans ?_
    rw [← List.append_assoc]
    refine (List.perm_append_comm.append_right _).trans ?_
    rw [List.append_assoc]
    exact (ih.2.append_left _).trans List.perm_append_comm
  | within k _ ih => exact ⟨ih.1.begin k, by rw [values_begin]; exact ih.2⟩

/-! ## The end of a call -/

/-- The cache holds the value for the key and used no other key since, and it is not too big. -/
structure Foremost (p : CachePolicy) (c : Cache κ α) (k : κ) (v : α) : Prop where
  held : (c.get k).1 = some v
  latest : ∃ e ∈ c.entries, e.key = k ∧ ∀ x ∈ c.entries, x.key ≠ k → x.used < e.used
  fits : ∀ n h, p = .recent n h → c.size ≤ n

theorem Follows.foremost {l : RecencyList κ α} (h : c.Follows ((k, v) :: l)) :
    c.Foremost c.policy k v where
  held := by
    rcases h.get k with ⟨w, hw, hg, -⟩ | ⟨hw, -⟩ <;> simp [RecencyList.value?] at hw
    rw [hg, hw]
  latest := by
    obtain ⟨es, ho, hl⟩ := h.ordered
    cases es with
    | nil => cases hl
    | cons e es =>
      have hkey : k = e.key := congrArg Prod.fst (List.cons.inj hl).1
      refine ⟨e, ho.perm.mem_iff.1 List.mem_cons_self, hkey.symm, fun x hx hne => ?_⟩
      rcases List.mem_cons.1 (ho.perm.mem_iff.2 hx) with rfl | hx
      · exact absurd hkey.symm hne
      · exact (List.pairwise_cons.1 ho.descends).1 x hx
  fits := h.fits

theorem exists_put_cons (l : RecencyList κ α) (p : CachePolicy) (k : κ) (v : α) :
    ∃ rest, (l.put p k v).2 = (k, v) :: rest := by
  rw [RecencyList.put]
  split
  · rename_i hfull
    cases p with
    | unbounded => cases hfull
    | recent n hn =>
      have hlen : n < (l.without k).length + 1 := of_decide_eq_true hfull
      rw [List.dropLast_cons_of_ne_nil]
      · exact ⟨_, rfl⟩
      · intro hnil
        rw [hnil, List.length_nil] at hlen
        omega
  · exact ⟨_, rfl⟩

theorem Sound.begin_hit {d : Cache κ α} (h : c.Sound p) (hb : c.begin k = (.hit v, d)) :
    (c.get k).1 = some v ∧ d.Foremost p k v := by
  obtain ⟨l, hl⟩ := h.follows
  unfold Cache.begin at hb
  rcases hl.get k with ⟨w, -, hg, hf⟩ | ⟨-, hg⟩ <;> rw [hg] at hb
  · cases hb
    rw [hg]
    exact ⟨rfl, h.policy_eq ▸ hf.foremost⟩
  · dsimp only at hb
    split at hb
    · split at hb <;> cases hb
    · cases hb

theorem begin_miss {d : Cache κ α} {g : GuardId} (hb : c.begin k = (.miss g, d)) :
    (c.get k).1 = none := by
  unfold Cache.begin at hb
  cases hg : c.get k with
  | mk found after =>
    cases found with
    | none => rfl
    | some v => rw [hg] at hb; cases hb

theorem Sound.finish_foremost (h : c.Sound p) (k : κ) (g : GuardId) (v : α) :
    (c.finish k g v).2.Foremost p k v := by
  obtain ⟨l, hl⟩ := h.follows
  obtain ⟨pending, next, he⟩ := c.finish_eq k g v
  obtain ⟨rest, hrest⟩ := exists_put_cons l c.policy k v
  have hf := (hl.insert k v).2.guarded pending (c.running.erase g) next
  have hp : (c.finish k g v).2.policy = p := by
    rw [he]
    exact (hl.insert_rest k v).1.trans h.policy_eq
  rw [hrest] at hf
  rw [← hp, he]
  exact hf.foremost

/-- A value that the key has at the end of its creation is what gives way. -/
theorem Sound.finish_displaces (h : c.Sound p) {w : α} (hw : (c.get k).1 = some w) (g : GuardId)
    (v : α) : CacheStep.displacement k (c.finish k g v).1 = [.released w] := by
  obtain ⟨pending, next, he⟩ := c.finish_eq k g v
  have hi := h.keyed.insertion k v
  rw [he]
  rcases c.get_cases k with ⟨e, hmem, hk, hg⟩ | ⟨-, hg⟩ <;> rw [hg] at hw
  · generalize c.insert k v = r at hi ⊢
    cases hi with
    | @replaces s t old hc hold hs ht =>
      rw [hc] at hmem
      obtain rfl : e = old := by
        rcases List.mem_append.1 hmem with hin | hin
        · exact absurd hk (hs e hin)
        · exact (List.mem_cons.1 hin).resolve_right fun hin => ht e hin hk
      obtain rfl : e.value = w := Option.some.inj hw
      simp [CacheStep.displacement, evicted?, CacheEntry.pair, hk]
    | evicts hc hne => exact absurd hk (hne e hmem)
    | adds hne => exact absurd hk (hne e hmem)
  · cases hw

section Ends

variable {during : List (CacheStep κ α ε)} {outcome : Except ε α}
  {answers : List (CacheAnswer α ε)} {trace : CacheTrace κ α}

theorem Sound.served (h : c.Sound p)
    (hr : CacheStep.Resolving c k during outcome (.resolved (.served v) answers) trace stored) :
    trace.cache.Foremost p k v ∧
      (∀ w, (c.get k).1 = some w → v = w ∧ trace.events = [.hit k]) ∧
      ((c.get k).1 = none →
        let inner := CacheStep.runAll during (c.begin k).2
        outcome = .ok v ∧ answers = inner.1 ∧ ∃ last,
          trace.events = .missed k :: .started k :: inner.2.events ++ last ∧
          ∀ w, (inner.2.cache.get k).1 = some w → last = [.released w]) := by
  cases hr with
  | hit hb =>
    obtain ⟨hget, hforemost⟩ := h.begin_hit hb
    refine ⟨hforemost, fun w hw => ⟨Option.some.inj (hget.symm.trans hw), rfl⟩, fun hnone => ?_⟩
    rw [hget] at hnone
    cases hnone
  | @creates g d v hb ho =>
    have hbegin := h.begin k
    have hnone := begin_miss hb
    rw [hb] at hbegin ⊢
    have hinner := (CacheStep.runAll_keeps during hbegin).sound
    refine ⟨hinner.finish_foremost k g v, fun w hw => ?_,
      fun _ => ⟨ho, rfl, _, rfl, fun w hw => ?_⟩⟩
    · rw [hnone] at hw
      cases hw
    · exact hinner.finish_displaces hw g v

theorem failed {e : ε}
    (hr : CacheStep.Resolving c k during outcome (.resolved (.failed e) answers) trace stored) :
    let inner := CacheStep.runAll during (c.begin k).2
    outcome = .error e ∧ answers = inner.1 ∧
      trace.events = .missed k :: .started k :: inner.2.events ∧
      ∃ running, trace.cache = { inner.2.cache with running } := by
  cases hr with
  | fails hb ho =>
    rw [hb]
    exact ⟨ho, rfl, rfl, _, rfl⟩

end Ends

/-- Whatever the creator of a call does with its own cache before it returns, a value that is
served is in the cache, its key used last, and it took the place of any value that was put in for
the key meanwhile. After a failure the cache is as the creator left it. Each creator is started
once at most, and no value gets lost or is released while it is still there. -/
theorem resolve_reentrant (h : Reached ε p stored released c) (k : κ)
    (during : List (CacheStep κ α ε)) (outcome : Except ε α) :
    let call := (CacheStep.resolve k during outcome).run c
    let inner := CacheStep.runAll during (c.begin k).2
    (∀ v answers, call.1 = .resolved (.served v) answers →
      call.2.cache.Foremost p k v ∧
      (∀ w, (c.get k).1 = some w → v = w ∧ call.2.events = [.hit k]) ∧
      ((c.get k).1 = none → outcome = .ok v ∧ answers = inner.1 ∧ ∃ last,
        call.2.events = .missed k :: .started k :: inner.2.events ++ last ∧
        ∀ w, (inner.2.cache.get k).1 = some w → last = [.released w])) ∧
    (∀ e answers, call.1 = .resolved (.failed e) answers →
      outcome = .error e ∧ answers = inner.1 ∧
      call.2.events = .missed k :: .started k :: inner.2.events ∧
      ∃ running, call.2.cache = { inner.2.cache with running }) ∧
    call.2.started.Sublist (k :: CacheStep.creatorsAll during) ∧
    (released ++ c.values).Perm stored ∧
    (released ++ call.2.released ++ call.2.cache.values).Perm
      (stored ++ (CacheStep.resolve k during outcome).stored c) := by
  obtain ⟨hsound, hbefore⟩ := h.keeps
  have hafter := (h.step (.resolve k during outcome)).keeps.2
  have hstarted := CacheStep.started_sublist (.resolve k during outcome) c
  have hcases := CacheStep.resolving c k during outcome
  refine ⟨fun v answers hserved => ?_, fun e answers hfailed => ?_, hstarted, hbefore, hafter⟩
  · rw [hserved] at hcases
    exact hsound.served hcases
  · rw [hfailed] at hcases
    exact failed hcases

/-- A creator puts in a value for its own key, clears the cache and calls for the key again. What
the inner call created leaves when the outer one ends. -/
theorem resolve_reentrant_cleared :
    let p := CachePolicy.recent 1 (by decide)
    let during : List (CacheStep Nat String Unit) :=
      [.insert 1 "a", .clear, .resolve 1 [] (.ok "b")]
    let call := (CacheStep.resolve 1 during (.ok "c")).run (empty p)
    Reached Unit p [] [] (empty p : Cache Nat String) ∧ call.2.released = ["a", "b"] ∧
      call.2.cache.Foremost p 1 "c" ∧ call.2.cache.values = ["c"] := by
  have hcall := resolve_reentrant (k := 1) (p := .recent 1 (by decide))
    (Reached.start : Reached Unit _ [] [] (empty _ : Cache Nat String))
    [.insert 1 "a", .clear, .resolve 1 [] (.ok "b")] (.ok "c")
  exact ⟨.start, by decide +kernel, (hcall.1 "c" _ rfl).1, by decide +kernel⟩

end Cache

end ImageDispatch
