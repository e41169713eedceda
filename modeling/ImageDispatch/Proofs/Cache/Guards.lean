import ImageDispatch.Proofs.Cache.Reentry

/-!
# The guards of creations

A key gets a guard when a creation for it begins, and the creation holds the guard until it ends.
A creation that ends with a value takes the guard away. One that fails leaves it behind, held by
nobody, until the key is created after all or the cache is cleared.

* `CacheStep.episodes`: the creations of a run with what became of them, and the clearings.
* `CacheEpisode.lastFor`: what became of the last creation for a key since the last clearing. It
  decides whether the key has a guard and whether the guard is held.
* `Guarding`: what a run does to the guards. A creation relies on it for what its own creator does
  meanwhile: it finds its guard again at its end, unless the cache was cleared.
* `Cache.guards_account`: the guards at every moment of a cache, also within creations.
-/

namespace ImageDispatch

/-- What became of a creation. -/
inductive CreationProgress
  | underWay
  | failed
  | succeeded
  deriving DecidableEq

/-- What matters to the guards of a cache. -/
inductive CacheEpisode (κ : Type)
  | creation (k : κ) (progress : CreationProgress)
  | cleared

namespace CreationProgress

/-- How a creation ends. -/
def ofOutcome {α ε : Type} (outcome : Except ε α) : CreationProgress :=
  match outcome with
  | .ok _ => succeeded
  | .error _ => failed

/-- What a guard tells about the last creation for its key. Success leaves no guard. -/
def told? (last : Option CreationProgress) : Option CreationProgress :=
  last.filter (· ≠ succeeded)

theorem eq_some_of_told? {last : Option CreationProgress} {progress : CreationProgress}
    (h : told? last = some progress) : last = some progress :=
  (Option.filter_eq_some_iff.1 h).1

end CreationProgress

namespace CacheEpisode

variable {κ : Type} [DecidableEq κ] {k : κ} {h : List (CacheEpisode κ)}

/-- What became of the last creation for `k`, after one more episode. -/
def next (k : κ) (last : Option CreationProgress) (episode : CacheEpisode κ) :
    Option CreationProgress :=
  match episode with
  | creation j progress => if j = k then some progress else last
  | cleared => none

/-- What became of the last creation for `k`, if it was `last` before the episodes `h`. -/
def after (k : κ) (last : Option CreationProgress) (h : List (CacheEpisode κ)) :
    Option CreationProgress :=
  h.foldl (next k) last

/-- What became of the last creation for `k` since the last clearing. -/
def lastFor (k : κ) (h : List (CacheEpisode κ)) : Option CreationProgress := after k none h

theorem after_append (last : Option CreationProgress) (h h' : List (CacheEpisode κ)) :
    after k last (h ++ h') = after k (after k last h) h' :=
  List.foldl_append

theorem after_creation_self (last : Option CreationProgress) (progress : CreationProgress) :
    after k last (creation k progress :: h) = after k (some progress) h := by
  rw [after, List.foldl_cons, next, if_pos rfl, after]

theorem after_creation_of_ne {j : κ} (hj : j ≠ k) (last : Option CreationProgress)
    (progress : CreationProgress) : after k last (creation j progress :: h) = after k last h := by
  rw [after, List.foldl_cons, next, if_neg hj, after]

/-- A clearing makes forget what was before. -/
theorem after_of_cleared (hc : cleared ∈ h) (a b : Option CreationProgress) :
    after k a h = after k b h := by
  obtain ⟨s, t, rfl⟩ := List.append_of_mem hc
  rw [after_append, after_append]
  rfl

/-- Without a clearing and another creation for the key the last one stays the last. -/
theorem after_of_still (hc : cleared ∉ h) (hk : ∀ progress, creation k progress ∉ h)
    (last : Option CreationProgress) : after k last h = last := by
  induction h with
  | nil => rfl
  | cons episode rest ih =>
    rw [List.mem_cons, not_or] at hc
    have hrest := ih hc.2 fun progress hm => hk progress (List.mem_cons_of_mem _ hm)
    cases episode with
    | cleared => exact absurd rfl hc.1
    | creation j progress =>
      have hj : j ≠ k := by
        rintro rfl
        exact hk progress List.mem_cons_self
      rw [after_creation_of_ne hj, hrest]

theorem mem_of_after {last : Option CreationProgress} {progress : CreationProgress}
    (hp : after k last h = some progress) : last = some progress ∨ creation k progress ∈ h := by
  induction h generalizing last with
  | nil => exact .inl hp
  | cons episode rest ih =>
    rcases ih hp with hn | hm
    · cases episode with
      | cleared => cases hn
      | creation j now =>
        by_cases hj : j = k
        · rw [next, if_pos hj] at hn
          obtain rfl := Option.some.inj hn
          exact .inr (hj ▸ List.mem_cons_self)
        · rw [next, if_neg hj] at hn
          exact .inl hn
    · exact .inr (List.mem_cons_of_mem _ hm)

end CacheEpisode

namespace CacheStep

open CreationProgress

variable {κ α ε : Type} [DecidableEq κ]

mutual

/-- The creations and the clearings of a step, in the order in which they begin. -/
def episodes (step : CacheStep κ α ε) (c : Cache κ α) : List (CacheEpisode κ) :=
  match step with
  | clear => [.cleared]
  | resolve k during outcome =>
    match c.begin k with
    | (.miss _, c) => .creation k (ofOutcome outcome) :: episodesAll during c
    | _ => []
  | _ => []

def episodesAll (steps : List (CacheStep κ α ε)) (c : Cache κ α) : List (CacheEpisode κ) :=
  match steps with
  | [] => []
  | step :: rest => episodes step c ++ episodesAll rest (step.run c).2.cache

end

end CacheStep

namespace Cache

open CacheEpisode CreationProgress

variable {κ α : Type} {c d : Cache κ α}

/-! ## The numbers of guards -/

@[simp] theorem pending_guarded (c : Cache κ α) (p : List (κ × GuardId)) (r : List GuardId)
    (n : GuardId) : (c.guarded p r n).pending = p := rfl

/-- A key has one guard at most, a guard belongs to one key at most, and the next one is new. -/
structure Numbered (c : Cache κ α) : Prop where
  keys : (c.pending.map Prod.fst).Nodup
  guards : (c.pending.map Prod.snd).Nodup
  pending_lt : ∀ entry ∈ c.pending, entry.2 < c.nextGuard
  running_lt : ∀ g ∈ c.running, g < c.nextGuard

theorem numbered_empty (p : CachePolicy) : (empty p : Cache κ α).Numbered where
  keys := List.nodup_nil
  guards := List.nodup_nil
  pending_lt _ he := absurd he List.not_mem_nil
  running_lt _ hg := absurd hg List.not_mem_nil

/-- Guards may go away. -/
theorem Numbered.sublist (h : c.Numbered) (hp : d.pending.Sublist c.pending)
    (hr : d.running.Sublist c.running) (hn : d.nextGuard = c.nextGuard) : d.Numbered where
  keys := h.keys.sublist (hp.map _)
  guards := h.guards.sublist (hp.map _)
  pending_lt entry he := hn ▸ h.pending_lt entry (hp.subset he)
  running_lt g hg := hn ▸ h.running_lt g (hr.subset hg)

/-- A new guard may come, for a key without one. -/
theorem Numbered.grown (h : c.Numbered) {k : κ} (hk : k ∉ c.pending.map Prod.fst) :
    (c.guarded (c.pending ++ [(k, c.nextGuard)]) (c.nextGuard :: c.running)
      (c.nextGuard + 1)).Numbered where
  keys := by
    rw [pending_guarded, List.map_append]
    exact List.nodup_append_comm.2 (List.nodup_cons.2 ⟨hk, h.keys⟩)
  guards := by
    rw [pending_guarded, List.map_append]
    refine List.nodup_append_comm.2 (List.nodup_cons.2 ⟨fun hm => ?_, h.guards⟩)
    obtain ⟨entry, he, hn⟩ := List.mem_map.1 hm
    exact (h.pending_lt entry he).ne hn
  pending_lt entry he := by
    rcases List.mem_append.1 he with he | he
    · exact Nat.lt_succ_of_lt (h.pending_lt entry he)
    · obtain rfl := List.mem_singleton.1 he
      exact Nat.lt_succ_self _
  running_lt g hg := by
    rcases List.mem_cons.1 hg with rfl | hg
    · exact Nat.lt_succ_self _
    · exact Nat.lt_succ_of_lt (h.running_lt g hg)

variable [DecidableEq κ] {k : κ} {g : GuardId}

theorem mem_pending_of_guard? (h : c.guard? k = some g) : (k, g) ∈ c.pending := by
  obtain ⟨⟨j, x⟩, hfind, rfl⟩ := Option.map_eq_some_iff.1 h
  have hmem := List.mem_of_find?_eq_some hfind
  have hkey := List.find?_some hfind
  obtain rfl : j = k := of_decide_eq_true hkey
  exact hmem

theorem guard?_eq_none_iff : c.guard? k = none ↔ k ∉ c.pending.map Prod.fst := by
  rw [guard?, Option.map_eq_none_iff, List.find?_eq_none, List.mem_map]
  constructor
  · rintro hnone ⟨entry, he, hkey⟩
    exact hnone entry he (decide_eq_true hkey)
  · intro hnone entry he hkey
    exact hnone ⟨entry, he, of_decide_eq_true hkey⟩

theorem Numbered.guard?_eq_some_iff (h : c.Numbered) :
    c.guard? k = some g ↔ (k, g) ∈ c.pending := by
  refine ⟨mem_pending_of_guard?, fun hm => ?_⟩
  cases hg : c.guard? k with
  | none => exact absurd (List.mem_map_of_mem hm) (guard?_eq_none_iff.1 hg)
  | some x =>
    have hentry := List.inj_on_of_nodup_map h.keys (mem_pending_of_guard? hg) hm rfl
    rw [(Prod.mk.inj hentry).2]

theorem Numbered.guard?_lt (h : c.Numbered) (hg : c.guard? k = some g) : g < c.nextGuard :=
  h.pending_lt _ (mem_pending_of_guard? hg)

theorem Numbered.key_eq (h : c.Numbered) {j : κ} (hk : c.guard? k = some g)
    (hj : c.guard? j = some g) : j = k := by
  have hentry := List.inj_on_of_nodup_map h.guards (mem_pending_of_guard? hj)
    (mem_pending_of_guard? hk) rfl
  exact (Prod.mk.inj hentry).1

/-! ## What guards tell -/

/-- What the guard of a key tells about the last creation for it: that the creation is under way,
as it holds the guard, or that it failed, as nobody does. -/
def progress? (c : Cache κ α) (k : κ) : Option CreationProgress :=
  (c.guard? k).map fun g => if g ∈ c.running then .underWay else .failed

theorem progress?_congr (hg : d.guard? k = c.guard? k)
    (hr : ∀ g, c.guard? k = some g → (g ∈ d.running ↔ g ∈ c.running)) :
    d.progress? k = c.progress? k := by
  rw [progress?, progress?, hg]
  cases hk : c.guard? k with
  | none => rfl
  | some g => rw [Option.map_some, Option.map_some, if_congr (hr g hk) rfl rfl]

theorem progress?_of_held (hg : c.guard? k = some g) (hr : g ∈ c.running) :
    c.progress? k = some .underWay := by
  rw [progress?, hg, Option.map_some, if_pos hr]

theorem progress?_of_left (hg : c.guard? k = some g) (hr : g ∉ c.running) :
    c.progress? k = some .failed := by
  rw [progress?, hg, Option.map_some, if_neg hr]

/-! ## What a run does to guards -/

/-- What a run with the episodes `h` makes of the guards. -/
structure Guarding (h : List (CacheEpisode κ)) (c d : Cache κ α) : Prop where
  numbered : d.Numbered
  running : d.running = c.running
  nextGuard_le : c.nextGuard ≤ d.nextGuard
  account : ∀ k last, c.progress? k = told? last → d.progress? k = told? (after k last h)
  /-- Guards are as they were or new, and new after a clearing. -/
  fresh : ∀ k g, d.guard? k = some g →
    (c.guard? k = some g ∧ .cleared ∉ h) ∨ c.nextGuard ≤ g
  /-- A held guard stays until the cache is cleared, and keeps others from creating for its key. -/
  held : ∀ k g, g ∈ c.running → c.guard? k = some g → .cleared ∉ h →
    d.guard? k = some g ∧ ∀ progress, .creation k progress ∉ h

theorem Guarding.still (h : c.Numbered) (hp : d.pending = c.pending) (hr : d.running = c.running)
    (hn : d.nextGuard = c.nextGuard) : Guarding [] c d := by
  have hguard : ∀ k, d.guard? k = c.guard? k := by
    intro k
    rw [guard?, hp, guard?]
  refine ⟨h.sublist (hp ▸ .refl _) (hr ▸ .refl _) hn, hr, hn.ge, fun k last hk => ?_,
    fun k g hg => .inl ⟨hguard k ▸ hg, List.not_mem_nil⟩,
    fun k g _ hg _ => ⟨(hguard k).trans hg, fun _ => List.not_mem_nil⟩⟩
  rw [progress?_congr (hguard k) fun g _ => by rw [hr], hk]
  rfl

theorem Guarding.refl (h : c.Numbered) : Guarding [] c c := .still h rfl rfl rfl

theorem Guarding.get (h : c.Numbered) (k : κ) : Guarding [] c (c.get k).2 := by
  rcases c.get_cases k with ⟨e, -, -, hg⟩ | ⟨-, hg⟩ <;> rw [hg] <;> exact .still h rfl rfl rfl

theorem insert_eq_guarded (c : Cache κ α) (k : κ) (v : α) :
    (c.insert k v).2 = (c.insert k v).2.guarded c.pending c.running c.nextGuard :=
  congrArg Prod.snd (c.insert_guarded c.pending c.running c.nextGuard k v)

theorem Guarding.insert (h : c.Numbered) (k : κ) (v : α) : Guarding [] c (c.insert k v).2 := by
  rw [insert_eq_guarded]
  exact .still h rfl rfl rfl

theorem Guarding.clear (h : c.Numbered) : Guarding [.cleared] c c.clear.2 where
  numbered := h.sublist (List.nil_sublist _) (.refl _) rfl
  running := rfl
  nextGuard_le := Nat.le_refl _
  account _ _ _ := rfl
  fresh _ g hg := absurd hg.symm (Option.some_ne_none g)
  held _ _ _ _ hc := absurd List.mem_cons_self hc

theorem Guarding.append {h h' : List (CacheEpisode κ)} {e : Cache κ α} (hf : Guarding h c d)
    (hl : Guarding h' d e) : Guarding (h ++ h') c e where
  numbered := hl.numbered
  running := hl.running.trans hf.running
  nextGuard_le := hf.nextGuard_le.trans hl.nextGuard_le
  account k last hk := by
    rw [after_append]
    exact hl.account k _ (hf.account k last hk)
  fresh k g hg := by
    rcases hl.fresh k g hg with ⟨hg, hc'⟩ | hnew
    · rcases hf.fresh k g hg with ⟨hg, hc⟩ | hnew
      · exact .inl ⟨hg, fun hm => (List.mem_append.1 hm).elim hc hc'⟩
      · exact .inr hnew
    · exact .inr (hf.nextGuard_le.trans hnew)
  held k g hr hg hc := by
    rw [List.mem_append, not_or] at hc
    obtain ⟨hmid, hno⟩ := hf.held k g hr hg hc.1
    obtain ⟨hend, hno'⟩ := hl.held k g (hf.running.symm ▸ hr) hmid hc.2
    exact ⟨hend, fun progress hm => (List.mem_append.1 hm).elim (hno progress) (hno' progress)⟩

/-! ## The beginning and the end of a creation -/

/-- What the beginning of a creation does to guards. -/
structure Begins (c : Cache κ α) (k : κ) (g : GuardId) (d : Cache κ α) : Prop where
  numbered : d.Numbered
  running : d.running = g :: c.running
  nextGuard_le : c.nextGuard ≤ d.nextGuard
  holds : d.guard? k = some g
  others : ∀ j, j ≠ k → d.guard? j = c.guard? j
  /-- The guard was left by a failure, or it is new. -/
  origin : c.guard? k = some g ∨ (c.guard? k = none ∧ c.nextGuard ≤ g)
  free : g ∉ c.running

theorem guard?_guarded_append (c : Cache κ α) (k j : κ) (g : GuardId) (r : List GuardId)
    (n : GuardId) : (c.guarded (c.pending ++ [(k, g)]) r n).guard? j =
      (c.guard? j).or (if k = j then some g else none) := by
  rw [guard?, guarded, List.find?_append, Option.map_or, guard?]
  by_cases hj : k = j <;> simp [hj]

theorem guard?_guarded_filter (c : Cache κ α) (k j : κ) (r : List GuardId) (n : GuardId) :
    (c.guarded (c.pending.filter fun entry => entry.1 ≠ k) r n).guard? j =
      if j = k then none else c.guard? j := by
  rw [guard?, guarded, List.find?_filter, guard?]
  by_cases hj : j = k
  · rw [if_pos hj, Option.map_eq_none_iff, List.find?_eq_none]
    simp [hj]
  · rw [if_neg hj]
    congr 2
    funext entry
    by_cases he : entry.1 = j <;> simp [he, hj]

/-- Without a value and a guard the key gets a new guard, and the caller holds it. -/
theorem begin_of_new (hget : (c.get k).1 = none) (hguard : c.guard? k = none) :
    c.begin k = (.miss c.nextGuard, c.guarded (c.pending ++ [(k, c.nextGuard)])
      (c.nextGuard :: c.running) (c.nextGuard + 1)) := by
  unfold Cache.begin
  rw [show c.get k = (none, c) from Prod.ext hget (get_of_none hget)]
  dsimp only
  rw [hguard]
  rfl

/-- Without a value a guard that nobody holds is taken. -/
theorem begin_of_left (hget : (c.get k).1 = none) (hguard : c.guard? k = some g) :
    c.begin k = if g ∈ c.running then (.blocked, c)
      else (.miss g, c.guarded c.pending (g :: c.running) c.nextGuard) := by
  unfold Cache.begin
  rw [show c.get k = (none, c) from Prod.ext hget (get_of_none hget)]
  dsimp only
  rw [hguard]
  rfl

/-- A call that starts no creation is a look at its key. -/
theorem begin_of_no_miss (h : ∀ g, (c.begin k).1 ≠ .miss g) : (c.begin k).2 = (c.get k).2 := by
  cases hget : (c.get k).1 with
  | some v =>
    unfold Cache.begin
    rw [show c.get k = (some v, (c.get k).2) from Prod.ext hget rfl]
  | none =>
    rw [get_of_none hget]
    cases hguard : c.guard? k with
    | some g =>
      rw [begin_of_left hget hguard] at h ⊢
      split at h
      · rename_i hr
        rw [if_pos hr]
      · exact absurd rfl (h g)
    | none => exact absurd (congrArg Prod.fst (begin_of_new hget hguard)) (h _)

theorem Numbered.begins (h : c.Numbered) (hb : c.begin k = (.miss g, d)) : Begins c k g d := by
  have hnone := begin_miss hb
  cases hg : c.guard? k with
  | some x =>
    rw [begin_of_left hnone hg] at hb
    split at hb
    · cases hb
    · rename_i hfree
      cases hb
      refine ⟨⟨h.keys, h.guards, h.pending_lt, fun y hy => ?_⟩, rfl, Nat.le_refl _, hg,
        fun _ _ => rfl, .inl hg, hfree⟩
      rcases List.mem_cons.1 hy with rfl | hy
      · exact h.guard?_lt hg
      · exact h.running_lt y hy
  | none =>
    rw [begin_of_new hnone hg] at hb
    obtain ⟨hg', rfl⟩ := Prod.mk.inj hb
    obtain rfl : c.nextGuard = g := Start.miss.inj hg'
    have hguard := fun j => c.guard?_guarded_append k j c.nextGuard
      (c.nextGuard :: c.running) (c.nextGuard + 1)
    refine ⟨h.grown (guard?_eq_none_iff.1 hg), rfl, Nat.le_succ _, ?_, fun j hj => ?_,
      .inr ⟨hg, Nat.le_refl _⟩, fun hm => Nat.lt_irrefl _ (h.running_lt _ hm)⟩
    · exact (hguard k).trans (by rw [hg, if_pos rfl]; rfl)
    · exact (hguard j).trans (by rw [if_neg (Ne.symm hj), Option.or_none])

theorem Begins.progress?_self (h : Begins c k g d) : d.progress? k = some .underWay :=
  progress?_of_held h.holds (h.running ▸ List.mem_cons_self)

theorem Begins.progress?_of_ne (h : Begins c k g d) {j : κ} (hj : j ≠ k) :
    d.progress? j = c.progress? j := by
  refine progress?_congr (h.others j hj) fun x hx => ?_
  have hne : x ≠ g := by
    rintro rfl
    exact hj (h.numbered.key_eq h.holds ((h.others j hj).trans hx))
  rw [h.running, List.mem_cons, or_iff_right hne]

/-- The end of a creation for `k`, which lets go of its guard and touches no other one. -/
structure Ends (k : κ) (g : GuardId) (progress : CreationProgress) (c d : Cache κ α) : Prop where
  pending : d.pending.Sublist c.pending
  running : d.running = c.running.erase g
  nextGuard_eq : d.nextGuard = c.nextGuard
  others : ∀ j, c.guard? j ≠ some g → d.guard? j = c.guard? j
  own : c.guard? k = some g → d.progress? k = told? (some progress)

theorem Ends.progress?_of_ne {progress : CreationProgress} (h : Ends k g progress c d) {j : κ}
    (hj : c.guard? j ≠ some g) : d.progress? j = c.progress? j := by
  refine progress?_congr (h.others j hj) fun x hx => ?_
  have hne : x ≠ g := by
    rintro rfl
    exact hj hx
  rw [h.running, List.mem_erase_of_ne hne]

namespace Begins

variable {h : List (CacheEpisode κ)} {e e' : Cache κ α} {progress : CreationProgress}

theorem mem_running (hb : Begins c k g d) : g ∈ d.running := hb.running ▸ List.mem_cons_self

theorem erase_running (hb : Begins c k g d) (hi : Guarding h d e) :
    e.running.erase g = c.running := by
  rw [hi.running, hb.running, List.erase_cons_head]

/-- At its end a creation finds its guard at its own key, unless the cache was cleared. -/
theorem found_iff (hb : Begins c k g d) (hi : Guarding h d e) {j : κ} :
    e.guard? j = some g ↔ j = k ∧ .cleared ∉ h := by
  constructor
  · intro hg
    rcases hi.fresh j g hg with ⟨hj, hc⟩ | hnew
    · exact ⟨hb.numbered.key_eq hb.holds hj, hc⟩
    · exact absurd (hb.numbered.guard?_lt hb.holds) (Nat.not_lt.2 hnew)
  · rintro ⟨rfl, hc⟩
    exact (hi.held j g hb.mem_running hb.holds hc).1

section Whole

variable (hb : Begins c k g d) (hi : Guarding h d e) (he : Ends k g progress e e')

include hb hi he

theorem account_own (last : Option CreationProgress) :
    e'.progress? k = told? (after k last (.creation k progress :: h)) := by
  rw [after_creation_self]
  by_cases hc : .cleared ∈ h
  · -- The guard is gone, and what counts is what happened after the clearing.
    have hgone : e.guard? k ≠ some g := fun hg => ((hb.found_iff hi).1 hg).2 hc
    rw [he.progress?_of_ne hgone, after_of_cleared hc _ (some .underWay)]
    exact hi.account k _ hb.progress?_self
  · have hno := (hi.held k g hb.mem_running hb.holds hc).2
    rw [after_of_still hc hno]
    exact he.own ((hb.found_iff hi).2 ⟨rfl, hc⟩)

theorem account_of_ne {j : κ} (hj : j ≠ k) {last : Option CreationProgress}
    (ha : c.progress? j = told? last) :
    e'.progress? j = told? (after j last (.creation k progress :: h)) := by
  have hother : e.guard? j ≠ some g := fun hg => hj ((hb.found_iff hi).1 hg).1
  rw [he.progress?_of_ne hother, after_creation_of_ne hj.symm]
  exact hi.account j last ((hb.progress?_of_ne hj).trans ha)

theorem fresh {j : κ} {x : GuardId} (hx : e'.guard? j = some x) :
    (c.guard? j = some x ∧ .cleared ∉ CacheEpisode.creation k progress :: h) ∨
      c.nextGuard ≤ x := by
  have hbefore : e.guard? j = some x :=
    hi.numbered.guard?_eq_some_iff.2 (he.pending.subset (mem_pending_of_guard? hx))
  rcases hi.fresh j x hbefore with ⟨hd, hc⟩ | hnew
  · have hc' : .cleared ∉ CacheEpisode.creation k progress :: h := by simpa using hc
    by_cases hj : j = k
    · subst hj
      obtain rfl := Option.some.inj (hb.holds.symm.trans hd)
      exact hb.origin.imp (⟨·, hc'⟩) And.right
    · exact .inl ⟨(hb.others j hj).symm.trans hd, hc'⟩
  · exact .inr (hb.nextGuard_le.trans hnew)

theorem held {j : κ} {x : GuardId} (hr : x ∈ c.running) (hx : c.guard? j = some x)
    (hc : .cleared ∉ CacheEpisode.creation k progress :: h) :
    e'.guard? j = some x ∧ ∀ now, .creation j now ∉ CacheEpisode.creation k progress :: h := by
  have hxg : x ≠ g := by
    rintro rfl
    exact hb.free hr
  have hj : j ≠ k := by
    rintro rfl
    rcases hb.origin with ho | ⟨ho, -⟩
    · exact hxg (Option.some.inj (hx.symm.trans ho))
    · exact Option.some_ne_none x (hx.symm.trans ho)
  obtain ⟨hstays, hno⟩ := hi.held j x (hb.running ▸ List.mem_cons_of_mem _ hr)
    ((hb.others j hj).trans hx) fun hm => hc (List.mem_cons_of_mem _ hm)
  have hother : e.guard? j ≠ some g := fun hg => hj ((hb.found_iff hi).1 hg).1
  refine ⟨(he.others j hother).trans hstays, fun now hm => ?_⟩
  rcases List.mem_cons.1 hm with hsame | hm
  · exact hj (CacheEpisode.creation.inj hsame).1
  · exact hno now hm

/-- A creation as a whole, from its beginning, what its creator did meanwhile, and its end. -/
theorem guarding : Guarding (.creation k progress :: h) c e' where
  numbered := hi.numbered.sublist he.pending (he.running ▸ List.erase_sublist) he.nextGuard_eq
  running := he.running.trans (hb.erase_running hi)
  nextGuard_le := he.nextGuard_eq ▸ hb.nextGuard_le.trans hi.nextGuard_le
  account j last ha := by
    by_cases hj : j = k
    · exact hj ▸ hb.account_own hi he last
    · exact hb.account_of_ne hi he hj ha
  fresh _ _ := hb.fresh hi he
  held _ _ := hb.held hi he

end Whole

theorem fails (hb : Begins c k g d) (hi : Guarding h d e) :
    Guarding (.creation k .failed :: h) c (e.fail g) := by
  refine hb.guarding hi ⟨.refl _, rfl, rfl, fun _ _ => rfl, fun hg => ?_⟩
  have hrunning : (e.fail g).running = c.running := hb.erase_running hi
  exact progress?_of_left (c := e.fail g) hg (hrunning ▸ hb.free)

end Begins

theorem finish_guarded (c : Cache κ α) (k : κ) (g : GuardId) (v : α) :
    (c.finish k g v).2 = (c.insert k v).2.guarded
      (if c.guard? k = some g then c.pending.filter (fun entry => entry.1 ≠ k) else c.pending)
      (c.running.erase g) c.nextGuard := by
  unfold finish
  generalize (if c.guard? k = some g then c.pending.filter (fun entry => entry.1 ≠ k)
    else c.pending) = p
  show ((c.guarded p c.running c.nextGuard).insert k v).2.letGo g = _
  rw [insert_guarded]
  rfl

theorem Begins.succeeds {h : List (CacheEpisode κ)} {e : Cache κ α} (hb : Begins c k g d)
    (hi : Guarding h d e) (v : α) :
    Guarding (.creation k .succeeded :: h) c (e.finish k g v).2 := by
  rw [finish_guarded]
  split
  · rename_i hg
    have hguard := fun j => e.guard?_guarded_filter k j (e.running.erase g) e.nextGuard
    refine hb.guarding hi ⟨List.filter_sublist, rfl, rfl, fun j hj => ?_, fun _ => ?_⟩
    · refine (hguard j).trans (if_neg ?_)
      rintro rfl
      exact hj hg
    · exact congrArg (Option.map _) ((hguard k).trans (if_pos rfl))
  · rename_i hg
    exact hb.guarding hi ⟨.refl _, rfl, rfl, fun _ _ => rfl, fun hk => absurd hk hg⟩

end Cache

namespace CacheStep

open Cache

variable {κ α ε : Type} [DecidableEq κ]

mutual

/-- What a step does to the guards is told by its episodes. -/
theorem run_guarding (step : CacheStep κ α ε) {c : Cache κ α} (h : c.Numbered) :
    Guarding (step.episodes c) c (step.run c).2.cache := by
  cases step with
  | get k => exact .get h k
  | insert k v => exact .insert h k v
  | contains k => exact .refl h
  | clear => exact .clear h
  | describe family => exact .refl h
  | resolve k during outcome =>
    have hlook := c.begin_of_no_miss (k := k)
    have hcases := resolving c k during outcome
    rw [episodes]
    generalize ((resolve k during outcome).run c).1 = answer,
      ((resolve k during outcome).run c).2 = trace,
      (resolve k during outcome).stored c = stored at hcases ⊢
    cases hcases with
    | hit hb | stalls hb =>
      rw [hb] at hlook ⊢
      have hsame := hlook fun g he => by cases he
      subst hsame
      exact .get h k
    | fails hb ho =>
      rw [hb, ho]
      have hbegins := h.begins hb
      exact hbegins.fails (runAll_guarding during hbegins.numbered)
    | creates hb ho =>
      rw [hb, ho]
      have hbegins := h.begins hb
      exact hbegins.succeeds (runAll_guarding during hbegins.numbered) _

theorem runAll_guarding (steps : List (CacheStep κ α ε)) {c : Cache κ α} (h : c.Numbered) :
    Guarding (episodesAll steps c) c (runAll steps c).2.cache := by
  cases steps with
  | nil => exact .refl h
  | cons step rest =>
    have hfirst := run_guarding step h
    exact hfirst.append (runAll_guarding rest hfirst.numbered)

end

end CacheStep

namespace Cache

open CacheEpisode CreationProgress

variable {κ α ε : Type} [DecidableEq κ] {c d : Cache κ α} {p : CachePolicy}
  {told : List (CacheEpisode κ)} {k : κ}

/-! ## Every moment of a cache -/

/-- The states that a cache with the policy `p` can be in at any moment, also within creations that
have begun and have not ended, with the episodes until then. -/
inductive Told (ε : Type) (p : CachePolicy) : List (CacheEpisode κ) → Cache κ α → Prop
  | start : Told ε p [] (empty p)
  | step {told : List (CacheEpisode κ)} {c : Cache κ α} (step : CacheStep κ α ε)
    (h : Told ε p told c) : Told ε p (told ++ step.episodes c) (step.run c).2.cache
  | within {told : List (CacheEpisode κ)} {c d : Cache κ α} {k : κ} {g : GuardId}
    (h : Told ε p told c) (hb : c.begin k = (.miss g, d)) :
    Told ε p (told ++ [.creation k .underWay]) d

theorem Told.numbered (h : Told ε p told c) : c.Numbered := by
  induction h with
  | start => exact numbered_empty p
  | step step _ ih => exact (step.run_guarding ih).numbered
  | within _ hb ih => exact (ih.begins hb).numbered

/-- The guard of a key tells what became of the last creation for it. -/
theorem Told.account (h : Told ε p told c) (k : κ) : c.progress? k = told? (lastFor k told) := by
  induction h with
  | start => rfl
  | @step told c step h ih =>
    rw [lastFor, after_append]
    exact (step.run_guarding h.numbered).account k _ ih
  | @within told c d j g h hb ih =>
    have hbegins := h.numbered.begins hb
    rw [lastFor, after_append]
    by_cases hk : k = j
    · subst hk
      rw [after_creation_self]
      exact hbegins.progress?_self
    · rw [after_creation_of_ne (Ne.symm hk)]
      exact (hbegins.progress?_of_ne hk).trans ih

theorem Told.mem_keys_iff (h : Told ε p told c) (k : κ) : k ∈ c.pending.map Prod.fst ↔
    lastFor k told = some .underWay ∨ lastFor k told = some .failed := by
  have hnone : c.progress? k = none ↔ k ∉ c.pending.map Prod.fst := by
    rw [progress?, Option.map_eq_none_iff, guard?_eq_none_iff]
  rw [← not_iff_not, ← hnone, h.account]
  cases lastFor k told with
  | none => decide
  | some progress => cases progress <;> decide

theorem Told.mem_running_iff (h : Told ε p told c) {g : GuardId} (hm : (k, g) ∈ c.pending) :
    g ∈ c.running ↔ lastFor k told = some .underWay := by
  have hguard := h.numbered.guard?_eq_some_iff.2 hm
  have haccount := h.account k
  constructor
  · intro hr
    rw [progress?_of_held hguard hr] at haccount
    exact eq_some_of_told? haccount.symm
  · intro hl
    by_contra hr
    rw [progress?_of_left hguard hr, hl] at haccount
    exact absurd haccount (by decide)

/-- Where no last creation failed, each guard is held. -/
theorem Told.mem_running (h : Told ε p told c) (hno : ∀ k, lastFor k told ≠ some .failed)
    {g : GuardId} (hm : (k, g) ∈ c.pending) : g ∈ c.running := by
  have hlast := (h.mem_keys_iff k).1 (List.mem_map_of_mem hm)
  exact (h.mem_running_iff hm).2 (hlast.resolve_right (hno k))

/-! ## Keys that cannot be created -/

theorem get_guarded (c : Cache κ α) (pending : List (κ × GuardId)) (running : List GuardId)
    (n : GuardId) (k : κ) : ((c.guarded pending running n).get k).1 = (c.get k).1 := by
  have hfind : (c.guarded pending running n).find? k = c.find? k := rfl
  unfold get
  rw [hfind]
  cases c.find? k <;> rfl

/-- A failed creation leaves the new guard of its key, and nothing else. -/
theorem run_failing (hget : (c.get k).1 = none) (hk : k ∉ c.pending.map Prod.fst) (e : ε) :
    ((CacheStep.resolve k [] (.error e)).run c).2.cache =
      c.guarded (c.pending ++ [(k, c.nextGuard)]) c.running (c.nextGuard + 1) := by
  rw [CacheStep.run, begin_of_new hget (guard?_eq_none_iff.2 hk)]
  show c.guarded (c.pending ++ [(k, c.nextGuard)])
    ((c.nextGuard :: c.running).erase c.nextGuard) (c.nextGuard + 1) = _
  rw [List.erase_cons_head]

/-- So guards pile up: one for each key that cannot be created. -/
theorem runAll_failing (error : κ → ε) {ks : List κ} (hn : ks.Nodup)
    (hks : ∀ k ∈ ks, (c.get k).1 = none ∧ k ∉ c.pending.map Prod.fst) :
    let left := (CacheStep.runAll (ks.map fun k => .resolve k [] (.error (error k))) c).2.cache
    left.pending.map Prod.fst = c.pending.map Prod.fst ++ ks ∧
      left.values = c.values ∧ left.running = c.running := by
  induction ks generalizing c with
  | nil => exact ⟨(List.append_nil _).symm, rfl, rfl⟩
  | cons k rest ih =>
    obtain ⟨hfirst, hrest⟩ := List.nodup_cons.1 hn
    obtain ⟨hget, hk⟩ := hks k List.mem_cons_self
    let first := c.guarded (c.pending ++ [(k, c.nextGuard)]) c.running (c.nextGuard + 1)
    have hkeys : first.pending.map Prod.fst = c.pending.map Prod.fst ++ [k] := List.map_append
    have hnext : ∀ j ∈ rest, (first.get j).1 = none ∧ j ∉ first.pending.map Prod.fst := by
      intro j hj
      obtain ⟨hgetj, hkj⟩ := hks j (List.mem_cons_of_mem _ hj)
      rw [get_guarded, hkeys, List.mem_append, List.mem_singleton]
      exact ⟨hgetj, not_or.2 ⟨hkj, fun he => hfirst (he ▸ hj)⟩⟩
    obtain ⟨hpending, hvalues, hrunning⟩ := ih hrest hnext
    rw [List.map_cons, CacheStep.runAll_cons, run_failing hget hk]
    refine ⟨hpending.trans ?_, hvalues, hrunning⟩
    rw [hkeys, List.append_assoc, List.singleton_append]

/-! ## The guards of a cache -/

/-- At every moment a key has a guard if the last creation for it since the last clearing is under
way or failed, and a creation holds the guard in the first case only. So between calls the guards
left are those of the keys whose last creation failed. There are none if no creation ever failed,
but one more for each further key that cannot be created. -/
theorem guards_account (h : Told ε p told c) :
    (c.pending.map Prod.fst).Nodup ∧
    (∀ k, k ∈ c.pending.map Prod.fst ↔
      lastFor k told = some .underWay ∨ lastFor k told = some .failed) ∧
    (∀ k g, (k, g) ∈ c.pending → (g ∈ c.running ↔ lastFor k told = some .underWay)) ∧
    (c.running = [] → (c.pending = [] ↔ ∀ k, lastFor k told ≠ some .failed)) ∧
    ((∀ k, .creation k .failed ∉ told) →
      (∀ k g, (k, g) ∈ c.pending → g ∈ c.running) ∧ (c.running = [] → c.pending = [])) ∧
    ∀ (ks : List κ) (error : κ → ε), ks.Nodup →
      (∀ k ∈ ks, (c.get k).1 = none ∧ k ∉ c.pending.map Prod.fst) →
      let left := (CacheStep.runAll (ks.map fun k => .resolve k [] (.error (error k))) c).2.cache
      left.pending.map Prod.fst = c.pending.map Prod.fst ++ ks ∧
        left.values = c.values ∧ left.running = c.running := by
  have hidle : c.running = [] → (∀ k, lastFor k told ≠ some .failed) → c.pending = [] := by
    intro hr hno
    refine List.eq_nil_iff_forall_not_mem.2 fun entry hm => ?_
    have hheld := h.mem_running hno (k := entry.1) (g := entry.2) hm
    rw [hr] at hheld
    exact List.not_mem_nil hheld
  refine ⟨h.numbered.keys, h.mem_keys_iff, fun k g => h.mem_running_iff, fun hr => ⟨?_, hidle hr⟩,
    fun hno => ?_, fun ks error hn hks => runAll_failing error hn hks⟩
  · intro hp k hl
    have hkey := (h.mem_keys_iff k).2 (.inr hl)
    rw [hp] at hkey
    exact List.not_mem_nil hkey
  · have hlast : ∀ k, lastFor k told ≠ some .failed := by
      intro k hl
      exact hno k ((mem_of_after hl).resolve_left (by decide))
    exact ⟨fun k g => h.mem_running hlast, fun hr => hidle hr hlast⟩

/-- One creation failed and another one is under way. Both keys have a guard. -/
theorem guards_account_within :
    let failing : CacheStep Nat String Unit := .resolve 1 [] (.error ())
    let c := ((failing.run (empty .unbounded)).2.cache.begin 2).2
    Told Unit .unbounded [.creation 1 .failed, .creation 2 .underWay] c ∧
      1 ∈ c.pending.map Prod.fst ∧ 2 ∈ c.pending.map Prod.fst ∧ c.pending = [(1, 0), (2, 1)] ∧
      c.running = [1] := by
  intro failing c
  have hfailed : Told Unit .unbounded [.creation 1 .failed]
      (failing.run (empty .unbounded)).2.cache := Told.start.step failing
  have htold : Told Unit .unbounded [.creation 1 .failed, .creation 2 .underWay] c :=
    hfailed.within (g := 1) rfl
  have hkeys := (guards_account htold).2.1
  exact ⟨htold, (hkeys 1).2 (.inr rfl), (hkeys 2).2 (.inl rfl), rfl, rfl⟩

/-- A creation that failed is over, and its key still has a guard. -/
theorem guards_account_left :
    let failing : CacheStep Nat String Unit := .resolve 1 [] (.error ())
    let c := (failing.run (empty .unbounded)).2.cache
    c.running = [] ∧ c.pending = [(1, 0)] :=
  ⟨rfl, rfl⟩

end Cache

end ImageDispatch
