import Mathlib.Data.List.Dedup
import Mathlib.Data.List.Perm.Subperm
import ImageDispatch.Proofs.Cache.Refinement

/-!
# More room never costs more creations

Calls for the values of keys, made of a cache that is empty at the start, by creators that leave
the cache alone and do not fail. The same calls are made of caches of different policies.

* `Cache.callAll`: the calls, one after the other.
* `CachePolicy.keep`: what a policy leaves of a list of keys, the most recently used one first.
  Whatever the policy is, a cache has what is left of the keys that a cache without a bound has
  (`Trails.call`). One more call moves its key to the front of both lists.
* `Includes p q`: what a cache with the policy `p` keeps and finds, one with the policy `q` keeps
  and finds too. It starts fewer creators.
* `recent_includes`: so it is with two capacities, and with a capacity and no bound. With room for
  all the keys of the calls the bound is not felt at all.
-/

namespace ImageDispatch

namespace CachePolicy

variable {κ : Type}

/-- What is left of a list, the most recently used key first. -/
def keep (p : CachePolicy) (keys : List κ) : List κ :=
  match p with
  | unbounded => keys
  | recent n _ => keys.take n

/-- What is left of a list that fits is the list. -/
theorem keep_of_fits {p : CachePolicy} {keys : List κ}
    (h : ∀ n hn, p = .recent n hn → keys.length ≤ n) : p.keep keys = keys := by
  cases p with
  | unbounded => rfl
  | recent n hn => exact List.take_of_length_le (h n hn rfl)

/-- One policy leaves more than another. -/
def Within (p q : CachePolicy) : Prop :=
  match p, q with
  | _, unbounded => True
  | unbounded, recent _ _ => False
  | recent n _, recent m _ => n ≤ m

theorem Within.keep_subset {p q : CachePolicy} (h : p.Within q) (keys : List κ) :
    p.keep keys ⊆ q.keep keys := by
  cases p with
  | unbounded =>
    cases q with
    | unbounded => exact List.Subset.refl _
    | recent m hm => exact h.elim
  | recent n hn =>
    cases q with
    | unbounded => exact List.take_subset n keys
    | recent m hm => exact (List.take_sublist_take_left h).subset

variable [DecidableEq κ]

theorem take_erase (keys : List κ) (k : κ) (n : Nat) :
    ((keys.take (n + 1)).erase k).take n = (keys.erase k).take n := by
  induction keys generalizing n with
  | nil => rfl
  | cons a rest ih =>
    rw [List.take_succ_cons]
    by_cases ha : a = k
    · rw [ha, List.erase_cons_head, List.erase_cons_head, List.take_take, Nat.min_self]
    · rw [List.erase_cons_tail (by simpa using ha), List.erase_cons_tail (by simpa using ha)]
      cases n with
      | zero => rfl
      | succ n => rw [List.take_succ_cons, List.take_succ_cons, ih]

/-- A key that comes to the front of what is left comes to the front of all. -/
theorem keep_front (p : CachePolicy) (keys : List κ) (k : κ) :
    p.keep (k :: (p.keep keys).erase k) = p.keep (k :: keys.erase k) := by
  cases p with
  | unbounded => rfl
  | recent n hn =>
    obtain ⟨n, rfl⟩ := Nat.exists_eq_succ_of_ne_zero (Nat.pos_iff_ne_zero.1 hn)
    rw [keep, List.take_succ_cons, keep, take_erase]
    rfl

end CachePolicy

namespace RecencyList

variable {κ α : Type} [DecidableEq κ] {l : RecencyList κ α} {k : κ} {v : α}

/-- The keys, the most recently used one first. -/
def keys (l : RecencyList κ α) : List κ := l.map Prod.fst

theorem value?_isSome_iff : (l.value? k).isSome ↔ k ∈ l.keys := by
  simp [value?, keys]

theorem value?_eq_none : l.value? k = none ↔ k ∉ l.keys := by
  rw [← value?_isSome_iff, Option.not_isSome_iff_eq_none]

theorem keys_without (hn : l.keys.Nodup) (k : κ) : (l.without k).keys = l.keys.erase k := by
  rw [hn.erase_eq_filter, without, keys, keys, List.filter_map]
  congr 1
  exact List.filter_congr fun p _ => by simp [bne, beq_eq_decide]

theorem without_of_not_mem (h : k ∉ l.keys) : l.without k = l := by
  refine List.filter_eq_self.2 fun p hp => decide_eq_true fun e => h ?_
  exact e ▸ List.mem_map_of_mem hp

/-- A key that has a value comes to the front, and nothing has to leave. -/
theorem keys_front {policy : CachePolicy} (hn : l.keys.Nodup)
    (hfits : ∀ n h, policy = .recent n h → l.length ≤ n) (hk : k ∈ l.keys) (v : α) :
    keys ((k, v) :: l.without k) = policy.keep (k :: l.keys.erase k) := by
  have hkeys : keys ((k, v) :: l.without k) = k :: l.keys.erase k :=
    congrArg (k :: ·) (keys_without hn k)
  rw [hkeys, CachePolicy.keep_of_fits]
  intro n h hp
  have hlen : l.keys.length = l.length := List.length_map _
  have := hfits n h hp
  rw [List.length_cons, List.length_erase_of_mem hk, hlen]
  have : 0 < l.keys.length := List.length_pos_of_mem hk
  omega

/-- A new key comes in front, and the last one leaves if there is no room. -/
theorem keys_put {policy : CachePolicy}
    (hfits : ∀ n h, policy = .recent n h → l.length ≤ n) (hk : k ∉ l.keys) :
    (l.put policy k v).2.keys = policy.keep (k :: l.keys.erase k) := by
  rw [put, without_of_not_mem hk, List.erase_of_not_mem hk]
  cases policy with
  | unbounded => rfl
  | recent n h =>
    have hlen : l.keys.length = l.length := List.length_map _
    have := hfits n h rfl
    by_cases hfull : n < l.length + 1
    · have hn : n = l.length := by omega
      rw [if_pos (by simpa [exceeds] using hfull)]
      show (((k, v) :: l).dropLast).map Prod.fst = (k :: l.keys).take n
      rw [List.map_dropLast, List.dropLast_eq_take, List.map_cons, List.length_cons,
        List.length_map, Nat.add_sub_cancel, hn]
      rfl
    · rw [if_neg (by simpa [exceeds] using hfull)]
      exact (List.take_of_length_le (show l.keys.length + 1 ≤ n by omega)).symm

end RecencyList

namespace Cache

variable {κ α : Type} [DecidableEq κ]

/-- Calls for the values of keys, one after the other. Each creator does nothing but to return the
value beside its key. -/
def callSteps (ε : Type) (calls : List (κ × α)) : List (CacheStep κ α ε) :=
  calls.map fun call => .resolve call.1 [] (.ok call.2)

omit [DecidableEq κ] in
theorem callSteps_cons (ε : Type) (call : κ × α) (rest : List (κ × α)) :
    callSteps ε (call :: rest) = .resolve call.1 [] (.ok call.2) :: callSteps ε rest := rfl

/-- Makes the calls of a cache that is empty at the start. -/
def callAll (ε : Type) (p : CachePolicy) (calls : List (κ × α)) :
    List (CacheAnswer α ε) × CacheTrace κ α :=
  CacheStep.runAll (callSteps ε calls) (empty p)

/-- A call, made after others, finds its value. -/
def Finds (ε : Type) (p : CachePolicy) (done : List (κ × α)) (call : κ × α) : Prop :=
  ((CacheStep.resolve call.1 [] (.ok call.2 : Except ε α)).run
    (callAll ε p done).2.cache).2.events = [.hit call.1]

/-- The keys whose creators were started, in order. -/
def created (ε : Type) (p : CachePolicy) (calls : List (κ × α)) : List κ :=
  (callAll ε p calls).2.events.filterMap CacheEvent.started?

/-- In the calls a cache with the policy `q` keeps and finds what one with the policy `p` does, and
more. -/
structure Includes (ε : Type) (p q : CachePolicy) (calls : List (κ × α)) : Prop where
  /-- After any number of the calls. -/
  keeps : ∀ i k, (callAll ε p (calls.take i)).2.cache.contains k = true →
    (callAll ε q (calls.take i)).2.cache.contains k = true
  finds : ∀ i call, calls[i]? = some call → Finds ε p (calls.take i) call →
    Finds ε q (calls.take i) call
  creates : (created ε q calls).Sublist (created ε p calls)

variable {ε : Type} {c : Cache κ α} {l : RecencyList κ α} {p q : CachePolicy}

/-- A call of a cache that stands for a list. -/
theorem Idle.call (h : c.Idle p l) (k : κ) (v : α) :
    (∃ w, l.value? k = some w ∧
        (CacheStep.resolve k [] (.ok v : Except ε α)).run c =
          (.resolved (.served w) [], ⟨[.hit k], c.touch k⟩) ∧
        (c.touch k).Idle p ((k, w) :: l.without k)) ∨
      (l.value? k = none ∧ ∃ displaced after,
        (CacheStep.resolve k [] (.ok v : Except ε α)).run c =
          (.resolved (.served v) [],
            ⟨.missed k :: .started k :: CacheStep.displacement k displaced, after⟩) ∧
        (displaced.map Prod.snd).toList = (l.put p k v).1 ∧ after.Idle p (l.put p k v).2) := by
  rcases h.begin k with ⟨w, hw, hb, hi⟩ | ⟨hnone, g, pending, next, hb⟩
  · exact .inl ⟨w, hw, by simp only [CacheStep.run, hb], hi⟩
  · obtain ⟨hleft, hi⟩ := h.finish k g v pending next
    refine .inr ⟨hnone, _, _, ?_, hleft, hi⟩
    simp only [CacheStep.run, CacheStep.runAll, hb]
    rfl

omit [DecidableEq κ] in
theorem Idle.fits (h : c.Idle p l) : ∀ n hn, p = .recent n hn → l.length ≤ n := by
  intro n hn hp
  rw [h.follows.length]
  exact h.follows.fits n hn (h.policy_eq.trans hp)

/-! ## Caches that trail one list of keys -/

/-- The cache has what its policy leaves of the keys. -/
def Trails (c : Cache κ α) (p : CachePolicy) (keys : List κ) : Prop :=
  ∃ l, c.Idle p l ∧ l.keys = p.keep keys

variable {keys : List κ}

omit [DecidableEq κ] in
theorem trails_empty (p : CachePolicy) : (empty p : Cache κ α).Trails p [] := by
  refine ⟨[], idle_empty p, Eq.symm (CachePolicy.keep_of_fits ?_)⟩
  exact fun n _ _ => Nat.zero_le n

theorem Trails.contains (h : c.Trails p keys) (k : κ) :
    c.contains k = true ↔ k ∈ p.keep keys := by
  obtain ⟨l, hi, hl⟩ := h
  rw [hi.follows.contains, RecencyList.value?_isSome_iff, hl]

/-- A call moves its key to the front of the keys, whatever the policy is. It starts a creator when
the key was not left. -/
theorem Trails.call (h : c.Trails p keys) (k : κ) (v : α) :
    let trace := ((CacheStep.resolve k [] (.ok v : Except ε α)).run c).2
    trace.cache.Trails p (k :: keys.erase k) ∧
      ((k ∈ p.keep keys ∧ trace.events = [.hit k]) ∨
        (k ∉ p.keep keys ∧ ∃ displaced,
          trace.events = .missed k :: .started k :: CacheStep.displacement k displaced)) := by
  obtain ⟨l, hi, hl⟩ := h
  have hn : l.keys.Nodup := hi.follows.nodup_keys
  have hfront := p.keep_front keys k
  rcases hi.call (ε := ε) k v with ⟨w, hw, hrun, hnext⟩ | ⟨hw, displaced, after, hrun, -, hnext⟩
  · have hk : k ∈ l.keys := RecencyList.value?_isSome_iff.1 (by rw [hw]; rfl)
    have hkeys := RecencyList.keys_front hn hi.fits hk w
    rw [hrun]
    exact ⟨⟨_, hnext, by rw [hkeys, hl, hfront]⟩, .inl ⟨hl ▸ hk, rfl⟩⟩
  · have hk : k ∉ l.keys := RecencyList.value?_eq_none.1 hw
    have hkeys := RecencyList.keys_put (v := v) hi.fits hk
    rw [hrun]
    exact ⟨⟨_, hnext, by rw [hkeys, hl, hfront]⟩, .inr ⟨hl ▸ hk, displaced, rfl⟩⟩

/-- The keys of calls, the latest first. -/
def latest (keys : List κ) (calls : List (κ × α)) : List κ :=
  calls.foldl (fun keys call => call.1 :: keys.erase call.1) keys

theorem Trails.calls (h : c.Trails p keys) (calls : List (κ × α)) :
    (CacheStep.runAll (callSteps ε calls) c).2.cache.Trails p (latest keys calls) := by
  induction calls generalizing c keys with
  | nil => exact h
  | cons call rest ih => exact ih (h.call call.1 call.2).1

theorem callAll_trails (ε : Type) (p : CachePolicy) (calls : List (κ × α)) :
    (callAll ε p calls).2.cache.Trails p (latest [] calls) :=
  (trails_empty p).calls calls

theorem finds_iff (ε : Type) (p : CachePolicy) (done : List (κ × α)) (call : κ × α) :
    Finds ε p done call ↔ call.1 ∈ p.keep (latest [] done) := by
  rcases ((callAll_trails ε p done).call (ε := ε) call.1 call.2).2 with
    ⟨hk, he⟩ | ⟨hk, displaced, he⟩
  · exact ⟨fun _ => hk, fun _ => he⟩
  · refine ⟨fun hf => ?_, fun h => absurd h hk⟩
    rw [Finds, he] at hf
    cases hf

/-- Of two caches that trail the same keys, the one that keeps more starts fewer creators. -/
theorem Trails.created_sublist {d : Cache κ α} (hc : c.Trails p keys) (hd : d.Trails q keys)
    (hpq : p.Within q) (calls : List (κ × α)) :
    ((CacheStep.runAll (callSteps ε calls) d).2.events.filterMap CacheEvent.started?).Sublist
      ((CacheStep.runAll (callSteps ε calls) c).2.events.filterMap CacheEvent.started?) := by
  induction calls generalizing c d keys with
  | nil => exact .refl _
  | cons call rest ih =>
    obtain ⟨hc', hp⟩ := hc.call (ε := ε) call.1 call.2
    obtain ⟨hd', hq⟩ := hd.call (ε := ε) call.1 call.2
    have hrest := ih hc' hd'
    have hstarted : ∀ displaced : Option (κ × α),
        (CacheEvent.missed call.1 :: .started call.1 ::
          CacheStep.displacement call.1 displaced).filterMap CacheEvent.started? = [call.1] := by
      intro displaced
      exact congrArg (call.1 :: ·) (CacheEvent.filterMap_displacement call.1 displaced).1
    rw [callSteps_cons, CacheStep.runAll_cons, CacheStep.runAll_cons, List.filterMap_append,
      List.filterMap_append]
    refine List.Sublist.append ?_ hrest
    rcases hq with ⟨-, hq⟩ | ⟨hmiss, dq, hq⟩
    · rw [hq]
      exact List.nil_sublist _
    · rcases hp with ⟨hkept, -⟩ | ⟨-, dp, hp⟩
      · exact absurd (hpq.keep_subset keys hkept) hmiss
      · rw [hq, hp, hstarted, hstarted]

theorem includes_of_within (ε : Type) (hpq : p.Within q) (calls : List (κ × α)) :
    Includes ε p q calls where
  keeps i k hk := by
    rw [(callAll_trails ε p _).contains] at hk
    rw [(callAll_trails ε q _).contains]
    exact hpq.keep_subset _ hk
  finds i call _ hf := by
    rw [finds_iff] at hf ⊢
    exact hpq.keep_subset _ hf
  creates := (trails_empty p).created_sublist (trails_empty q) hpq calls

/-! ## Room for all keys -/

/-- A cache with room for all keys of its list and of a call. -/
theorem Idle.put_eq {all : List κ} (h : c.Idle p l) (hl : l.keys ⊆ all) {k : κ} (hk : k ∈ all)
    (hp : ∀ n hn, p = .recent n hn → all.length ≤ n) (hw : l.value? k = none) (v : α) :
    l.put p k v = ([], (k, v) :: l) := by
  have hnot : k ∉ l.keys := RecencyList.value?_eq_none.1 hw
  have hn : (k :: l.keys).Nodup := List.nodup_cons.2 ⟨hnot, h.follows.nodup_keys⟩
  have hroom : l.keys.length + 1 ≤ all.length :=
    (List.subperm_of_subset hn (List.cons_subset.2 ⟨hk, hl⟩)).length_le
  have hlen : l.keys.length = l.length := List.length_map _
  have hwithout : l.without k = l := RecencyList.without_of_not_mem hnot
  rw [put_eq_of_fits fun n hn hpn => ?_, hw, hwithout]
  · rfl
  · rw [hwithout]
    have := hp n hn hpn
    omega

/-- Two caches with the same list go on alike when neither policy lacks room for the keys. -/
theorem Idle.calls_eq {d : Cache κ α} {all : List κ} (hc : c.Idle p l) (hd : d.Idle q l)
    (hl : l.keys ⊆ all) (hp : ∀ n hn, p = .recent n hn → all.length ≤ n)
    (hq : ∀ n hn, q = .recent n hn → all.length ≤ n) (calls : List (κ × α))
    (hcalls : calls.map Prod.fst ⊆ all) :
    (CacheStep.runAll (callSteps ε calls) c).1 = (CacheStep.runAll (callSteps ε calls) d).1 ∧
      (CacheStep.runAll (callSteps ε calls) c).2.events =
        (CacheStep.runAll (callSteps ε calls) d).2.events := by
  induction calls generalizing c d l with
  | nil => exact ⟨rfl, rfl⟩
  | cons call rest ih =>
    obtain ⟨hk, hrest⟩ := List.cons_subset.1 hcalls
    rw [callSteps_cons, CacheStep.runAll_cons, CacheStep.runAll_cons]
    rcases hc.call (ε := ε) call.1 call.2 with ⟨w, hw, hcr, hc'⟩ | ⟨hw, x, c', hcr, hx, hc'⟩ <;>
      rcases hd.call (ε := ε) call.1 call.2 with ⟨w', hw', hdr, hd'⟩ | ⟨hw', y, d', hdr, hy, hd'⟩
    · obtain rfl : w = w' := Option.some.inj (hw.symm.trans hw')
      have hl' : RecencyList.keys ((call.1, w) :: l.without call.1) ⊆ all := by
        refine List.cons_subset.2 ⟨hk, fun k' hk' => hl ?_⟩
        exact ((List.filter_sublist).map Prod.fst).subset hk'
      obtain ⟨hanswers, hevents⟩ := ih hc' hd' hl' hrest
      rw [hcr, hdr]
      exact ⟨by rw [hanswers], by rw [hevents]⟩
    · rw [hw] at hw'
      cases hw'
    · rw [hw] at hw'
      cases hw'
    · rw [hc.put_eq hl hk hp hw] at hx hc'
      rw [hd.put_eq hl hk hq hw] at hy hd'
      -- Nothing is displaced in either cache.
      obtain rfl : x = none := by cases x with
        | none => rfl
        | some _ => cases hx
      obtain rfl : y = none := by cases y with
        | none => rfl
        | some _ => cases hy
      obtain ⟨hanswers, hevents⟩ := ih hc' hd' (List.cons_subset.2 ⟨hk, hl⟩) hrest
      rw [hcr, hdr]
      exact ⟨by rw [hanswers], by rw [hevents]⟩

/-- More room never costs more creations: what a cache keeps and finds, one with more room does
too, and it starts no other creators. With room for all keys that are called for, the bound is
not felt. -/
theorem recent_includes (ε : Type) (calls : List (κ × α)) {n m : Nat} (hn : 0 < n) (hnm : n ≤ m) :
    Includes ε (.recent n hn) (.recent m (hn.trans_le hnm)) calls ∧
      Includes ε (.recent m (hn.trans_le hnm)) .unbounded calls ∧
      ((calls.map Prod.fst).dedup.length ≤ n →
        (callAll ε (.recent n hn) calls).1 = (callAll ε .unbounded calls).1 ∧
          (callAll ε (.recent n hn) calls).2.events = (callAll ε .unbounded calls).2.events) := by
  refine ⟨includes_of_within ε (p := .recent n hn) (q := .recent m _) hnm calls,
    includes_of_within ε (q := .unbounded) trivial calls, fun hroom => ?_⟩
  refine (idle_empty _).calls_eq (idle_empty _) (List.nil_subset _) ?_ ?_ calls
    (List.subset_dedup _)
  · rintro n' - ⟨⟩
    exact hroom
  · rintro n' - ⟨⟩

/-- With room for two keys a cache finds what it creates twice with room for one. -/
theorem recent_includes_two :
    created Unit (.recent 1 (by decide)) [(1, "a"), (2, "b"), (1, "c")] = [1, 2, 1] ∧
      created Unit (.recent 2 (by decide)) [(1, "a"), (2, "b"), (1, "c")] = [1, 2] ∧
      Includes Unit (.recent 1 (by decide)) (.recent 2 (by decide))
        [(1, "a"), (2, "b"), (1, "c")] ∧
      (callAll Unit (.recent 2 (by decide)) [(1, "a"), (2, "b"), (1, "c")]).2.events =
        (callAll Unit .unbounded [(1, "a"), (2, "b"), (1, "c")]).2.events := by
  have hcalls := recent_includes Unit [(1, "a"), (2, "b"), (1, "c")] (n := 1) (m := 2)
    (by decide) (by decide)
  have hroom := recent_includes Unit [(1, "a"), (2, "b"), (1, "c")] (n := 2) (m := 2)
    (by decide) (by decide)
  exact ⟨by decide +kernel, by decide +kernel, hcalls.1, (hroom.2.2 (by decide)).2⟩

end Cache

end ImageDispatch
