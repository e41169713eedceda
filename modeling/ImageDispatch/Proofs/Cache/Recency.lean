import Mathlib.Data.List.Perm.Basic
import Mathlib.Data.List.Sort
import ImageDispatch.Cache.Script
import ImageDispatch.Proofs.Cache.Contents

/-!
# Recency lists

A recency list has pairs of keys and values, the most recently used one first. This is what a cache
is to its users.

* `RecencyList.value?`, `RecencyList.without`, `RecencyList.put`: the operations on such lists.
* `Cache.Ordered`: the entries of a cache in the order of their stamps, the latest first.
* `Cache.Follows c l`: the cache `c` stands for the list `l`. Each use of the cache is one of the
  list (`Follows.touch`, `Follows.insert`).
-/

namespace ImageDispatch

/-- Pairs of keys and values, the most recently used one first. -/
abbrev RecencyList (κ α : Type) := List (κ × α)

namespace RecencyList

variable {κ α : Type}

/-- The list has more pairs than a policy allows. -/
def exceeds (l : RecencyList κ α) (policy : CachePolicy) : Bool :=
  match policy with
  | .unbounded => false
  | .recent n _ => n < l.length

theorem exceeds_of_isFull {policy : CachePolicy} {l : RecencyList κ α} {m : Nat}
    (hf : policy.isFull m = true) (h : l.length = m + 1) : l.exceeds policy = true := by
  cases policy with
  | unbounded => cases hf
  | recent n hn =>
    have : n ≤ m := of_decide_eq_true hf
    exact decide_eq_true (by omega)

theorem exceeds_eq_false {policy : CachePolicy} {l : RecencyList κ α}
    (h : ∀ n hn, policy = .recent n hn → l.length ≤ n) : l.exceeds policy = false := by
  cases policy with
  | unbounded => rfl
  | recent n hn => exact decide_eq_false (by have := h n hn rfl; omega)

theorem perm_dropLast (l : RecencyList κ α) :
    ((l.getLast?.map Prod.snd).toList ++ l.dropLast.map Prod.snd).Perm (l.map Prod.snd) := by
  cases h : l.getLast? with
  | none => rw [List.getLast?_eq_none_iff.1 h]; exact .nil
  | some p =>
    conv => rhs; rw [← List.dropLast_append_getLast? p h]
    rw [List.map_append]
    exact List.perm_append_comm

variable [DecidableEq κ]

/-- The value of a key. -/
def value? (l : RecencyList κ α) (k : κ) : Option α := (l.find? fun p => p.1 = k).map Prod.snd

/-- The pairs of other keys. -/
def without (l : RecencyList κ α) (k : κ) : RecencyList κ α := l.filter fun p => p.1 ≠ k

/-- Puts a pair in front in the place of any old one of its key, and drops the last pair if the
list is too long then. Answers with the values that leave. -/
def put (l : RecencyList κ α) (policy : CachePolicy) (k : κ) (v : α) :
    List α × RecencyList κ α :=
  let old := (l.value? k).toList
  let new := (k, v) :: l.without k
  if exceeds new policy then (old ++ (new.getLast?.map Prod.snd).toList, new.dropLast)
  else (old, new)

theorem perm_without {l : RecencyList κ α} (hn : (l.map Prod.fst).Nodup) (k : κ) :
    ((l.value? k).toList ++ (l.without k).map Prod.snd).Perm (l.map Prod.snd) := by
  induction l with
  | nil => exact .nil
  | cons p rest ih =>
    rw [List.map_cons, List.nodup_cons] at hn
    by_cases hp : p.1 = k
    · have hv : value? (p :: rest) k = some p.2 := by simp [value?, hp]
      have hw : without (p :: rest) k = rest := by
        rw [without, List.filter_cons_of_neg (by simp [hp]), List.filter_eq_self]
        intro q hq
        have hne : p.1 ≠ q.1 := fun e => hn.1 (e ▸ List.mem_map_of_mem hq)
        exact decide_eq_true fun e => hne (hp.trans e.symm)
      rw [hv, hw]
      exact .refl _
    · have hv : value? (p :: rest) k = value? rest k := by simp [value?, hp]
      have hw : without (p :: rest) k = p :: without rest k := by simp [without, hp]
      rw [hv, hw]
      exact List.perm_middle.trans ((ih hn.2).cons p.2)

/-- What is put in and what was there are what leaves and what is there. -/
theorem put_perm {l : RecencyList κ α} (hn : (l.map Prod.fst).Nodup) (policy : CachePolicy)
    (k : κ) (v : α) :
    ((l.put policy k v).1 ++ (l.put policy k v).2.map Prod.snd).Perm (v :: l.map Prod.snd) := by
  have hold := List.perm_middle.trans ((perm_without hn k).cons v)
  unfold put
  dsimp only
  split
  · rw [List.append_assoc]
    exact ((perm_dropLast _).append_left _).trans hold
  · exact hold

end RecencyList

namespace Cache

variable {κ α : Type} {c : Cache κ α} {es : List (CacheEntry κ α)} {l : RecencyList κ α}

/-- The entries in the order of their stamps, the latest first. -/
structure Ordered (es : List (CacheEntry κ α)) (c : Cache κ α) : Prop where
  perm : es.Perm c.entries
  descends : es.Pairwise fun a b => b.used < a.used
  past : ∀ e ∈ es, e.used < c.clock

/-- An entry with the stamp of now comes in front, and others may go. -/
theorem Ordered.push (h : Ordered es c) {rest entries : List (CacheEntry κ α)}
    {a : CacheEntry κ α} (hs : rest.Sublist es) (ha : a.used = c.clock)
    (hp : (a :: rest).Perm entries) : Ordered (a :: rest) (c.ticked entries) := by
  refine ⟨hp, List.pairwise_cons.2 ⟨fun e he => ?_, h.descends.sublist hs⟩, fun e he => ?_⟩
  · rw [ha]; exact h.past e (hs.subset he)
  · show e.used < c.clock + 1
    rcases List.mem_cons.1 he with rfl | he
    · omega
    · exact Nat.lt_succ_of_lt (h.past e (hs.subset he))

/-- An entry that no other was used before is the last one. -/
theorem Ordered.oldest (h : Ordered es c) {o : CacheEntry κ α} (ho : o ∈ c.entries)
    (hle : ∀ e ∈ c.entries, o.used ≤ e.used) : ∃ rest, es = rest ++ [o] := by
  obtain ⟨s, t, rfl⟩ := List.append_of_mem (h.perm.mem_iff.2 ho)
  cases t with
  | nil => exact ⟨s, rfl⟩
  | cons e t =>
    have hlt : e.used < o.used :=
      (List.pairwise_cons.1 (List.pairwise_append.1 h.descends).2.1).1 e (by simp)
    have := hle e (h.perm.mem_iff.1 (by simp))
    omega

theorem Ordered.nodup (h : Ordered es c) (hk : c.Keyed) : (es.map CacheEntry.key).Nodup :=
  (h.perm.map _).nodup_iff.2 hk

theorem Ordered.length (h : Ordered es c) : es.length = c.size := h.perm.length_eq

/-- An entry that is replaced in its place, and in front of the list. -/
theorem perm_replace {e a : CacheEntry κ α} {s t s' t' : List (CacheEntry κ α)}
    (h : (s ++ e :: t).Perm (s' ++ e :: t')) : (a :: (s ++ t)).Perm (s' ++ a :: t') :=
  ((List.perm_cons e).1 (List.perm_middle.symm.trans (h.trans List.perm_middle))).cons a |>.trans
    List.perm_middle.symm

/-- The cache stands for a recency list (module doc). -/
structure Follows (c : Cache κ α) (l : RecencyList κ α) : Prop where
  keyed : c.Keyed
  fits : ∀ n h, c.policy = .recent n h → c.size ≤ n
  ordered : ∃ es, Ordered es c ∧ l = es.map CacheEntry.pair

theorem follows_nil (h : c.entries = []) : c.Follows [] where
  keyed := by rw [Keyed, h]; exact .nil
  fits n _ _ := by rw [size, h]; exact Nat.zero_le n
  ordered := ⟨[], ⟨by rw [h], .nil, by simp⟩, rfl⟩

theorem Follows.pairs_perm (h : c.Follows l) : c.pairs.Perm l := by
  obtain ⟨es, ho, rfl⟩ := h.ordered
  exact (ho.perm.map CacheEntry.pair).symm

theorem Follows.nodup_keys (h : c.Follows l) : (l.map Prod.fst).Nodup := by
  obtain ⟨es, ho, rfl⟩ := h.ordered
  rw [List.map_map]
  exact ho.nodup h.keyed

theorem Follows.guarded (h : c.Follows l) (p : List (κ × GuardId)) (r : List GuardId)
    (n : GuardId) : (c.guarded p r n).Follows l where
  keyed := h.keyed.guarded p r n
  fits := h.fits
  ordered := by
    obtain ⟨es, ho, hl⟩ := h.ordered
    exact ⟨es, ⟨ho.perm, ho.descends, ho.past⟩, hl⟩

theorem Follows.length (h : c.Follows l) : l.length = c.size := by
  rw [← h.pairs_perm.length_eq, pairs, List.length_map, size]

theorem Follows.values (h : c.Follows l) : c.values.Perm (l.map Prod.snd) := by
  rw [← map_snd_pairs]
  exact h.pairs_perm.map Prod.snd

theorem Follows.exceeds_eq_false (h : c.Follows l) : l.exceeds c.policy = false :=
  RecencyList.exceeds_eq_false fun n hn hp => h.length ▸ h.fits n hn hp

variable [DecidableEq κ]

section Lists

variable {e : CacheEntry κ α} {s t : List (CacheEntry κ α)} {k : κ}

theorem find?_pairs_none (h : ∀ x ∈ es, x.key ≠ k) :
    (es.map CacheEntry.pair).find? (fun p => p.1 = k) = none := by
  refine List.find?_eq_none.2 fun p hp => ?_
  obtain ⟨x, hx, rfl⟩ := List.mem_map.1 hp
  exact fun e => h x hx (of_decide_eq_true e)

theorem value?_split (hs : ∀ x ∈ s, x.key ≠ e.key) :
    RecencyList.value? ((s ++ e :: t).map CacheEntry.pair) e.key = some e.value := by
  have hnone : (s.map CacheEntry.pair).find? (fun p => p.1 = e.key) = none :=
    find?_pairs_none hs
  rw [RecencyList.value?, List.map_append, List.find?_append, hnone]
  simp [CacheEntry.pair]

theorem without_split (hs : ∀ x ∈ s, x.key ≠ e.key) (ht : ∀ x ∈ t, x.key ≠ e.key) :
    RecencyList.without ((s ++ e :: t).map CacheEntry.pair) e.key =
      (s ++ t).map CacheEntry.pair := by
  rw [RecencyList.without, List.filter_map]
  exact congrArg _ (filter_key_ne hs ht)

theorem value?_none (h : ∀ x ∈ es, x.key ≠ k) :
    RecencyList.value? (es.map CacheEntry.pair) k = none := by
  rw [RecencyList.value?, find?_pairs_none h]
  rfl

theorem without_none (h : ∀ x ∈ es, x.key ≠ k) :
    RecencyList.without (es.map CacheEntry.pair) k = es.map CacheEntry.pair := by
  rw [RecencyList.without, List.filter_eq_self]
  simpa [CacheEntry.pair] using h

end Lists

/-- The lookup of a key that has a value moves its pair to the front. -/
theorem Follows.touch (h : c.Follows l) {e : CacheEntry κ α}
    (he : e ∈ c.entries) : l.value? e.key = some e.value ∧
      (c.touch e.key).Follows ((e.key, e.value) :: l.without e.key) := by
  obtain ⟨es, ho, rfl⟩ := h.ordered
  obtain ⟨s, t, rfl, hs, ht⟩ := split_entries (ho.nodup h.keyed) (ho.perm.mem_iff.2 he)
  obtain ⟨s', t', hc, hs', ht'⟩ := h.keyed.split he
  refine ⟨value?_split hs, h.keyed.touch _, fun n hn hp => ?_,
    { e with used := c.clock } :: (s ++ t), ?_, ?_⟩
  · have := h.fits n hn hp
    simpa [size, Cache.touch] using this
  · have hperm := ho.perm
    rw [hc] at hperm
    have htouch : c.touch e.key = c.ticked (s' ++ { e with used := c.clock } :: t') := by
      rw [← replace_eq (g := fun x => { x with used := c.clock }) hs' ht', ← hc]
      rfl
    rw [htouch]
    exact ho.push ((List.sublist_cons_self e t).append_left s) rfl (perm_replace hperm)
  · rw [without_split hs ht]
    rfl

/-- A lookup in the cache is one in the list. -/
theorem Follows.get (h : c.Follows l) (k : κ) :
    (∃ v, l.value? k = some v ∧ c.get k = (some v, c.touch k) ∧
        (c.touch k).Follows ((k, v) :: l.without k)) ∨
      (l.value? k = none ∧ c.get k = (none, c)) := by
  rcases c.get_cases k with ⟨e, he, rfl, hg⟩ | ⟨hk, hg⟩
  · obtain ⟨hv, hf⟩ := h.touch he
    exact .inl ⟨e.value, hv, hg, hf⟩
  · obtain ⟨es, ho, rfl⟩ := h.ordered
    exact .inr ⟨value?_none fun x hx => hk x (ho.perm.mem_iff.1 hx), hg⟩

theorem Follows.contains (h : c.Follows l) (k : κ) : c.contains k = (l.value? k).isSome := by
  rcases h.get k with ⟨v, hv, hg, -⟩ | ⟨hv, hg⟩ <;> rw [hv] <;>
    unfold Cache.get at hg <;> unfold Cache.contains <;> cases hf : c.find? k <;>
    rw [hf] at hg <;> simp_all

/-- An insertion keeps the policy and the guards. -/
theorem Follows.insert_rest (h : c.Follows l) (k : κ) (v : α) :
    (c.insert k v).2.policy = c.policy ∧ (c.insert k v).2.running = c.running := by
  have hi := h.keyed.insertion k v
  generalize c.insert k v = r at hi ⊢
  cases hi <;> exact ⟨rfl, rfl⟩

theorem put_eq_of_fits {policy : CachePolicy} {v : α}
    (h : ∀ n hn, policy = .recent n hn → (l.without k).length + 1 ≤ n) :
    l.put policy k v = ((l.value? k).toList, (k, v) :: l.without k) := by
  rw [RecencyList.put, RecencyList.exceeds_eq_false h]
  rfl

theorem put_replaces {policy : CachePolicy} {e : CacheEntry κ α} {s t : List (CacheEntry κ α)}
    {v : α} (hs : ∀ x ∈ s, x.key ≠ e.key) (ht : ∀ x ∈ t, x.key ≠ e.key)
    (h : ∀ n hn, policy = .recent n hn → (s ++ e :: t).length ≤ n) :
    RecencyList.put ((s ++ e :: t).map CacheEntry.pair) policy e.key v =
      ([e.value], (e.key, v) :: (s ++ t).map CacheEntry.pair) := by
  have hfits : ∀ n hn, policy = .recent n hn →
      (RecencyList.without ((s ++ e :: t).map CacheEntry.pair) e.key).length + 1 ≤ n := by
    intro n hn hp
    have := h n hn hp
    rw [without_split hs ht]
    simp at this ⊢
    omega
  rw [put_eq_of_fits hfits, value?_split hs, without_split hs ht]
  rfl

theorem put_adds {policy : CachePolicy} {v : α} (hk : ∀ x ∈ es, x.key ≠ k)
    (h : ∀ n hn, policy = .recent n hn → es.length + 1 ≤ n) :
    RecencyList.put (es.map CacheEntry.pair) policy k v =
      ([], (k, v) :: es.map CacheEntry.pair) := by
  have hfits : ∀ n hn, policy = .recent n hn →
      (RecencyList.without (es.map CacheEntry.pair) k).length + 1 ≤ n := by
    intro n hn hp
    rw [without_none hk, List.length_map]
    exact h n hn hp
  rw [put_eq_of_fits hfits, value?_none hk, without_none hk]
  rfl

theorem put_evicts {policy : CachePolicy} {o : CacheEntry κ α} {v : α}
    (hk : ∀ x ∈ es ++ [o], x.key ≠ k) (hf : policy.isFull (es ++ [o]).length = true) :
    RecencyList.put ((es ++ [o]).map CacheEntry.pair) policy k v =
      ([o.value], (k, v) :: es.map CacheEntry.pair) := by
  have hexceeds : RecencyList.exceeds ((k, v) :: (es ++ [o]).map CacheEntry.pair) policy :=
    RecencyList.exceeds_of_isFull hf (by rw [List.length_cons, List.length_map])
  have hnew : (k, v) :: (es ++ [o]).map CacheEntry.pair =
      ((k, v) :: es.map CacheEntry.pair) ++ [o.pair] := by simp
  rw [RecencyList.put, value?_none hk, without_none hk, if_pos hexceeds, hnew,
    List.getLast?_concat, List.dropLast_concat]
  rfl

/-- To put a value in is to put its pair in front, and what leaves the cache leaves the list. -/
theorem Follows.insert (h : c.Follows l) (k : κ) (v : α) :
    ((c.insert k v).1.map Prod.snd).toList = (l.put c.policy k v).1 ∧
      (c.insert k v).2.Follows (l.put c.policy k v).2 := by
  have hkeyed := h.keyed.insert k v
  have hi := h.keyed.insertion k v
  obtain ⟨es, ho, rfl⟩ := h.ordered
  have hperm := ho.perm
  generalize c.insert k v = r at hi hkeyed ⊢
  cases hi with
  | @replaces s' t' e hc hk hs' ht' =>
    -- The old entry of the key parts the entries in both orders.
    subst hk
    have he : e ∈ c.entries := by rw [hc]; simp
    obtain ⟨s, t, rfl, hs, ht⟩ := split_entries (ho.nodup h.keyed) (ho.perm.mem_iff.2 he)
    rw [hc] at hperm
    rw [put_replaces hs ht fun n hn hp => ho.length ▸ h.fits n hn hp]
    refine ⟨rfl, hkeyed, fun n hn hp => ?_, c.added e.key v :: (s ++ t),
      ho.push ((List.sublist_cons_self e t).append_left s) rfl (perm_replace hperm), rfl⟩
    have := h.fits n hn hp
    rw [size, hc] at this
    simpa [size, ticked] using this
  | @evicts s' t' o hc hk hf hle =>
    have hk' : ∀ x ∈ es, x.key ≠ k := fun x hx => hk x (ho.perm.mem_iff.1 hx)
    -- The entry with the oldest stamp is the last of the list.
    obtain ⟨rest, rfl⟩ := ho.oldest (by rw [hc]; simp) hle
    rw [hc] at hperm
    rw [put_evicts hk' (by rw [ho.length]; exact hf)]
    refine ⟨rfl, hkeyed, fun n hn hp => ?_, c.added k v :: rest, ?_, rfl⟩
    · have := h.fits n hn hp
      rw [size, hc] at this
      simp [size, ticked] at this ⊢
      omega
    · refine ho.push (List.sublist_append_left rest _) rfl ?_
      have := perm_replace (a := c.added k v) hperm
      rw [List.append_nil] at this
      exact this.trans (List.perm_middle.trans (List.perm_append_singleton _ _).symm)
  | adds hk hf =>
    have hk' : ∀ x ∈ es, x.key ≠ k := fun x hx => hk x (ho.perm.mem_iff.1 hx)
    have hfits : ∀ n hn, c.policy = .recent n hn → c.size + 1 ≤ n := by
      intro n hn hp
      rw [hp] at hf
      exact Nat.lt_of_not_le (of_decide_eq_false hf)
    rw [put_adds hk' fun n hn hp => by rw [ho.length]; exact hfits n hn hp]
    refine ⟨rfl, hkeyed, fun n hn hp => ?_, c.added k v :: es,
      ho.push (List.Sublist.refl es) rfl ?_, rfl⟩
    · simpa [size, ticked] using hfits n hn hp
    · exact (ho.perm.cons _).trans (List.perm_append_singleton _ _).symm

end Cache

end ImageDispatch
