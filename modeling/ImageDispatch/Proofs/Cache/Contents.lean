import Mathlib.Data.List.Nodup
import ImageDispatch.Cache.Basic

/-!
# What a cache holds

The order in which entries are kept is of no interest to a user of a cache. This file says what
each operation does to the keys and values, whatever that order is.

* `Cache.Keyed`: no key has two entries. Every operation keeps it.
* `Cache.Insertion`: the three things that `insert` can do. It replaces the entry of the key, or
  evicts the entry that was used the longest ago, or adds an entry.
* `Cache.pairs_insert_perm`: what was there and the new pair are what is there and what left.
-/

namespace ImageDispatch

/-- The key with its value. -/
def CacheEntry.pair {κ α : Type} (e : CacheEntry κ α) : κ × α := (e.key, e.value)

namespace Cache

variable {κ α : Type} {c : Cache κ α}

/-- The keys with their values, in the order in which the keys came. -/
def pairs (c : Cache κ α) : List (κ × α) := c.entries.map CacheEntry.pair

/-- No key has two entries. -/
def Keyed (c : Cache κ α) : Prop := (c.entries.map CacheEntry.key).Nodup

theorem keyed_empty (p : CachePolicy) : (empty p : Cache κ α).Keyed := List.nodup_nil

theorem map_snd_pairs (c : Cache κ α) : c.pairs.map Prod.snd = c.values := by
  simp [pairs, values, CacheEntry.pair]

theorem not_isFull_zero (p : CachePolicy) : p.isFull 0 = false := by
  cases p with
  | unbounded => rfl
  | recent n h => simp [CachePolicy.isFull]; omega

/-- The cache with other guards. -/
def guarded (c : Cache κ α) (pending : List (κ × GuardId)) (running : List GuardId)
    (nextGuard : GuardId) : Cache κ α :=
  { c with pending, running, nextGuard }

@[simp] theorem values_guarded (c : Cache κ α) (p : List (κ × GuardId)) (r : List GuardId)
    (n : GuardId) : (c.guarded p r n).values = c.values := rfl

@[simp] theorem pairs_guarded (c : Cache κ α) (p : List (κ × GuardId)) (r : List GuardId)
    (n : GuardId) : (c.guarded p r n).pairs = c.pairs := rfl

theorem Keyed.guarded (h : c.Keyed) (p : List (κ × GuardId)) (r : List GuardId) (n : GuardId) :
    (c.guarded p r n).Keyed := h

/-- An entry parts the others into those before and those after it, which have other keys. -/
theorem split_entries {l : List (CacheEntry κ α)} (h : (l.map CacheEntry.key).Nodup)
    {e : CacheEntry κ α} (he : e ∈ l) :
    ∃ s t, l = s ++ e :: t ∧ (∀ x ∈ s, x.key ≠ e.key) ∧ ∀ x ∈ t, x.key ≠ e.key := by
  obtain ⟨s, t, rfl⟩ := List.append_of_mem he
  rw [List.map_append, List.map_cons, List.nodup_append] at h
  obtain ⟨-, ht, hs⟩ := h
  refine ⟨s, t, rfl, fun x hx => ?_, fun x hx e' => ?_⟩
  · exact hs _ (List.mem_map_of_mem hx) _ (by simp)
  · exact (List.nodup_cons.1 ht).1 (e' ▸ List.mem_map_of_mem hx)

theorem Keyed.split (h : c.Keyed) {e : CacheEntry κ α} (he : e ∈ c.entries) :
    ∃ s t, c.entries = s ++ e :: t ∧ (∀ x ∈ s, x.key ≠ e.key) ∧ ∀ x ∈ t, x.key ≠ e.key :=
  split_entries h he

theorem oldest?_isSome {l : List (CacheEntry κ α)} (h : l ≠ []) : ∃ o, oldest? l = some o := by
  cases l with
  | nil => exact absurd rfl h
  | cons e rest =>
    rw [oldest?]
    split
    · exact ⟨_, rfl⟩
    · split <;> exact ⟨_, rfl⟩

theorem oldest?_spec {l : List (CacheEntry κ α)} {o : CacheEntry κ α} (h : oldest? l = some o) :
    o ∈ l ∧ ∀ e ∈ l, o.used ≤ e.used := by
  induction l generalizing o with
  | nil => cases h
  | cons e rest ih =>
    rw [oldest?] at h
    split at h
    · rename_i hnone
      cases h
      have : rest = [] := by
        by_contra hne
        obtain ⟨o', ho'⟩ := oldest?_isSome hne
        rw [ho'] at hnone; cases hnone
      simp [this]
    · rename_i o' ho'
      obtain ⟨hmem, hle⟩ := ih ho'
      split at h
      · rename_i hlt
        cases h
        refine ⟨by simp, fun x hx => ?_⟩
        rcases List.mem_cons.1 hx with rfl | hx
        · exact Nat.le_refl _
        · exact Nat.le_trans hlt (hle x hx)
      · rename_i hlt
        cases h
        refine ⟨by simp [hmem], fun x hx => ?_⟩
        rcases List.mem_cons.1 hx with rfl | hx
        · omega
        · exact hle x hx

variable [DecidableEq κ]

/-! ## Entries of a key -/

theorem mem_of_find? {k : κ} {e : CacheEntry κ α} (h : c.find? k = some e) :
    e ∈ c.entries ∧ e.key = k :=
  ⟨List.mem_of_find?_eq_some h, by simpa using List.find?_some h⟩

theorem find?_eq_none {k : κ} : c.find? k = none ↔ ∀ e ∈ c.entries, e.key ≠ k := by
  simp [find?, List.find?_eq_none]

theorem replace_eq {e : CacheEntry κ α} {g : CacheEntry κ α → CacheEntry κ α}
    {s t : List (CacheEntry κ α)} (hs : ∀ x ∈ s, x.key ≠ e.key) (ht : ∀ x ∈ t, x.key ≠ e.key) :
    (s ++ e :: t).map (fun x => if x.key = e.key then g x else x) = s ++ g e :: t := by
  have keep : ∀ l : List (CacheEntry κ α), (∀ x ∈ l, x.key ≠ e.key) →
      l.map (fun x => if x.key = e.key then g x else x) = l := by
    intro l hl
    rw [List.map_congr_left fun x hx => if_neg (hl x hx), List.map_id']
  rw [List.map_append, List.map_cons, keep s hs, keep t ht, if_pos rfl]

theorem filter_key_ne {e : CacheEntry κ α} {s t : List (CacheEntry κ α)}
    (hs : ∀ x ∈ s, x.key ≠ e.key) (ht : ∀ x ∈ t, x.key ≠ e.key) :
    (s ++ e :: t).filter (fun x => x.key ≠ e.key) = s ++ t := by
  rw [List.filter_append, List.filter_cons_of_neg (by simp),
    List.filter_eq_self.2 (by simpa using hs), List.filter_eq_self.2 (by simpa using ht)]

/-! ## Uses -/

/-- What `get` does: it answers with the value of the key and stamps its entry. -/
theorem get_cases (c : Cache κ α) (k : κ) :
    (∃ e ∈ c.entries, e.key = k ∧ c.get k = (some e.value, c.touch k)) ∨
      ((∀ e ∈ c.entries, e.key ≠ k) ∧ c.get k = (none, c)) := by
  unfold get
  cases h : c.find? k with
  | some e => exact .inl ⟨e, (mem_of_find? h).1, (mem_of_find? h).2, rfl⟩
  | none => exact .inr ⟨find?_eq_none.1 h, rfl⟩

/-- A look for what is not there changes nothing. -/
theorem get_of_none {c : Cache κ α} {k : κ} (h : (c.get k).1 = none) : (c.get k).2 = c := by
  rcases c.get_cases k with ⟨e, -, -, hget⟩ | ⟨-, hget⟩
  · rw [hget] at h
    cases h
  · rw [hget]

@[simp] theorem values_touch (c : Cache κ α) (k : κ) : (c.touch k).values = c.values := by
  simp only [values, touch, List.map_map]
  exact List.map_congr_left fun e _ => by simp only [Function.comp_apply]; split <;> rfl

@[simp] theorem pairs_touch (c : Cache κ α) (k : κ) : (c.touch k).pairs = c.pairs := by
  simp only [pairs, touch, List.map_map]
  exact List.map_congr_left fun e _ => by simp only [Function.comp_apply]; split <;> rfl

theorem keys_touch (c : Cache κ α) (k : κ) :
    (c.touch k).entries.map CacheEntry.key = c.entries.map CacheEntry.key := by
  simp only [touch, List.map_map]
  exact List.map_congr_left fun e _ => by simp only [Function.comp_apply]; split <;> rfl

theorem Keyed.touch (h : c.Keyed) (k : κ) : (c.touch k).Keyed := by
  rw [Keyed, keys_touch]; exact h

@[simp] theorem values_get (c : Cache κ α) (k : κ) : (c.get k).2.values = c.values := by
  rcases c.get_cases k with ⟨e, -, -, h⟩ | ⟨-, h⟩ <;> simp [h]

theorem Keyed.get (h : c.Keyed) (k : κ) : (c.get k).2.Keyed := by
  rcases c.get_cases k with ⟨e, -, -, hg⟩ | ⟨-, hg⟩ <;> rw [hg]
  · exact h.touch k
  · exact h

theorem mem_values_of_get {k : κ} {v : α} (h : (c.get k).1 = some v) : v ∈ c.values := by
  rcases c.get_cases k with ⟨e, he, -, hg⟩ | ⟨-, hg⟩ <;> rw [hg] at h
  · cases h; exact List.mem_map_of_mem he
  · cases h

@[simp] theorem pairs_get (c : Cache κ α) (k : κ) : (c.get k).2.pairs = c.pairs := by
  rcases c.get_cases k with ⟨e, -, -, h⟩ | ⟨-, h⟩ <;> simp [h]

@[simp] theorem running_get (c : Cache κ α) (k : κ) : (c.get k).2.running = c.running := by
  rcases c.get_cases k with ⟨e, -, -, h⟩ | ⟨-, h⟩ <;> rw [h]; rfl

theorem mem_pairs_of_get {k : κ} {v : α} (h : (c.get k).1 = some v) : (k, v) ∈ c.pairs := by
  rcases c.get_cases k with ⟨e, he, rfl, hg⟩ | ⟨-, hg⟩ <;> rw [hg] at h
  · cases h; exact List.mem_map_of_mem he
  · cases h

theorem get_of_not_mem_pairs {k : κ} (h : ∀ v, (k, v) ∉ c.pairs) : (c.get k).1 = none := by
  rcases c.get_cases k with ⟨e, he, rfl, -⟩ | ⟨-, hg⟩
  · exact absurd (List.mem_map_of_mem he) (h e.value)
  · rw [hg]

theorem not_mem_pairs_of_get {k : κ} (h : (c.get k).1 = none) (v : α) : (k, v) ∉ c.pairs := by
  rcases c.get_cases k with ⟨e, -, -, hg⟩ | ⟨hk, -⟩
  · rw [hg] at h; cases h
  · intro hm
    obtain ⟨e, he, hp⟩ := List.mem_map.1 hm
    exact hk e he (congrArg Prod.fst hp)

/-! ## Insertion -/

/-- The entry of a value that is put in now. -/
def added (c : Cache κ α) (k : κ) (v : α) : CacheEntry κ α := ⟨k, v, c.clock⟩

/-- The cache with other entries, after one more use. -/
def ticked (c : Cache κ α) (entries : List (CacheEntry κ α)) : Cache κ α :=
  { c with entries, clock := c.clock + 1 }

/-- What `insert` can do, with its answer. -/
inductive Insertion (c : Cache κ α) (k : κ) (v : α) : Option (κ × α) × Cache κ α → Prop
  /-- It replaces the value of the key. -/
  | replaces {s t : List (CacheEntry κ α)} {e : CacheEntry κ α} (hc : c.entries = s ++ e :: t)
    (hk : e.key = k) (hs : ∀ x ∈ s, x.key ≠ k) (ht : ∀ x ∈ t, x.key ≠ k) :
    Insertion c k v (some e.pair, c.ticked (s ++ c.added k v :: t))
  /-- It evicts an entry that no other was used before. -/
  | evicts {s t : List (CacheEntry κ α)} {o : CacheEntry κ α} (hc : c.entries = s ++ o :: t)
    (hk : ∀ x ∈ c.entries, x.key ≠ k) (hf : c.policy.isFull c.size = true)
    (ho : ∀ x ∈ c.entries, o.used ≤ x.used) :
    Insertion c k v (some o.pair, c.ticked (s ++ t ++ [c.added k v]))
  | adds (hk : ∀ x ∈ c.entries, x.key ≠ k) (hf : c.policy.isFull c.size = false) :
    Insertion c k v (none, c.ticked (c.entries ++ [c.added k v]))

theorem Keyed.insertion (h : c.Keyed) (k : κ) (v : α) : c.Insertion k v (c.insert k v) := by
  unfold insert
  simp only
  split
  · rename_i e he
    obtain ⟨hmem, rfl⟩ := mem_of_find? he
    obtain ⟨s, t, hc, hs, ht⟩ := h.split hmem
    -- Distinct keys make the change of all entries of the key a change of one.
    have := Insertion.replaces (v := v) hc rfl hs ht
    rwa [ticked, ← replace_eq (g := fun _ => c.added e.key v) hs ht, ← hc] at this
  · rename_i hnone
    have hk := find?_eq_none.1 hnone
    split
    · rename_i hf
      have hne : c.entries ≠ [] := by
        intro e
        rw [size, e, List.length_nil, not_isFull_zero] at hf
        cases hf
      obtain ⟨o, ho⟩ := oldest?_isSome hne
      obtain ⟨hmem, hle⟩ := oldest?_spec ho
      obtain ⟨s, t, hc, hs, ht⟩ := h.split hmem
      have := Insertion.evicts (v := v) hc hk hf hle
      rw [ticked, ← filter_key_ne hs ht, ← hc] at this
      rw [ho]
      exact this
    · rename_i hf
      exact .adds hk (by simpa using hf)

theorem Keyed.insert (h : c.Keyed) (k : κ) (v : α) : (c.insert k v).2.Keyed := by
  have hi := h.insertion k v
  generalize c.insert k v = r at hi ⊢
  have hn := h
  rw [Keyed] at hn
  cases hi with
  | replaces hc hk =>
    rw [hc] at hn
    simpa [Keyed, ticked, added, ← hk] using hn
  | evicts hc hk =>
    have hk' : ∀ x ∈ c.entries.map CacheEntry.key, x ≠ k := by simpa using hk
    rw [hc] at hn hk'
    simp only [List.map_append, List.map_cons, List.nodup_append, List.nodup_cons] at hn
    grind [Keyed, ticked, added]
  | adds hk => grind [Keyed, ticked, added]

/-- Nothing gets lost: the new pair and what was there are what is there and what left. -/
theorem Keyed.pairs_insert_perm (h : c.Keyed) (k : κ) (v : α) :
    ((c.insert k v).1.toList ++ (c.insert k v).2.pairs).Perm ((k, v) :: c.pairs) := by
  have hi := h.insertion k v
  generalize c.insert k v = r at hi ⊢
  cases hi with
  | replaces hc =>
    simp only [pairs, ticked, hc, List.map_append, List.map_cons, Option.toList_some]
    exact ((List.perm_middle.cons _).trans (.swap _ _ _)).trans (List.perm_middle.symm.cons _)
  | evicts hc =>
    simp only [pairs, ticked, hc, List.map_append, List.map_cons, List.map_nil,
      Option.toList_some, List.append_assoc]
    refine (List.Perm.cons _ ?_).trans ((List.Perm.swap _ _ _).trans (List.perm_middle.symm.cons _))
    rw [← List.append_assoc]
    exact List.perm_append_singleton _ _
  | adds =>
    simp only [pairs, ticked, List.map_append, List.map_cons, List.map_nil, Option.toList_none,
      List.nil_append]
    exact List.perm_append_singleton _ _

/-- The new pair is there, with pairs that were there before. -/
theorem Keyed.mem_pairs_insert (h : c.Keyed) (k : κ) (v : α) :
    (k, v) ∈ (c.insert k v).2.pairs ∧
      ∀ p ∈ (c.insert k v).2.pairs, p = (k, v) ∨ p ∈ c.pairs := by
  refine ⟨?_, fun p hp => ?_⟩
  · have hi := h.insertion k v
    generalize c.insert k v = r at hi ⊢
    cases hi <;> simp [pairs, ticked, added, CacheEntry.pair]
  · exact List.mem_cons.1 ((h.pairs_insert_perm k v).mem_iff.1 (List.mem_append_right _ hp))

/-- What is put in is there, in any cache. -/
theorem mem_pairs_insert_self (c : Cache κ α) (k : κ) (v : α) :
    (k, v) ∈ (c.insert k v).2.pairs := by
  have appended : ∀ entries : List (CacheEntry κ α),
      (k, v) ∈ (entries ++ [(⟨k, v, c.clock⟩ : CacheEntry κ α)]).map CacheEntry.pair := by
    intro entries
    exact List.mem_map.2 ⟨⟨k, v, c.clock⟩, List.mem_append_right _ List.mem_cons_self, rfl⟩
  unfold insert
  cases hfind : c.find? k with
  | some old =>
    have hk : old.key = k := by
      have := List.find?_some (p := fun e : CacheEntry κ α => decide (e.key = k)) hfind
      exact of_decide_eq_true this
    have hmem : (if old.key = k then ⟨k, v, c.clock⟩ else old) ∈
        c.entries.map fun e => if e.key = k then (⟨k, v, c.clock⟩ : CacheEntry κ α) else e :=
      List.mem_map_of_mem (List.mem_of_find?_eq_some hfind)
    rw [if_pos hk] at hmem
    exact List.mem_map_of_mem hmem
  | none =>
    dsimp only
    split
    · split
      · exact appended _
      · exact appended []
    · exact appended _

theorem Keyed.running_insert (h : c.Keyed) (k : κ) (v : α) :
    (c.insert k v).2.running = c.running := by
  have hi := h.insertion k v
  generalize c.insert k v = r at hi ⊢
  cases hi <;> rfl

theorem Keyed.mem_values_insert (h : c.Keyed) (k : κ) (v x : α) :
    ((∃ p, (c.insert k v).1 = some p ∧ p.2 = x) ∨ x ∈ (c.insert k v).2.values) ↔
      x = v ∨ x ∈ c.values := by
  have := ((h.pairs_insert_perm k v).map Prod.snd).mem_iff (a := x)
  simpa [map_snd_pairs] using this

/-! ## Creation -/

/-- Guards do not matter to what is put in. -/
theorem insert_guarded (c : Cache κ α) (p : List (κ × GuardId)) (r : List GuardId) (n : GuardId)
    (k : κ) (v : α) :
    (c.guarded p r n).insert k v = ((c.insert k v).1, (c.insert k v).2.guarded p r n) := by
  unfold insert find? size guarded
  dsimp only
  split
  · rfl
  · split
    · split <;> rfl
    · rfl

/-- The beginning of a creation looks the key up, and changes guards only. -/
theorem begin_eq (c : Cache κ α) (k : κ) :
    ∃ p r n, (c.begin k).2 = (c.get k).2.guarded p r n := by
  unfold begin
  split
  · rename_i h
    exact ⟨_, _, _, by rw [h]; rfl⟩
  · rename_i h
    rw [h]
    split
    · split <;> exact ⟨_, _, _, rfl⟩
    · exact ⟨_, _, _, rfl⟩

/-- Where no creation runs, a call for a value is served or takes a guard. -/
theorem begin_idle (c : Cache κ α) (k : κ) (h : c.running = []) :
    (c.begin k).2.pairs = c.pairs ∧
      ((∃ v, (c.begin k).1 = .hit v ∧ (k, v) ∈ c.pairs ∧ (c.begin k).2.running = []) ∨
        ∃ g, (c.begin k).1 = .miss g ∧ (c.begin k).2.running = [g]) := by
  have hp := c.pairs_get k
  have hr := (c.running_get k).trans h
  unfold begin
  split
  · rename_i v c' hg
    rw [hg] at hp hr
    exact ⟨hp, .inl ⟨v, rfl, mem_pairs_of_get (by rw [hg]), hr⟩⟩
  · rename_i c' hg
    rw [hg] at hp hr
    refine ⟨?_, .inr ?_⟩ <;> split
    · rw [hr, if_neg (by simp)]; exact hp
    · exact hp
    · rename_i g _
      rw [hr, if_neg (by simp)]; exact ⟨g, rfl, rfl⟩
    · exact ⟨_, rfl, congrArg (List.cons _) hr⟩

/-- The end of a creation puts the value in, and changes guards only. -/
theorem finish_eq (c : Cache κ α) (k : κ) (g : GuardId) (v : α) :
    ∃ p n, c.finish k g v =
      ((c.insert k v).1, (c.insert k v).2.guarded p (c.running.erase g) n) := by
  let p := if c.guard? k = some g then c.pending.filter (fun p => p.1 ≠ k) else c.pending
  have h := c.insert_guarded p c.running c.nextGuard k v
  refine ⟨p, c.nextGuard, ?_⟩
  unfold finish
  show (((c.guarded p c.running c.nextGuard).insert k v).1,
    ((c.guarded p c.running c.nextGuard).insert k v).2.letGo g) = _
  rw [h]
  rfl

/-- A value that is served comes from the cache. -/
theorem mem_values_of_begin {k : κ} {v : α} (h : (c.begin k).1 = .hit v) : v ∈ c.values := by
  unfold begin at h
  split at h
  · rename_i v' c' hg
    cases h
    exact mem_values_of_get (k := k) (by rw [hg])
  · split at h
    · split at h <;> cases h
    · cases h

end Cache

end ImageDispatch
