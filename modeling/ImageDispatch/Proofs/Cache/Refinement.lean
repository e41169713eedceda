import ImageDispatch.Proofs.Cache.Recency

/-!
# A cache is a recency list

* `CacheUse`: a use of a cache by creators that leave it alone, and `CacheUse.run`: what is seen
  of it.
* `RecencyList.take`: what is to be seen, told by a list of pairs.
* `Cache.Idle`: the cache stands for a list, and no creation is under way. One use of the cache is
  one of the list then (`CacheUse.run_agrees`), and so are many (`CacheUse.runAll_follows`).
* `CacheUse.run_perm`: what a use brings in and what was there are what leaves and what is there.
  Nothing leaves twice.
* `CacheUse.refines_recencyList`: all of this for a cache that was empty at the start.
-/

namespace ImageDispatch

/-- A use of a cache. A creator does nothing but to return its outcome. -/
inductive CacheUse (κ α ε : Type)
  | get (k : κ)
  | insert (k : κ) (v : α)
  /-- Ask whether a key has a value. -/
  | contains (k : κ)
  | clear
  /-- Ask for the number of values. -/
  | size
  /-- Call for a value. Its creator returns `outcome`. -/
  | resolve (k : κ) (outcome : Except ε α)

/-- The reply to a use. -/
inductive CacheReply (α ε : Type)
  | answer (a : CacheAnswer α ε)
  | size (n : Nat)

/-- What is seen of a use. -/
structure CacheSight (κ α ε : Type) where
  reply : CacheReply α ε
  /-- The keys whose creators were started. -/
  started : List κ
  released : List α

namespace CacheEvent

variable {κ α : Type}

/-- The key whose creator was started. -/
def started? : CacheEvent κ α → Option κ
  | started k => some k
  | _ => none

/-- The value that left. -/
def released? : CacheEvent κ α → Option α
  | released v => some v
  | _ => none

theorem filterMap_released (values : List α) :
    (values.map (released (κ := κ))).filterMap started? = [] ∧
      (values.map (released (κ := κ))).filterMap released? = values := by
  simp [List.filterMap_map, started?, released?, Function.comp_def]

variable [DecidableEq κ]

/-- When a value gives way, that is all that leaves, and no creator is started. -/
theorem filterMap_displacement (k : κ) (displaced : Option (κ × α)) :
    (CacheStep.displacement k displaced).filterMap started? = [] ∧
      (CacheStep.displacement k displaced).filterMap released? =
        (displaced.map Prod.snd).toList := by
  unfold CacheStep.displacement
  cases displaced with
  | none => exact ⟨rfl, rfl⟩
  | some entry => cases Cache.evicted? k (some entry) <;> exact ⟨rfl, rfl⟩

end CacheEvent

namespace CacheSight

variable {κ α ε : Type}

/-- What is seen of a step with its answer and its events. -/
def ofEvents (a : CacheAnswer α ε) (events : List (CacheEvent κ α)) : CacheSight κ α ε where
  reply := .answer a
  started := events.filterMap CacheEvent.started?
  released := events.filterMap CacheEvent.released?

/-- The same is seen, save for the order in which values leave together. -/
structure Agrees (s s' : CacheSight κ α ε) : Prop where
  reply : s.reply = s'.reply
  started : s.started = s'.started
  released : s.released.Perm s'.released

theorem Agrees.refl (s : CacheSight κ α ε) : s.Agrees s := ⟨rfl, rfl, .refl _⟩

end CacheSight

namespace CacheUse

variable {κ α ε : Type} [DecidableEq κ]

/-- The step that a use is. -/
def step? : CacheUse κ α ε → Option (CacheStep κ α ε)
  | get k => some (.get k)
  | insert k v => some (.insert k v)
  | contains k => some (.contains k)
  | clear => some .clear
  | size => none
  | resolve k outcome => some (.resolve k [] outcome)

/-- Uses a cache. -/
def run (u : CacheUse κ α ε) (c : Cache κ α) : CacheSight κ α ε × Cache κ α :=
  match u.step? with
  | some step => (.ofEvents (step.run c).1 (step.run c).2.events, (step.run c).2.cache)
  | none => (⟨.size c.size, [], []⟩, c)

/-- The values that a use brings in, if the creators of the keys `started` are started in it. -/
def brings (u : CacheUse κ α ε) (started : List κ) : List α :=
  match u with
  | insert _ v => [v]
  | resolve _ (.ok v) => started.map fun _ => v
  | _ => []

/-- Uses a cache several times. -/
def runAll : List (CacheUse κ α ε) → Cache κ α → List (CacheSight κ α ε) × Cache κ α
  | [], c => ([], c)
  | u :: rest, c =>
    let (sight, c) := u.run c
    let (sights, c) := runAll rest c
    (sight :: sights, c)

end CacheUse

namespace RecencyList

variable {κ α ε : Type} [DecidableEq κ]

/-- Uses a list. A key that has a value comes to the front when it is looked up or called for. -/
def take (l : RecencyList κ α) (policy : CachePolicy) :
    CacheUse κ α ε → CacheSight κ α ε × RecencyList κ α
  | .get k =>
    match l.value? k with
    | some v => (⟨.answer (.found (some v)), [], []⟩, (k, v) :: l.without k)
    | none => (⟨.answer (.found none), [], []⟩, l)
  | .insert k v =>
    let (left, l) := l.put policy k v
    (⟨.answer .done, [], left⟩, l)
  | .contains k => (⟨.answer (.contained (l.value? k).isSome), [], []⟩, l)
  | .clear => (⟨.answer .done, [], l.map Prod.snd⟩, [])
  | .size => (⟨.size l.length, [], []⟩, l)
  | .resolve k outcome =>
    match l.value? k, outcome with
    | some v, _ => (⟨.answer (.resolved (.served v) []), [], []⟩, (k, v) :: l.without k)
    | none, .error e => (⟨.answer (.resolved (.failed e) []), [k], []⟩, l)
    | none, .ok v =>
      let (left, l) := l.put policy k v
      (⟨.answer (.resolved (.served v) []), [k], left⟩, l)

/-- Uses a list several times. -/
def takeAll (policy : CachePolicy) :
    List (CacheUse κ α ε) → RecencyList κ α → List (CacheSight κ α ε) × RecencyList κ α
  | [], l => ([], l)
  | u :: rest, l =>
    let (sight, l) := l.take policy u
    let (sights, l) := takeAll policy rest l
    (sight :: sights, l)

theorem take_perm {l : RecencyList κ α} (hn : (l.map Prod.fst).Nodup) (policy : CachePolicy)
    (u : CacheUse κ α ε) :
    ((l.take policy u).1.released ++ (l.take policy u).2.map Prod.snd).Perm
      (u.brings (l.take policy u).1.started ++ l.map Prod.snd) := by
  -- A pair that comes to the front has only its place changed.
  have front : ∀ {k v}, l.value? k = some v →
      (((k, v) :: l.without k).map Prod.snd).Perm (l.map Prod.snd) := by
    intro k v hv
    have := perm_without hn k
    rwa [hv] at this
  cases u with
  | get k =>
    cases hv : l.value? k with
    | some v => simp only [take, hv]; exact front hv
    | none => simp only [take, hv]; exact .refl _
  | insert k v => exact put_perm hn policy k v
  | contains k => exact .refl _
  | clear => exact .of_eq (List.append_nil _)
  | size => exact .refl _
  | resolve k outcome =>
    cases hv : l.value? k with
    | some v => cases outcome <;> (simp only [take, hv]; exact front hv)
    | none =>
      cases outcome with
      | error e => simp only [take, hv]; exact .refl _
      | ok v => simp only [take, hv]; exact put_perm hn policy k v

end RecencyList

namespace Cache

/-- The cache has the pairs of a list, with distinct keys and not too many. Whatever the next use
is, each value that is there or that it brings in leaves once, or it is there afterwards. -/
structure Holds {κ α : Type} [DecidableEq κ] (ε : Type) (c : Cache κ α) (policy : CachePolicy)
    (l : RecencyList κ α) : Prop where
  pairs : c.pairs.Perm l
  nodup : (l.map Prod.fst).Nodup
  fits : l.exceeds policy = false
  next : ∀ u : CacheUse κ α ε,
    ((u.run c).1.released ++ (u.run c).2.values).Perm (u.brings (u.run c).1.started ++ c.values)

variable {κ α : Type} {c : Cache κ α} {l : RecencyList κ α} {policy : CachePolicy}

/-! ## One use -/

/-- The cache stands for the list, and no creation is under way. -/
structure Idle (c : Cache κ α) (policy : CachePolicy) (l : RecencyList κ α) : Prop where
  follows : c.Follows l
  policy_eq : c.policy = policy
  running : c.running = []

theorem idle_empty (policy : CachePolicy) : (empty policy : Cache κ α).Idle policy [] where
  follows := follows_nil rfl
  policy_eq := rfl
  running := rfl

/-- The end of the only creation, without a value. -/
theorem Idle.fail (h : c.Idle policy l) (g : GuardId) (p : List (κ × GuardId)) (n : GuardId) :
    ((c.guarded p [g] n).fail g).Idle policy l :=
  ⟨h.follows.guarded _ _ _, h.policy_eq, List.erase_cons_head g []⟩

theorem Idle.clear (h : c.Idle policy l) : c.clear.2.Idle policy [] where
  follows := follows_nil rfl
  policy_eq := h.policy_eq
  running := h.running

variable [DecidableEq κ]

theorem Idle.touch (h : c.Idle policy l) {k : κ} {l' : RecencyList κ α}
    (hf : (c.touch k).Follows l') : (c.touch k).Idle policy l' :=
  ⟨hf, h.policy_eq, h.running⟩

theorem Idle.insert (h : c.Idle policy l) (k : κ) (v : α) :
    ((c.insert k v).1.map Prod.snd).toList = (l.put policy k v).1 ∧
      (c.insert k v).2.Idle policy (l.put policy k v).2 := by
  obtain ⟨hleft, hf⟩ := h.follows.insert k v
  obtain ⟨hp, hr⟩ := h.follows.insert_rest k v
  rw [h.policy_eq] at hleft hf
  exact ⟨hleft, hf, hp.trans h.policy_eq, hr.trans h.running⟩

/-- A creation that begins when none is under way finds the value, or holds the only guard. -/
theorem Idle.begin (h : c.Idle policy l) (k : κ) :
    (∃ v, l.value? k = some v ∧ c.begin k = (.hit v, c.touch k) ∧
        (c.touch k).Idle policy ((k, v) :: l.without k)) ∨
      (l.value? k = none ∧ ∃ g p n, c.begin k = (.miss g, c.guarded p [g] n)) := by
  unfold Cache.begin
  rcases h.follows.get k with ⟨v, hv, hg, hf⟩ | ⟨hv, hg⟩
  · exact .inl ⟨v, hv, by rw [hg], h.touch hf⟩
  · refine .inr ⟨hv, ?_⟩
    rw [hg]
    dsimp only
    split
    · rw [if_neg (by simp [h.running])]
      exact ⟨_, _, _, by rw [h.running]; rfl⟩
    · exact ⟨_, _, _, by rw [h.running]; rfl⟩

/-- The end of the only creation, with a value. -/
theorem Idle.finish (h : c.Idle policy l) (k : κ) (g : GuardId) (v : α)
    (p : List (κ × GuardId)) (n : GuardId) :
    (((c.guarded p [g] n).finish k g v).1.map Prod.snd).toList = (l.put policy k v).1 ∧
      ((c.guarded p [g] n).finish k g v).2.Idle policy (l.put policy k v).2 := by
  obtain ⟨hleft, hi⟩ := h.insert k v
  obtain ⟨p', n', he⟩ := (c.guarded p [g] n).finish_eq k g v
  rw [he, insert_guarded]
  exact ⟨hleft, hi.follows.guarded _ _ _, hi.policy_eq, List.erase_cons_head g []⟩

end Cache

namespace CacheUse

variable {κ α ε : Type} [DecidableEq κ] {c : Cache κ α} {l : RecencyList κ α}
  {policy : CachePolicy}

/-- One use of the cache is one of the list. -/
theorem run_agrees (h : c.Idle policy l) (u : CacheUse κ α ε) :
    (u.run c).1.Agrees (l.take policy u).1 ∧ (u.run c).2.Idle policy (l.take policy u).2 := by
  cases u with
  | get k =>
    rcases h.follows.get k with ⟨v, hv, hg, hf⟩ | ⟨hv, hg⟩
    · simp only [run, step?, CacheStep.run, RecencyList.take, hv, hg]
      exact ⟨.refl _, h.touch hf⟩
    · simp only [run, step?, CacheStep.run, RecencyList.take, hv, hg]
      exact ⟨.refl _, h⟩
  | insert k v =>
    obtain ⟨hleft, hi⟩ := h.insert k v
    obtain ⟨hs, hr⟩ := CacheEvent.filterMap_displacement k (c.insert k v).1
    simp only [run, step?, CacheStep.run, RecencyList.take]
    exact ⟨⟨rfl, hs, .of_eq (hr.trans hleft)⟩, hi⟩
  | contains k =>
    simp only [run, step?, CacheStep.run, RecencyList.take, h.follows.contains k]
    exact ⟨.refl _, h⟩
  | clear =>
    obtain ⟨hs, hr⟩ := CacheEvent.filterMap_released c.values
    simp only [run, step?, CacheStep.run, RecencyList.take]
    exact ⟨⟨rfl, hs, (List.Perm.of_eq hr).trans h.follows.values⟩, h.clear⟩
  | size =>
    simp only [run, step?, RecencyList.take, h.follows.length]
    exact ⟨.refl _, h⟩
  | resolve k outcome =>
    rcases h.begin k with ⟨v, hv, hb, hi⟩ | ⟨hv, g, p, n, hb⟩
    · simp only [run, step?, CacheStep.run, RecencyList.take, hv, hb]
      exact ⟨.refl _, hi⟩
    · cases outcome with
      | error e =>
        simp only [run, step?, CacheStep.run, CacheStep.runAll, RecencyList.take, hv, hb]
        exact ⟨.refl _, h.fail g p n⟩
      | ok v =>
        obtain ⟨hleft, hi⟩ := h.finish k g v p n
        obtain ⟨hs, hr⟩ :=
          CacheEvent.filterMap_displacement k ((c.guarded p [g] n).finish k g v).1
        simp only [run, step?, CacheStep.run, CacheStep.runAll, RecencyList.take, hv, hb]
        refine ⟨⟨rfl, ?_, .of_eq (Eq.trans ?_ hleft)⟩, hi⟩
        · exact congrArg (k :: ·) hs
        · exact hr

/-! ## Many uses -/

/-- Many uses of the cache are as many of the list. -/
theorem runAll_follows (uses : List (CacheUse κ α ε)) (h : c.Idle policy l) :
    List.Forall₂ CacheSight.Agrees (runAll uses c).1 (RecencyList.takeAll policy uses l).1 ∧
      (runAll uses c).2.Idle policy (RecencyList.takeAll policy uses l).2 := by
  induction uses generalizing c l with
  | nil => exact ⟨.nil, h⟩
  | cons u rest ih =>
    obtain ⟨hagrees, hnext⟩ := run_agrees h u
    obtain ⟨hall, hlast⟩ := ih hnext
    exact ⟨.cons hagrees hall, hlast⟩

open scoped List in
theorem run_perm (h : c.Idle policy l) (u : CacheUse κ α ε) :
    (u.run c).1.released ++ (u.run c).2.values ~ u.brings (u.run c).1.started ++ c.values := by
  obtain ⟨hagrees, hnext⟩ := run_agrees h u
  rw [hagrees.started]
  calc (u.run c).1.released ++ (u.run c).2.values
    _ ~ (l.take policy u).1.released ++ (l.take policy u).2.map Prod.snd :=
      hagrees.released.append hnext.follows.values
    _ ~ u.brings (l.take policy u).1.started ++ l.map Prod.snd :=
      RecencyList.take_perm h.follows.nodup_keys policy u
    _ ~ u.brings (l.take policy u).1.started ++ c.values := h.follows.values.symm.append_left _

/-- To its users a cache is a recency list: whatever they do with it, they see what they would see
of the list. -/
theorem refines_recencyList (policy : CachePolicy) (uses : List (CacheUse κ α ε)) :
    List.Forall₂ CacheSight.Agrees (runAll uses (.empty policy)).1
        (RecencyList.takeAll policy uses []).1 ∧
      (runAll uses (.empty policy)).2.Holds ε policy (RecencyList.takeAll policy uses []).2 := by
  obtain ⟨hall, hlast⟩ := runAll_follows uses (Cache.idle_empty policy)
  have hfits := hlast.follows.exceeds_eq_false
  rw [hlast.policy_eq] at hfits
  exact ⟨hall, hlast.follows.pairs_perm, hlast.follows.nodup_keys, hfits, run_perm hlast⟩

/-- A lookup keeps its key when the cache is full: another one gives way. -/
example :
    let uses : List (CacheUse Nat String Unit) :=
      [.insert 1 "a", .insert 2 "b", .get 1, .insert 3 "c"]
    ((runAll uses (.empty (.recent 2 (by decide)))).1.map CacheSight.released,
        (runAll uses (.empty (.recent 2 (by decide)))).2.pairs) =
      ([[], [], [], ["b"]], [(1, "a"), (3, "c")]) := by
  rfl

end CacheUse

end ImageDispatch
