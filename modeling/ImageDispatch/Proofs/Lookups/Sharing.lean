import ImageDispatch.Proofs.Attempts.Seclusion
import ImageDispatch.Proofs.Lookups.Course

/-!
# Sharing of implementations

With caches that are not bounded, the calls of a façade share implementations by their keys.

* `SharingKey`: what decides which calls share. It is read off the surfaces of a task
  (`Task.sharingKey`), and off the parameter of a metadata generator.
* `Lookup.Shares`: how an earlier lookup and a later one belong together.
* `World.Stocked`: each implementation is in one cache only, under one key.
  `World.Grows`: what a step of a dispatcher may do to the caches.
* `Lookup.Settled`: what is true of a lookup from its end on.
* `sharing_follows_key`: so the lookups of every run share.
-/

namespace ImageDispatch

open Act World

variable {σ : Type}

/-! ## Keys -/

/-- What decides which implementation serves a lookup of a façade. -/
inductive SharingKey
  /-- Of a conversion, composition or decomposition: both ends of the operation. -/
  | conversion (op : Operation) (inputSpace : ColorDescription) (inputFormat : PixelFormat)
    (outputSpace : ColorDescription) (outputFormat : PixelFormat)
  | generation (space : ColorDescription) (format : PixelFormat) (algorithm : GenerationAlgorithm)
  /-- The level that is attempted. -/
  | detail (level : DetailLevel)
  | hdr (format : PixelFormat)
  | contrast (kind : ContrastKind)
  deriving DecidableEq

/-- The key of a task of a façade with a parameter. -/
def Task.sharingKey (P : Option Parameter) (level : DetailLevel) : Task → SharingKey
  | convert input output =>
    .conversion .main input.description input.format output.description output.format
  | compose sdr _ image =>
    .conversion .compose sdr.description sdr.format image.description image.format
  | decompose image sdr _ =>
    .conversion .decompose image.description image.format sdr.description sdr.format
  | generate buffer =>
    .generation buffer.description buffer.format (Supply.generation P)
  | detail .. => .detail level
  | hdr buffer => .hdr buffer.format
  | contrast kind .. => .contrast kind

/-- The query for a key. -/
def SharingKey.query : SharingKey → Query
  | conversion .main s f t g => .convert ⟨s, f, t, g⟩
  | conversion .compose s f t g => .compose ⟨s, f, t, g⟩
  | conversion .decompose s f t g => .decompose ⟨s, f, t, g⟩
  | generation s f a => .generate ⟨s, f, a⟩
  | detail l => .detail l
  | hdr f => .hdr f
  | contrast k => .contrast k

/-- Keys that differ have other places in the caches of a façade. -/
theorem SharingKey.query_inj {a b : SharingKey} (hop : a.query.operation = b.query.operation)
    (hkey : a.query.key = b.query.key) : a = b := by
  cases a with
  | conversion op => cases b with
    | conversion op' => cases op <;> cases op' <;> cases hop <;> cases hkey <;> rfl
    | _ => cases op <;> cases hkey
  | _ => cases b with
    | conversion op' => cases op' <;> cases hkey
    | _ => cases hkey <;> rfl

theorem Task.query_sharingKey (P : Option Parameter) (level : DetailLevel) (task : Task) :
    (task.sharingKey P level).query = task.queryAt P level := by cases task <;> rfl

namespace Lookup

/-- What decides which implementation serves the lookup. -/
def key (l : Lookup σ) : SharingKey := l.task.sharingKey l.parameter l.level

theorem query_key (l : Lookup σ) : l.key.query = l.query := Task.query_sharingKey ..

/-- The lookup creates a new object. -/
def Creates (host : Host σ) (l : Lookup σ) : Prop :=
  ∃ o, (l.result host).1 = .ok o ∧ l.world.objects.size ≤ o

/-- How an earlier lookup and a later one belong together. -/
structure Shares (host : Host σ) (x y : Lookup σ) : Prop where
  /-- A façade that was served for a key is served by the same object for the key from then on. No
  query is answered, and nothing is created. -/
  served : ∀ o, (x.result host).1 = .ok o → x.facade = y.facade → x.key = y.key →
    (y.result host).1 = .ok o ∧ (y.result host).2.queries = y.world.queries ∧
      (y.result host).2.objects = y.world.objects
  /-- Lookups that are served share the object exactly if they are for one key of one façade. -/
  same_iff : ∀ o o', (x.result host).1 = .ok o → (y.result host).1 = .ok o' →
    (o = o' ↔ x.facade = y.facade ∧ x.key = y.key)
  /-- Only one of them creates for a key. -/
  created_once : x.facade = y.facade → x.key = y.key → ¬(x.Creates host ∧ y.Creates host)

end Lookup

/-! ## Caches that are not bounded -/

namespace Cache

variable {κ α : Type} [DecidableEq κ] {c : Cache κ α} {k : κ} {v : α}

theorem Keyed.get_of_mem_pairs (h : c.Keyed) (hm : (k, v) ∈ c.pairs) : (c.get k).1 = some v := by
  obtain ⟨e, he, hp⟩ := List.mem_map.1 hm
  obtain ⟨rfl, rfl⟩ := Prod.mk.inj hp
  rcases c.get_cases e.key with ⟨e', he', hk, hget⟩ | ⟨hk, -⟩
  · rw [hget, List.inj_on_of_nodup_map h he' he hk]
  · exact absurd rfl (hk e he)

theorem policy_get (c : Cache κ α) (k : κ) : (c.get k).2.policy = c.policy := by
  rcases c.get_cases k with ⟨e, -, -, h⟩ | ⟨-, h⟩ <;> rw [h]
  rfl

theorem policy_insert (c : Cache κ α) (k : κ) (v : α) : (c.insert k v).2.policy = c.policy := by
  unfold insert
  split
  · rfl
  · split
    · split <;> rfl
    · rfl

/-- A cache that is not bounded loses nothing when a new key comes. -/
theorem pairs_insert_of_unbounded (hp : c.policy = .unbounded) (hget : (c.get k).1 = none) (v : α) :
    (c.insert k v).2.pairs = c.pairs ++ [(k, v)] := by
  have hfind : c.find? k = none := by
    rcases c.get_cases k with ⟨e, -, -, h⟩ | ⟨hk, -⟩
    · rw [h] at hget
      cases hget
    · exact find?_eq_none.2 hk
  have hfull : c.policy.isFull c.size = false := by rw [hp]; rfl
  unfold insert
  rw [hfind]
  dsimp only
  rw [if_neg (by rw [hfull]; nofun)]
  exact List.map_append

end Cache

/-! ## Stocks -/

namespace World

variable {w w₁ v : World σ} {f f' : FacadeId} {op op' : Operation} {k k' : Key} {o : ObjectId}

theorem stocks_iff :
    w.Stocks f op k o ↔ ∃ c, w.cache? f op = some c ∧ (k, o) ∈ c.pairs := by
  constructor
  · rintro ⟨facade, hf, hm⟩
    exact ⟨_, cache?_eq_some.2 ⟨facade, hf, rfl⟩, hm⟩
  · rintro ⟨c, hc, hm⟩
    obtain ⟨facade, hf, rfl⟩ := cache?_eq_some.1 hc
    exact ⟨facade, hf, hm⟩

/-- No cache is bounded. -/
def Unbounded (w : World σ) : Prop := ∀ f op c, w.cache? f op = some c → c.policy = .unbounded

/-- Each implementation that is cached was created, and is in one cache under one key. -/
structure Stocked (w : World σ) : Prop where
  created : ∀ {f op k o}, w.Stocks f op k o → o < w.objects.size
  unique : ∀ {f op k f' op' k' o}, w.Stocks f op k o → w.Stocks f' op' k' o →
    f = f' ∧ op = op' ∧ k = k'

/-- From one world to the other façades may have gone or come, and one new object may have come into
a cache. -/
structure Grows (w v : World σ) : Prop where
  facades : w.facades.size ≤ v.facades.size
  objects : w.objects.size ≤ v.objects.size
  /-- What is cached was cached before, or it is new. -/
  stocks : ∀ {f op k o}, v.Stocks f op k o →
    w.Stocks f op k o ∨ w.objects.size ≤ o ∧ o < v.objects.size
  /-- What is new is in one place. -/
  fresh : ∀ {f op k f' op' k' o}, v.Stocks f op k o → v.Stocks f' op' k' o → w.objects.size ≤ o →
    f = f' ∧ op = op' ∧ k = k'
  /-- A façade that stays loses nothing. -/
  keeps : ∀ {f op c}, f < w.facades.size → v.cache? f op = some c →
    ∃ c', w.cache? f op = some c' ∧ c'.pairs ⊆ c.pairs
  unbounded : w.Unbounded → v.Unbounded

theorem Stocked.grows (h : w.Stocked) (hg : w.Grows v) : v.Stocked where
  created hs := (hg.stocks hs).elim (fun ho => (h.created ho).trans_le hg.objects) And.right
  unique hs hs' := by
    rcases hg.stocks hs with ho | ⟨hnew, -⟩
    · rcases hg.stocks hs' with ho' | ⟨hnew, -⟩
      · exact h.unique ho ho'
      · exact hg.fresh hs hs' hnew
    · exact hg.fresh hs hs' hnew

namespace Grows

/-- Without a lookup nothing comes into a cache. -/
theorem of_descends (hf : w.facades.size ≤ v.facades.size) (ho : w.objects.size ≤ v.objects.size)
    {p : CachePolicy} (hp : w.Unbounded → p = .unbounded) (hd : w.Descends p v)
    (hold : w.Stocked) : w.Grows v := by
  have stocks {f op k o} (hs : v.Stocks f op k o) : w.Stocks f op k o := by
    obtain ⟨c, hc, hm⟩ := stocks_iff.1 hs
    rcases hd hc with hc | ⟨-, rfl⟩
    · exact stocks_iff.2 ⟨c, hc, hm⟩
    · cases hm
  exact
    { facades := hf
      objects := ho
      stocks := fun hs => .inl (stocks hs)
      fresh := fun hs hs' _ => hold.unique (stocks hs) (stocks hs')
      keeps := fun {f op c} hlt hc => by
        rcases hd hc with hc | ⟨hnew, -⟩
        · exact ⟨c, hc, fun _ => id⟩
        · exact absurd hlt (Nat.not_lt.2 hnew)
      unbounded := fun hu f op c hc => by
        rcases hd hc with hc | ⟨-, rfl⟩
        · exact hu f op c hc
        · exact hp hu }

/-- A lookup may put one new object into the cache of its façade. -/
theorem of_looked {c c' : Cache Key ObjectId} {new : List Event} {n : Nat} (hold : w.Stocked)
    (hc : w.cache? f op = some c) (hl : w.Looked f op c' new n v) (hpolicy : c'.policy = c.policy)
    (hpairs : c'.pairs = c.pairs ∨
      ∃ o, c'.pairs = c.pairs ++ [(k, o)] ∧ w.objects.size ≤ o ∧ o < v.objects.size) :
    w.Grows v := by
  have stocks {f' op' k' o} (hs : v.Stocks f' op' k' o) : w.Stocks f' op' k' o ∨
      (f' = f ∧ op' = op ∧ k' = k) ∧ w.objects.size ≤ o ∧ o < v.objects.size := by
    obtain ⟨c₁, hc₁, hm⟩ := stocks_iff.1 hs
    rw [hl.caches] at hc₁
    split at hc₁
    next hplace =>
      obtain ⟨rfl, rfl⟩ := hplace
      cases hc₁
      rcases hpairs with hsame | ⟨o', hadded, hnew⟩
      · exact .inl (stocks_iff.2 ⟨c, hc, hsame ▸ hm⟩)
      · rw [hadded] at hm
        rcases List.mem_append.1 hm with hm | hm
        · exact .inl (stocks_iff.2 ⟨c, hc, hm⟩)
        · cases List.mem_singleton.1 hm
          exact .inr ⟨⟨rfl, rfl, rfl⟩, hnew⟩
    next => exact .inl (stocks_iff.2 ⟨c₁, hc₁, hm⟩)
  have hsub : c.pairs ⊆ c'.pairs := by
    rcases hpairs with hsame | ⟨o, hadded, -⟩
    · rw [hsame]
      exact fun _ => id
    · rw [hadded]
      exact List.subset_append_left _ _
  exact
    { facades := hl.facades.ge
      objects := hl.objects
      stocks := fun hs => (stocks hs).imp_right And.right
      fresh := fun hs hs' hnew => by
        have place {f' op' k'} (hs : v.Stocks f' op' k' _) : f' = f ∧ op' = op ∧ k' = k :=
          (stocks hs).elim (fun ho => absurd (hold.created ho) (Nat.not_lt.2 hnew)) And.left
        obtain ⟨rfl, rfl, rfl⟩ := place hs
        obtain ⟨rfl, rfl, rfl⟩ := place hs'
        exact ⟨rfl, rfl, rfl⟩
      keeps := fun {f' op' c₁} _ hc₁ => by
        rw [hl.caches] at hc₁
        split at hc₁
        next hplace =>
          obtain ⟨rfl, rfl⟩ := hplace
          cases hc₁
          exact ⟨c, hc, hsub⟩
        next => exact ⟨c₁, hc₁, fun _ => id⟩
      unbounded := fun hu f' op' c₁ hc₁ => by
        rw [hl.caches] at hc₁
        split at hc₁
        · cases hc₁
          exact hpolicy.trans (hu _ _ _ hc)
        · exact hu f' op' c₁ hc₁ }

theorem of_obtained {q : Query} {c : Cache Key ObjectId} {r : Except Error ObjectId}
    (hold : w.Stocked) (hu : w.Unbounded) (hc : w.cache? f q.operation = some c)
    (h : q.Obtained f c w r v) : w.Grows v := by
  cases h with
  | hit _ _ h => exact of_looked (k := q.key) hold hc h (c.policy_get _) (.inl (c.pairs_get _))
  | barred _ _ h => exact of_looked (k := q.key) hold hc h rfl (.inl rfl)
  | missing _ h => exact of_looked (k := q.key) hold hc h rfl (.inl rfl)
  | fails _ _ _ h => exact of_looked (k := q.key) hold hc h rfl (.inl rfl)
  | creates _ hget hnew hlt h =>
    exact of_looked hold hc h (c.policy_insert ..)
      (.inr ⟨_, Cache.pairs_insert_of_unbounded (hu _ _ _ hc) hget _, hnew, hlt⟩)

end Grows

end World

/-! ## Lookups that are over -/

/-- What is true of a lookup in a world that comes after it. -/
structure Lookup.Settled (host : Host σ) (w : World σ) (x : Lookup σ) : Prop where
  /-- Its façade is not one that is made later. -/
  known : x.facade < w.facades.size
  /-- The object that it was served exists, -/
  created : ∀ o, (x.result host).1 = .ok o → o < w.objects.size
  /-- is in the cache of the façade while that lasts, -/
  kept : ∀ o c, (x.result host).1 = .ok o → w.cache? x.facade x.query.operation = some c →
    (x.query.key, o) ∈ c.pairs
  /-- and nowhere else. -/
  only : ∀ o f op k, (x.result host).1 = .ok o → w.Stocks f op k o →
    f = x.facade ∧ op = x.query.operation ∧ k = x.query.key

namespace Lookup

variable {host : Host σ} {w v : World σ} {x l : Lookup σ} {facade : Facade}

theorem Settled.grows (h : x.Settled host w) (hg : w.Grows v) : x.Settled host v where
  known := h.known.trans_le hg.facades
  created o ho := (h.created o ho).trans_le hg.objects
  kept o c ho hc := by
    obtain ⟨c', hc', hsub⟩ := hg.keeps h.known hc
    exact hsub (h.kept o c' ho hc')
  only o f op k ho hs := by
    rcases hg.stocks hs with hs | ⟨hnew, -⟩
    · exact h.only o f op k ho hs
    · exact absurd (h.created o ho) (Nat.not_lt.2 hnew)

section

variable (hs : host.Secluded) (hf : l.world.facade? l.facade = some facade)

include hs hf

/-- A lookup is settled when it is over. -/
theorem settled (hold : l.world.Stocked) (hg : l.world.Grows (l.result host).2) :
    l.Settled host (l.result host).2 := by
  have hlt : l.facade < l.world.facades.size := by
    by_contra hge
    rw [World.facade?, Array.getElem?_eq_none (Nat.not_lt.1 hge)] at hf
    cases hf
  have stocks (o : ObjectId) (ho : (l.result host).1 = .ok o) :
      (l.result host).2.Stocks l.facade l.query.operation l.query.key o :=
    (hs.obtain_provides l.query l.world).stocks o ho
  exact
    { known := hlt.trans_le hg.facades
      created := fun o ho => (hold.grows hg).created (stocks o ho)
      kept := fun o c ho hc => by
        obtain ⟨c', hc', hm⟩ := stocks_iff.1 (stocks o ho)
        cases hc.symm.trans hc'
        exact hm
      only := fun o f op k ho hstocks => (hold.grows hg).unique hstocks (stocks o ho) }

/-- A lookup belongs together with each one that is over when it begins. -/
theorem Settled.shares (hx : x.Settled host l.world) (hi : l.world.Resting) : x.Shares host l := by
  have hc : l.world.cache? l.facade l.query.operation = _ := cache?_eq_some.2 ⟨facade, hf, rfl⟩
  have hk := (hi.cache hf l.query.operation).1
  have hobtained := l.obtained hs hi hf
  have served : ∀ o, (x.result host).1 = .ok o → x.facade = l.facade → x.key = l.key →
      (l.result host).1 = .ok o ∧ (l.result host).2.queries = l.world.queries ∧
        (l.result host).2.objects = l.world.objects := by
    intro o ho hfacade hkey
    have hquery : x.query = l.query := by rw [← query_key, hkey, query_key]
    have hget : ((facade.cache l.query.operation).get l.query.key).1 = some o := by
      have hmem := hx.kept o _ ho (by rw [hfacade, hquery]; exact hc)
      exact hk.get_of_mem_pairs (hquery ▸ hmem)
    generalize (l.result host).1 = r, (l.result host).2 = v at hobtained
    cases hobtained with
    | hit hget' hobjects h =>
      cases hget.symm.trans hget'
      exact ⟨rfl, h.queries, hobjects⟩
    | barred _ hnone | missing hnone | fails _ hnone | creates _ hnone =>
      cases hget.symm.trans hnone
  refine ⟨served, fun o o' ho ho' => ⟨?_, ?_⟩, ?_⟩
  · rintro rfl
    generalize (l.result host).1 = r, (l.result host).2 = v at hobtained ho'
    subst ho'
    cases hobtained with
    | hit hget =>
      obtain ⟨hfacade, hop, hkey⟩ := hx.only o _ _ _ ho
        (stocks_iff.2 ⟨_, hc, Cache.mem_pairs_of_get hget⟩)
      refine ⟨hfacade.symm, SharingKey.query_inj ?_ ?_⟩
      · rw [query_key, query_key, hop]
      · rw [query_key, query_key, hkey]
    | creates _ _ hnew => exact absurd (hx.created o ho) (Nat.not_lt.2 hnew)
  · rintro ⟨hfacade, hkey⟩
    exact Except.ok.inj ((served o ho hfacade hkey).1.symm.trans ho')
  · rintro hfacade hkey ⟨⟨o, ho, -⟩, o', ho', hnew⟩
    cases (served o ho hfacade hkey).1.symm.trans ho'
    exact absurd (hx.created o ho) (Nat.not_lt.2 hnew)

end

end Lookup

/-! ## Runs -/

namespace Host

variable {host : Host σ} {free : Prop} {w v : World σ} {ls : List (Lookup σ)}

/-- On a course the lookups share by their keys. -/
theorem Course.shares (hs : host.Secluded) (hpolicy : host.env.config.cachePolicy = .unbounded)
    (h : host.Course free w ls v) (hi : w.Resting) (hu : w.Unbounded) (hold : w.Stocked) :
    v.Unbounded ∧ v.Stocked ∧ (∀ x ∈ ls, x.Settled host v) ∧ ls.Pairwise (Lookup.Shares host) := by
  induction h with
  | refl => exact ⟨hu, hold, fun x hx => absurd hx List.not_mem_nil, .nil⟩
  | quiet _ hq ih =>
    obtain ⟨hu₁, hold₁, hsettled, hshares⟩ := ih
    have hg := Grows.of_descends hq.facades hq.objects (fun _ => hpolicy) hq.descends hold₁
    exact ⟨hg.unbounded hu₁, hold₁.grows hg, fun x hx => (hsettled x hx).grows hg, hshares⟩
  | aside _ _ hf ho ih =>
    obtain ⟨hu₁, hold₁, hsettled, hshares⟩ := ih
    have hg := Grows.of_descends (congrArg Array.size hf).ge ho (fun _ => hpolicy)
      (Quiet.descends_of_eq hf) hold₁
    exact ⟨hg.unbounded hu₁, hold₁.grows hg, fun x hx => (hsettled x hx).grows hg, hshares⟩
  | look l h hf ih =>
    obtain ⟨hu₁, hold₁, hsettled, hshares⟩ := ih
    have hrest := h.resting hs hi
    have hg : l.world.Grows (l.result host).2 :=
      .of_obtained hold₁ hu₁ (cache?_eq_some.2 ⟨_, hf, rfl⟩) (l.obtained hs hrest hf)
    refine ⟨hg.unbounded hu₁, hold₁.grows hg, fun x hx => ?_, ?_⟩
    · rcases List.mem_append.1 hx with hx | hx
      · exact (hsettled x hx).grows hg
      · rw [List.mem_singleton.1 hx]
        exact Lookup.settled hs hf hold₁ hg
    · refine List.pairwise_append.2 ⟨hshares, List.pairwise_singleton .., fun x hx y hy => ?_⟩
      rw [List.mem_singleton.1 hy]
      exact (hsettled x hx).shares hs hf hrest

end Host

/-- With caches that are not bounded, and code of others that does as it likes but asks nothing,
every run is a course with its lookups. They share by their keys, and by nothing else: neither the
rest of the surfaces nor other parameters matter. -/
theorem sharing_follows_key (env : Environment σ) (hpolicy : env.config.cachePolicy = .unbounded)
    (settings : Option (String → Option String)) (memory : σ) (steps : List ClientStep) :
    let host := Host.nested env 0
    let ls := World.lookups env settings steps { memory }
    host.Course True { memory } ls (World.after env 0 settings memory steps) ∧
      ls.Pairwise (Lookup.Shares host) := by
  intro host ls
  have hcourse : host.Course True { memory } ls (World.after env 0 settings memory steps) :=
    course_after env settings memory fun _ _ _ => trivial
  have hnone (f op c) : ({ memory } : World σ).cache? f op ≠ some c := by
    rw [World.cache?_start]
    nofun
  have hstocks (f op k o) : ¬({ memory } : World σ).Stocks f op k o := by
    rintro hs
    obtain ⟨c, hc, -⟩ := stocks_iff.1 hs
    exact hnone f op c hc
  have hold : ({ memory } : World σ).Stocked :=
    ⟨fun hs => (hstocks _ _ _ _ hs).elim, fun hs => (hstocks _ _ _ _ hs).elim⟩
  have hshares := hcourse.shares (Host.secluded_zero env) hpolicy (World.resting_start memory)
    (fun f op c hc => absurd hc (hnone f op c)) hold
  exact ⟨hcourse, hshares.2.2.2⟩

/-- An enhancer towards high dynamic range serves surfaces of one format by one object, also if they
are of other sizes, and those of another format by another one. -/
theorem sharing_follows_key_formats :
    let env := Environment.linked [⟨⟨.hdrEnhancer, "bright", "1"⟩,
      .hdr [⟨[.rgba8888, .bgra8888], .default, 1⟩], ⟨0⟩⟩]
    let work (s : Surface) := ClientStep.ask (.process 0 (.hdr s))
    let steps := [.ask (.facade .hdr), work (.packed 1 1 .rgba8888), work (.packed 2 3 .rgba8888),
      work (.packed 1 1 .bgra8888)]
    let ls := World.lookups env none steps { memory := () }
    env.config.cachePolicy = .unbounded ∧
      ls.map (fun l => (l.result (.nested env 0)).1.toOption) = [some 0, some 0, some 1] ∧
      ls.Pairwise (Lookup.Shares (.nested env 0)) := by
  intro env work steps ls
  exact ⟨rfl, by decide +kernel, (sharing_follows_key env rfl none () steps).2⟩

end ImageDispatch
