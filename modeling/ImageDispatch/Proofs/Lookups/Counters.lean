import ImageDispatch.Proofs.Attempts.Ladder
import ImageDispatch.Proofs.Lookups.Course

/-!
# The counters of lookups

Clients that look for implementations only through façades, and not through contrast enhancers, can
check the counters against each other.

* `totalOf`: the sum of the counters of a class.
* `Balance`: how the counters of some lookups belong together. The balances of two parts of a run
  add up (`Balance.append`), and one lookup has one of four.
* `counters_balance`: the counters of every run balance.
-/

namespace ImageDispatch

open Act World

variable {σ : Type}

/-! ## Sums of counters -/

/-- The sum of the counters of a class. -/
def totalOf (p : Counter → Bool) (events : List Event) : Nat :=
  (events.map fun
    | .count c n => if p c then n else 0
    | _ => 0).foldl (· + ·) 0

/-- The counter counts algorithms that were created and initialized. -/
def Counter.isCreation : Counter → Bool
  | creations _ => true
  | _ => false

/-- The counter counts algorithms that failed to be created or initialized. -/
def Counter.isInitFailure : Counter → Bool
  | initFailures _ => true
  | _ => false

section

variable {p : Counter → Bool}

theorem total_eq_totalOf (counter : Counter) (events : List Event) :
    total counter events = totalOf (fun c => c = counter) events := by
  unfold total totalOf
  refine congrArg (List.foldl (· + ·) 0) (List.map_congr_left fun e _ => ?_)
  cases e <;> simp

theorem totalOf_append (p : Counter → Bool) (events events' : List Event) :
    totalOf p (events ++ events') = totalOf p events + totalOf p events' := by
  unfold totalOf
  rw [← List.sum_eq_foldl, ← List.sum_eq_foldl, ← List.sum_eq_foldl, List.map_append,
    List.sum_append]

theorem totalOf_cons (p : Counter → Bool) (e : Event) (events : List Event) :
    totalOf p (e :: events) = totalOf p [e] + totalOf p events :=
  totalOf_append p [e] events

theorem totalOf_count (p : Counter → Bool) (c : Counter) (n : Nat) (events : List Event) :
    totalOf p (.count c n :: events) = (if p c then n else 0) + totalOf p events := by
  rw [totalOf_cons]
  exact congrArg (· + _) (Nat.zero_add _)

/-- Events that do not count for lookups do not matter. -/
theorem totalOf_filter (hp : ∀ c n, p c = true → (Event.count c n).isCounted = true)
    (events : List Event) : totalOf p (events.filter Event.isCounted) = totalOf p events := by
  induction events with
  | nil => rfl
  | cons e rest ih =>
    rw [List.filter_cons]
    split
    next => rw [totalOf_cons, ih, ← totalOf_cons]
    next he =>
      have hzero : totalOf p [e] = 0 := by
        cases e with
        | count c n => rw [totalOf_count, if_neg fun hc => he (hp c n hc)]; rfl
        | _ => rfl
      rw [totalOf_cons, ih, hzero, Nat.zero_add]

theorem total_filter (counter : Counter) (hc : ∀ n, (Event.count counter n).isCounted = true)
    (events : List Event) :
    total counter (events.filter Event.isCounted) = total counter events := by
  rw [total_eq_totalOf, total_eq_totalOf]
  refine totalOf_filter (fun c n hcounter => ?_) events
  rw [of_decide_eq_true hcounter]
  exact hc n

theorem total_append (counter : Counter) (events events' : List Event) :
    total counter (events ++ events') = total counter events + total counter events' := by
  simp only [total_eq_totalOf, totalOf_append]

end

/-! ## Kinds of façades -/

namespace FacadeKind

/-- The façades that count their lookups, one of each family. -/
def counting : List FacadeKind := [.converter, .metadata, .detail, .hdr]

/-- The type of the extensions behind the façade. -/
def type : FacadeKind → ExtensionType
  | converter => .converter
  | metadata => .metadataGenerator
  | detail | videoDetail => .detailEnhancer
  | hdr => .hdrEnhancer
  | contrast => .contrastEnhancer

theorem family_inj : ∀ k ∈ counting, ∀ k' ∈ counting, (k.family = k'.family ↔ k = k') := by decide

theorem type_inj : ∀ k ∈ counting, ∀ k' ∈ counting, (k.type = k'.type ↔ k = k') := by decide

end FacadeKind

/-! ## Balances -/

/-- How events count lookups of façades of the kinds `seekers`, of which `missing` did not find an
extension, while `n` queries were answered. -/
structure Balance (seekers : List FacadeKind) (missing n : Nat) (events : List Event) : Prop where
  /-- Each lookup is a hit or a miss of its family. -/
  lookups : ∀ kind ∈ FacadeKind.counting,
    total (.hits kind.family) events + total (.misses kind.family) events = seekers.count kind
  /-- Each miss is a query for the type of extension behind the family. -/
  misses : ∀ kind ∈ FacadeKind.counting,
    total (.misses kind.family) events = total (.queries kind.type) events
  /-- There are no other queries. -/
  queries : n =
    (FacadeKind.counting.map fun kind => total (.misses kind.family) events).foldl (· + ·) 0
  /-- Each query leads to a creation, or to a failure of the extension, or finds none. -/
  outcomes : n = totalOf Counter.isCreation events + totalOf Counter.isInitFailure events + missing

namespace Balance

variable {seekers seekers' : List FacadeKind} {missing missing' n n' : Nat}
  {events events' : List Event}

theorem nil : Balance [] 0 0 [] := ⟨by decide, by decide, rfl, rfl⟩

/-- Later events stand first. -/
theorem append (h : Balance seekers missing n events) (h' : Balance seekers' missing' n' events') :
    Balance (seekers ++ seekers') (missing + missing') (n + n') (events' ++ events) where
  lookups kind hk := by
    have := h.lookups kind hk
    have := h'.lookups kind hk
    rw [total_append, total_append, List.count_append]
    omega
  misses kind hk := by
    rw [total_append, total_append, h.misses kind hk, h'.misses kind hk]
  queries := by
    rw [h.queries, h'.queries]
    simp only [FacadeKind.counting, List.map_cons, List.map_nil, List.foldl_cons, List.foldl_nil,
      total_append]
    omega
  outcomes := by
    have := h.outcomes
    have := h'.outcomes
    rw [totalOf_append, totalOf_append]
    omega

/-- Events that do not count for lookups do not matter. -/
theorem of_filter (h : Balance seekers missing n (events.filter Event.isCounted)) :
    Balance seekers missing n events := by
  have hits (family : String) := total_filter (.hits family) (fun _ => rfl) events
  have misses (family : String) := total_filter (.misses family) (fun _ => rfl) events
  have queries (type : ExtensionType) := total_filter (.queries type) (fun _ => rfl) events
  have creations : totalOf Counter.isCreation _ = _ :=
    totalOf_filter (by rintro (_ | _) _ ⟨⟩; rfl) events
  have failures : totalOf Counter.isInitFailure _ = _ :=
    totalOf_filter (by rintro (_ | _) _ ⟨⟩; rfl) events
  obtain ⟨hlookups, hmisses, hqueries, houtcomes⟩ := h
  simp only [hits, misses, queries, creations, failures] at hlookups hmisses hqueries houtcomes
  exact ⟨hlookups, hmisses, hqueries, houtcomes⟩

section

variable {kind : FacadeKind} (hk : kind ∈ FacadeKind.counting)

include hk

theorem hit : Balance [kind] 0 0 [.count (.hits kind.family) 1] := by
  refine ⟨fun k hk' => ?_, fun k hk' => ?_, ?_, ?_⟩
  · simp [total_eq_totalOf, totalOf, FacadeKind.family_inj _ hk _ hk', List.count_singleton]
  · simp [total_eq_totalOf, totalOf]
  · simp [total_eq_totalOf, totalOf, FacadeKind.counting]
  · simp [totalOf, Counter.isCreation, Counter.isInitFailure]

theorem miss : Balance [kind] 1 1
    [.count (.queries kind.type) 1, .count (.misses kind.family) 1] := by
  refine ⟨fun k hk' => ?_, fun k hk' => ?_, ?_, ?_⟩
  · simp [total_eq_totalOf, totalOf, FacadeKind.family_inj _ hk _ hk', List.count_singleton]
  · simp [total_eq_totalOf, totalOf, FacadeKind.family_inj _ hk _ hk',
      FacadeKind.type_inj _ hk _ hk']
  · revert kind
    decide
  · simp [totalOf, Counter.isCreation, Counter.isInitFailure]

end

/-- An extension was found after all, and it is counted what came of it. -/
theorem settle (h : Balance seekers (missing + 1) n events) {c : Counter} {name : String}
    (hc : c = .creations name ∨ c = .initFailures name) :
    Balance seekers missing n (.count c 1 :: events) := by
  have other (counter : Counter) (hcreations : counter ≠ .creations name)
      (hfailures : counter ≠ .initFailures name) :
      total counter (.count c 1 :: events) = total counter events := by
    refine total_other ?_ events
    rintro _ ⟨⟩
    exact hc.elim hcreations hfailures
  have hits (family : String) := other (.hits family) nofun nofun
  have misses (family : String) := other (.misses family) nofun nofun
  have queries (type : ExtensionType) := other (.queries type) nofun nofun
  refine ⟨?_, ?_, ?_, ?_⟩
  · simpa only [hits, misses] using h.lookups
  · simpa only [misses, queries] using h.misses
  · simpa only [misses] using h.queries
  · have := h.outcomes
    rw [totalOf_count, totalOf_count]
    rcases hc with rfl | rfl <;> simp [Counter.isCreation, Counter.isInitFailure] <;> omega

end Balance

/-! ## Lookups -/

/-- No extension serves what is asked for. -/
def isMissing : Except Error ObjectId → Bool
  | .error e => e.isNotFound
  | .ok _ => false

/-- The query comes from a façade that counts its lookups. -/
def Query.IsCounted (q : Query) : Prop :=
  q.seeker ∈ FacadeKind.counting ∧ q.type = q.seeker.type

/-- Façades that are not for contrast count what they ask for. -/
theorem Task.isCounted {task : Task} (h : ∀ k input output, task ≠ .contrast k input output)
    (P : Option Parameter) (level : DetailLevel) : (task.queryAt P level).IsCounted := by
  cases task with
  | contrast k input output => exact absurd rfl (h k input output)
  | _ => exact ⟨by simp [queryAt, query, Query.seeker, FacadeKind.counting], rfl⟩

section

variable {q : Query} {f : FacadeId} {c : Cache Key ObjectId} {w v : World σ}
  {r : Except Error ObjectId}

/-- What one lookup counts balances. -/
theorem Query.Obtained.balance (h : q.Obtained f c w r v) (hq : q.IsCounted) :
    ∃ c' new n, w.Looked f q.operation c' new n v ∧
      Balance [q.seeker] (if isMissing r then 1 else 0) n new := by
  obtain ⟨hk, htype⟩ := hq
  have hne : q.seeker ≠ .contrast := by
    intro hcontrast
    rw [hcontrast] at hk
    revert hk
    decide
  have hhits : q.hits = [.count (.hits q.seeker.family) 1] := if_neg hne
  have hmiss : Balance [q.seeker] 1 1 (.count (.queries q.type) 1 :: q.misses) := by
    have hmisses : q.misses = [.count (.misses q.seeker.family) 1] := if_neg hne
    rw [hmisses, htype]
    exact .miss hk
  cases h with
  | hit _ _ h => exact ⟨_, _, _, h, hhits ▸ .hit hk⟩
  | barred hcontrast => exact absurd hcontrast hne
  | missing _ h => exact ⟨_, _, _, h, hmiss⟩
  | fails name _ he h =>
    rw [isMissing, he]
    exact ⟨_, _, _, h, hmiss.settle (.inr rfl)⟩
  | creates name _ _ _ h => exact ⟨_, _, _, h, hmiss.settle (.inl rfl)⟩

end

namespace Host

variable {host : Host σ} {w v : World σ} {ls : List (Lookup σ)}

/-- What is counted on a course without other queries balances. -/
theorem Course.balance (hs : host.Secluded) (h : host.Course False w ls v) (hw : w.Resting)
    (hls : ∀ l ∈ ls, l.query.IsCounted) :
    ∃ new n, v.counted = new ++ w.counted ∧ v.queries = w.queries + n ∧
      Balance (ls.map fun l => l.query.seeker) (ls.countP fun l => isMissing (l.result host).1) n
        new := by
  induction h with
  | refl => exact ⟨[], 0, rfl, rfl, .nil⟩
  | quiet _ hq ih =>
    obtain ⟨new, n, hc, hn, hb⟩ := ih hls
    exact ⟨new, n, hq.counted.trans hc, hq.queries.trans hn, hb⟩
  | aside _ hfree => exact hfree.elim
  | look l h hf ih =>
    obtain ⟨new, n, hc, hn, hb⟩ := ih fun l' hl' => hls l' (List.mem_append_left _ hl')
    obtain ⟨c', new', n', hl, hb'⟩ := (l.obtained hs (h.resting hs hw) hf).balance
      (hls l (List.mem_append_right _ List.mem_cons_self))
    refine ⟨new' ++ new, n + n', ?_, ?_, ?_⟩
    · exact hl.counted.trans (by rw [hc, List.append_assoc])
    · exact hl.queries.trans (by rw [hn, Nat.add_assoc])
    · rw [List.map_append, List.countP_append, List.map_singleton, List.countP_singleton]
      exact hb.append hb'

theorem Course.gauged (hs : host.Secluded) (h : host.Course False w ls v) (hw : w.Resting)
    (hg : w.Gauged) : v.Gauged := by
  induction h with
  | refl => exact hg
  | quiet _ hq ih => exact hq.gauged ih
  | aside _ hfree => exact hfree.elim
  | look l h hf ih =>
    have hrest := h.resting hs hw
    obtain ⟨hk, hr⟩ := hrest.cache hf l.query.operation
    obtain ⟨c', new, n, hl, -⟩ := (l.obtained hs hrest hf).looked hk hr
    intro m hm
    exact (ih m (hl.users.symm.trans hm)).trans hl.instances.symm

end Host

/-! ## Runs -/

/-- The client looks for implementations only through façades, and not through contrast
enhancers. -/
def ClientStep.ThroughFacades : ClientStep → Prop
  | ask (.find _) | ask (.create _) | ask (.process _ (.contrast ..)) => False
  | _ => True

theorem ClientStep.ThroughFacades.task {step : ClientStep} (h : step.ThroughFacades) {f : FacadeId}
    {task : Task} (hwork : step.MayWork f task) (k : ContrastKind) (input output : Surface) :
    task ≠ .contrast k input output := by
  rintro rfl
  cases step with
  | ask r =>
    cases hwork
    exact h
  | processImage family =>
    obtain ⟨source, target, htask⟩ := hwork
    cases family <;> cases htask
  | _ => exact hwork

theorem ClientStep.ThroughFacades.not_bypasses {step : ClientStep} (h : step.ThroughFacades) :
    ¬step.Bypasses := by
  cases step with
  | ask r => cases r <;> first | exact id | exact fun _ => h
  | _ => exact id

/-- Clients look for implementations only through façades, and not through contrast enhancers. Code
of others does as it likes, but asks nothing. Then the counters balance after every run, with the
lookups of the run, and the number of users of the vendor library that was told last is right. -/
theorem counters_balance (env : Environment σ) (settings : Option (String → Option String))
    (memory : σ) {steps : List ClientStep} (h : ∀ step ∈ steps, step.ThroughFacades) :
    let host := Host.nested env 0
    let w := World.after env 0 settings memory steps
    let ls := World.lookups env settings steps { memory }
    Balance (ls.map fun l => l.query.seeker) (ls.countP fun l => isMissing (l.result host).1)
        w.queries w.journal ∧
      ∀ n, lastValue? .vendorInstances w.journal.reverse = some n → n = w.instances := by
  intro host w ls
  have hs : host.Secluded := Host.secluded_zero env
  have hrest := World.resting_start memory
  have hcourse : host.Course False { memory } ls w :=
    course_after env settings memory fun step hstep hb => (h step hstep).not_bypasses hb
  have hcounted : ∀ l ∈ ls, l.query.IsCounted := by
    intro l hl
    obtain ⟨step, hstep, hwork⟩ := World.mayWork hl
    exact Task.isCounted ((h step hstep).task hwork) l.parameter l.level
  obtain ⟨new, n, hnew, hn, hb⟩ := hcourse.balance hs hrest hcounted
  have hqueries : w.queries = n := hn.trans (Nat.zero_add n)
  have hjournal : w.journal.filter Event.isCounted = new := hnew.trans (List.append_nil new)
  refine ⟨?_, fun m hm => ?_⟩
  · rw [hqueries]
    exact .of_filter (hjournal ▸ hb)
  · have hgauged : w.Gauged := hcourse.gauged hs hrest nofun
    exact hgauged m (World.lastValue?_eq_users? w ▸ hm)

/-- An image detail enhancer goes down to the low level twice. At the first time it creates an
implementation there, and at the second time it has one. The two levels above are looked up each
time, and nothing serves them. -/
theorem counters_balance_ladder :
    let env := Environment.linked [⟨⟨.detailEnhancer, "sharp", "1"⟩,
      .detail [⟨[.low], .default, 1⟩], ⟨0⟩⟩]
    let work := ClientStep.ask
      (.process 0 (.detail (.packed 2 2 .rgba8888) (.packed 4 4 .rgba8888)))
    let steps := [.ask (.facade .detail), .ask (.set 0 (.detail ⟨"", .high⟩)), work, work]
    let w := World.after env 0 none () steps
    let ls := World.lookups env none steps { memory := () }
    let missing := ls.countP fun l => isMissing (l.result (.nested env 0)).1
    w.queries = 5 ∧ missing = 4 ∧ total (.hits FacadeKind.detail.family) w.journal = 1 ∧
      lastValue? .vendorInstances w.journal.reverse = some 1 ∧
      Balance (ls.map fun l => l.query.seeker) missing w.queries w.journal ∧ 1 = w.instances := by
  intro env work steps w ls missing
  have hthrough : ∀ step ∈ steps, step.ThroughFacades := by
    simp [steps, work, ClientStep.ThroughFacades]
  obtain ⟨hbalance, hgauge⟩ := counters_balance env none () hthrough
  have htold : lastValue? .vendorInstances w.journal.reverse = some 1 := by decide +kernel
  exact ⟨by decide +kernel, by decide +kernel, by decide +kernel, htold, hbalance, hgauge 1 htold⟩

end ImageDispatch
