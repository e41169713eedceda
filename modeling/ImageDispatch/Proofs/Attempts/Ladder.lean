import ImageDispatch.Proofs.Attempts.Pushes
import ImageDispatch.Proofs.Surface.InPlace

/-!
# The ladder of detail levels

An image detail enhancer copies surfaces of one shape. For other surfaces it goes down the levels of
detail until an attempt succeeds.

* `Host.Succeeds`: what an attempt takes to succeed.
* `Host.StepsDown`: how many levels a call notes that it has left out, whatever requests of code of
  others note in between.
* `Host.Descent`: what the attempts of a call are, and what comes of them.
* `process_descends`: every call of an image detail enhancer on valid surfaces.
-/

namespace ImageDispatch

open Act World

variable {σ : Type}

/-! ## Levels -/

namespace DetailLevel

/-- Each level on the way down is the next lower one. -/
theorem isChain_descending (target : DetailLevel) :
    target.descending.IsChain fun a b => a.lower? = some b := by
  cases target <;> decide

theorem nodup_descending (target : DetailLevel) : target.descending.Nodup := by
  cases target <;> decide

end DetailLevel

theorem Host.targetLevel_eq (requested : DetailLevel) (input output : Surface) :
    targetLevel requested input output =
      if requested = .high ∨ requested = .highAisr then
        if output.width < input.width ∧ output.height < input.height then .highAisr else .high
      else requested := by
  cases requested <;> rfl

/-- The parameter that an image detail enhancer has accepted is not for video. -/
theorem Host.detailParameter_level {P : Option Parameter}
    (hP : ∀ p, P = some p → Facade.check .detail p = .ok ()) :
    (detailParameter false P).level ≠ .video := by
  unfold detailParameter
  split
  next d =>
    have hlevel := Facade.checkLevel_eq_ok (hP (.detail d) rfl)
    simpa using hlevel
  · nofun

/-! ## Counting -/

theorem total_count (counter : Counter) (n : Nat) (events : List Event) :
    total counter (.count counter n :: events) = n + total counter events := by
  unfold total
  rw [← List.sum_eq_foldl, ← List.sum_eq_foldl, List.map_cons, List.sum_cons]
  dsimp only
  rw [if_pos rfl]

theorem total_other {counter : Counter} {e : Event} (h : ∀ n, e ≠ .count counter n)
    (events : List Event) : total counter (e :: events) = total counter events := by
  have hnone : ∀ c n, e = .count c n → c ≠ counter := by
    rintro c n rfl rfl
    exact h n rfl
  cases e <;> simp_all [total, ← List.sum_eq_foldl]

theorem total_append_reports {reports : List Event} (h : ∀ e ∈ reports, e.isReport = true)
    (events : List Event) : total .fallbacks (reports ++ events) = total .fallbacks events := by
  induction reports with
  | nil => rfl
  | cons e rest ih =>
    rw [List.cons_append, total_other, ih fun e' he => h e' (List.mem_cons_of_mem _ he)]
    rintro n rfl
    cases h _ List.mem_cons_self

/-- Everything may be done, but not noted that a level was left out. -/
def World.Scope.level : Scope := ⟨true, fun _ => True, False⟩

theorem World.Move.total {w w' : World σ} (h : w.Move .level w') :
    total .fallbacks w'.journal = total .fallbacks w.journal := by
  cases h with
  | note h => exact total_other (by rintro n rfl; exact h) _
  | same h => rw [h.journal]
  | _ => rfl

/-- The dispatcher notes `n` times on the way from one world to the other that a level was left out.
Whatever else is noted of the kind, requests of code of others have noted. -/
inductive Host.StepsDown (host : Host σ) (w : World σ) : Nat → World σ → Prop
  | refl : StepsDown host w 0 w
  | quiet {n : Nat} {w₁ w₂ : World σ} (h : StepsDown host w n w₁)
    (ht : total .fallbacks w₂.journal = total .fallbacks w₁.journal) : StepsDown host w n w₂
  | note {n : Nat} {w₁ : World σ} (h : StepsDown host w n w₁) :
    StepsDown host w (n + 1) (w₁.note (.count .fallbacks 1))
  | asked {n : Nat} {w₁ : World σ} (h : StepsDown host w n w₁) (r : Request) :
    StepsDown host w n (host.serve r w₁).2

namespace Host.StepsDown

variable {host : Host σ} {w w₁ w₂ : World σ} {m n : Nat}

theorem trans (h₁ : host.StepsDown w m w₁) (h₂ : host.StepsDown w₁ n w₂) :
    host.StepsDown w (m + n) w₂ := by
  induction h₂ with
  | refl => exact h₁
  | quiet _ ht ih => exact ih.quiet ht
  | note _ ih => exact ih.note
  | asked _ r ih => exact ih.asked r

instance : Lawful .level (fun w w' : World σ => host.StepsDown w 0 w') :=
  ⟨fun _ => .refl, trans, fun h => refl.quiet h.total⟩

variable (host) in
theorem making : host.Making fun w w' : World σ => host.StepsDown w 0 w' := fun r _ => refl.asked r

/-- If requests of code of others note no levels, then those that are noted are all that count. -/
theorem total (h : host.StepsDown w n w₁) (hs : ∀ r v,
    total .fallbacks (host.serve r v).2.journal = total .fallbacks v.journal) :
    total .fallbacks w₁.journal = total .fallbacks w.journal + n := by
  induction h with
  | refl => rfl
  | quiet _ ht ih => rw [ht, ih]
  | note _ ih =>
    rw [World.note, total_count, ih]
    omega
  | asked _ r ih => rw [hs, ih]

end Host.StepsDown

/-! ## Attempts at levels -/

namespace Host

variable (host : Host σ) (f : FacadeId) (P : Option Parameter)

/-- An attempt of an image detail enhancer comes as far as the work of an implementation: it was
obtained, and what there is to be pushed was pushed into it. `x` is what the work comes to. -/
def ComesTo (a : Attempt σ) (object : AlgorithmObject)
    (x : (Except Error Unit × Job) × World σ) : Prop :=
  ∃ o v v', host.obtain f a.query a.world = (.ok o, v) ∧ v.objects[o]? = some object ∧
    host.pushAny o object (FacadeKind.detail.pushed P a.query) v = (.ok (), v') ∧
    host.work o object a.job v' = x

/-- An implementation is obtained, takes its parameter, and does its work. -/
def Succeeds (a : Attempt σ) : Prop := ∃ object x, host.ComesTo f P a object x ∧ x.1.1 = .ok ()

variable {host f P} {a : Attempt σ}

/-- There is at most one work in an attempt. -/
theorem ComesTo.unique {object object' : AlgorithmObject}
    {x x' : (Except Error Unit × Job) × World σ} (h : host.ComesTo f P a object x)
    (h' : host.ComesTo f P a object' x') : object = object' ∧ x = x' := by
  obtain ⟨o, v, u, ho, hobject, hp, rfl⟩ := h
  obtain ⟨o', v', u', ho', hobject', hp', rfl⟩ := h'
  cases ho.symm.trans ho'
  cases hobject.symm.trans hobject'
  cases hp.symm.trans hp'
  exact ⟨rfl, rfl⟩

variable (host f P) in
/-- An attempt ends with its work. One that does not come so far fails, and leaves the job alone. -/
theorem outcome_cases {level : DetailLevel} (hq : a.query = .detail level) :
    (∃ object x, host.ComesTo f P a object x ∧ (host.outcome f .detail P a).1 = x.1) ∨
      (∀ object x, ¬host.ComesTo f P a object x) ∧
        ∃ e, (host.outcome f .detail P a).1 = (.error e, a.job) := by
  obtain ⟨q, job, w⟩ := a
  obtain rfl : q = .detail level := hq
  unfold outcome attempt
  rw [bind_run]
  cases hob : host.obtain f (.detail level) w with
  | mk r v =>
    cases r with
    | error e =>
      refine .inr ⟨?_, e, rfl⟩
      rintro object x ⟨o, v', -, ho, -⟩
      cases hob.symm.trans ho
    | ok o =>
      have hemploy : host.employAny (parameterFor f .detail P (.detail level)) job (.ok o) v =
        host.employ o (FacadeKind.detail.pushed P (.detail level)) job v := rfl
      rw [hemploy]
      cases hobject : v.objects[o]? with
      | none =>
        refine .inr ⟨?_, .invalidState "no such algorithm", ?_⟩
        · rintro object x ⟨o', v', -, ho, hthere, -⟩
          cases hob.symm.trans ho
          rw [hobject] at hthere
          cases hthere
        · unfold employ
          rw [get_run, hobject]
          rfl
      | some object =>
        rw [employ_fst hobject]
        cases hp : host.pushAny o object (FacadeKind.detail.pushed P (.detail level)) v with
        | mk r u =>
          cases r with
          | ok => exact .inl ⟨object, _, ⟨o, v, u, hob, hobject, hp, rfl⟩, rfl⟩
          | error e =>
            refine .inr ⟨?_, e, rfl⟩
            rintro object' x ⟨o', v', u', ho, hthere, hp', -⟩
            cases hob.symm.trans ho
            cases hobject.symm.trans hthere
            cases hp.symm.trans hp'

/-- What the work comes to is what the attempt comes to. -/
theorem ComesTo.outcome_eq {level : DetailLevel} {object : AlgorithmObject}
    {x : (Except Error Unit × Job) × World σ} (h : host.ComesTo f P a object x)
    (hq : a.query = .detail level) : (host.outcome f .detail P a).1 = x.1 := by
  rcases host.outcome_cases f P hq with ⟨object', x', hx, he⟩ | ⟨hnone, -⟩
  · obtain ⟨-, rfl⟩ := h.unique hx
    exact he
  · exact absurd h (hnone object x)

theorem outcome_eq_ok_iff {level : DetailLevel} (hq : a.query = .detail level) :
    (host.outcome f .detail P a).1.1 = .ok () ↔ host.Succeeds f P a := by
  constructor
  · intro hok
    rcases host.outcome_cases f P hq with ⟨object, x, hx, he⟩ | ⟨-, e, he⟩
    · exact ⟨object, x, hx, he ▸ hok⟩
    · rw [he] at hok
      cases hok
  · rintro ⟨object, x, hx, hok⟩
    rw [hx.outcome_eq hq, hok]

/-! ## The attempts of a call -/

/-- The second attempt begins where the first one has failed, which was reported. -/
def Follows (host : Host σ) (f : FacadeId) (P : Option Parameter) (a b : Attempt σ) : Prop :=
  b.job = (host.outcome f .detail P a).1.2 ∧ ∃ e, (host.outcome f .detail P a).1.1 = .error e ∧
    b.world = (shortfall a.query e (host.outcome f .detail P a).2).2

/-- The levels that a call has left out: those of the attempts that have failed, except the last
level of the ladder. -/
def leftOut (host : Host σ) (f : FacadeId) (P : Option Parameter) (tries : List (Attempt σ)) :
    Nat :=
  tries.countP fun a =>
    !(host.outcome f .detail P a).1.1.isOk && decide (a.query ≠ .detail .none)

variable {w : World σ} {job : Job}

theorem attempts_head (q : Query) (rest : List Query) (job : Job) (w : World σ) :
    (host.attempts f .detail P (q :: rest) job w).head? = some ⟨q, job, w⟩ := by
  rw [attempts]
  rfl

/-- Each attempt follows the one before it. -/
theorem attempts_isChain (queries : List Query) (job : Job) (w : World σ) :
    (host.attempts f .detail P queries job w).IsChain (host.Follows f P) := by
  induction queries generalizing job w with
  | nil => exact .nil
  | cons q rest ih =>
    cases hx : host.attempt f .detail P q job w with
    | mk answer w' =>
      obtain ⟨r, job'⟩ := answer
      cases r with
      | ok =>
        rw [attempts_cons_ok hx]
        exact .singleton _
      | error e =>
        rw [attempts_cons_error hx]
        refine List.isChain_cons.2 ⟨fun b hb => ?_, ih job' _⟩
        cases rest with
        | nil => cases hb
        | cons q' rest =>
          rw [attempts_head] at hb
          cases hb
          exact ⟨by rw [outcome, hx], e, by rw [outcome, hx], by rw [outcome, hx]⟩

/-- No attempt is made after one that succeeds. -/
theorem attempts_stop (queries : List Query) (job : Job) (w : World σ) :
    (∃ failed a, host.attempts f .detail P queries job w = failed ++ [a] ∧
        (host.outcome f .detail P a).1.1 = .ok () ∧
        ∀ b ∈ failed, (host.outcome f .detail P b).1.1.isOk = false) ∨
      ∀ a ∈ host.attempts f .detail P queries job w,
        (host.outcome f .detail P a).1.1.isOk = false := by
  induction queries generalizing job w with
  | nil => exact .inr fun a ha => absurd ha List.not_mem_nil
  | cons q rest ih =>
    cases hx : host.attempt f .detail P q job w with
    | mk answer w' =>
      obtain ⟨r, job'⟩ := answer
      have hfirst : host.outcome f .detail P ⟨q, job, w⟩ = ((r, job'), w') := hx
      cases r with
      | ok =>
        rw [attempts_cons_ok hx]
        exact .inl ⟨[], ⟨q, job, w⟩, rfl, by rw [hfirst],
          fun b hb => absurd hb List.not_mem_nil⟩
      | error e =>
        have hfailed : (host.outcome f .detail P ⟨q, job, w⟩).1.1.isOk = false := by
          rw [hfirst]
          rfl
        rw [attempts_cons_error hx]
        rcases ih job' (shortfall q e w').2 with ⟨failed, a, he, ha, hall⟩ | hall
        · rw [he]
          exact .inl ⟨_ :: failed, a, rfl, ha, List.forall_mem_cons.2 ⟨hfailed, hall⟩⟩
        · exact .inr (List.forall_mem_cons.2 ⟨hfailed, hall⟩)

/-- The ladder leaves the job that its last attempt leaves. -/
theorem descend_job (target : DetailLevel) (levels : List DetailLevel) (first : Option Error)
    (job : Job) (w : World σ) :
    (host.descend f (detailParameter false P) target levels first job w).1.2 =
      ((host.attempts f .detail P (levels.map .detail) job w).getLast?.map fun a =>
        (host.outcome f .detail P a).1.2).getD job := by
  induction levels generalizing first job w with
  | nil => rfl
  | cons level rest ih =>
    rw [List.map_cons]
    cases hx : host.attempt f .detail P (.detail level) job w with
    | mk answer w' =>
      obtain ⟨r, job'⟩ := answer
      cases r with
      | ok =>
        obtain ⟨reports, hdescend, -⟩ := descend_cons_ok target rest first hx
        rw [hdescend, attempts_cons_ok hx, List.getLast?_singleton, Option.map_some, outcome, hx]
        rfl
      | error e =>
        rw [descend_cons_error target rest first hx, attempts_cons_error hx, ih]
        generalize host.attempts f .detail P (rest.map .detail) job' _ = tries
        cases tries with
        | nil => rw [List.getLast?_singleton, Option.map_some, outcome, hx]; rfl
        | cons a tries =>
          rw [List.getLast?_cons_cons, List.getLast?_eq_some_getLast (List.cons_ne_nil a tries)]
          rfl

/-- A level that is left out is noted, unless it is the last one. -/
theorem shortfall_steps (level : DetailLevel) (e : Error) (w : World σ) :
    host.StepsDown w (if level.lower?.isSome then 1 else 0) (shortfall (.detail level) e w).2 := by
  unfold shortfall
  dsimp only
  split
  · exact StepsDown.refl.note.quiet (total_other (by nofun) _)
  · exact StepsDown.refl.quiet (total_other (by nofun) _)

/-- What is noted on the way down are the levels that are left out. -/
theorem descend_steps (target : DetailLevel) {levels : List DetailLevel} (hv : .video ∉ levels)
    (first : Option Error) (job : Job) (w : World σ) :
    host.StepsDown w (host.leftOut f P (host.attempts f .detail P (levels.map .detail) job w))
      (host.descend f (detailParameter false P) target levels first job w).2 := by
  induction levels generalizing first job w with
  | nil => exact .refl
  | cons level rest ih =>
    have hattempt : host.StepsDown w 0 (host.attempt f .detail P (.detail level) job w).2 :=
      (StepsDown.making host).attempt (f := f) .detail P (.detail level) job trivial w
    rw [List.map_cons]
    cases hx : host.attempt f .detail P (.detail level) job w with
    | mk answer w' =>
      obtain ⟨r, job'⟩ := answer
      rw [hx] at hattempt
      cases r with
      | ok =>
        obtain ⟨reports, hdescend, hreports⟩ := descend_cons_ok target rest first hx
        have hnone : host.leftOut f P [⟨.detail level, job, w⟩] = 0 := by
          rw [leftOut, List.countP_singleton, outcome, hx]
          rfl
        rw [hdescend, attempts_cons_ok hx, hnone]
        exact hattempt.quiet (total_append_reports hreports _)
      | error e =>
        have hlevel : level ≠ .video := fun h => hv (h ▸ List.mem_cons_self)
        rw [descend_cons_error target rest first hx, attempts_cons_error hx, leftOut,
          List.countP_cons, Nat.add_comm]
        refine StepsDown.trans ?_ (ih (fun h => hv (List.mem_cons_of_mem _ h)) _ job' _)
        have hcount : (!(host.outcome f .detail P ⟨.detail level, job, w⟩).1.1.isOk &&
            decide (Query.detail level ≠ .detail .none)) = level.lower?.isSome := by
          rw [outcome, hx]
          cases level <;> first | rfl | exact absurd rfl hlevel
        rw [hcount]
        have hstep := hattempt.trans (shortfall_steps level e w')
        rwa [Nat.zero_add] at hstep

/-! ## Whole calls -/

/-- What the attempts of a call are that goes down the ladder from a level, and what the call comes
to. It has begun in `w`, and the attempts begin in `v`. -/
structure Descent (host : Host σ) (f : FacadeId) (P : Option Parameter) (target : DetailLevel)
    (job : Job) (w v : World σ) (tries : List (Attempt σ)) (call : Reply × World σ) : Prop where
  begins : tries.head? = some ⟨.detail target, job, v⟩
  follows : tries.IsChain (host.Follows f P)
  /-- Each level is the next lower one. None is attempted twice, and none for video. -/
  levels : ∃ levels : List DetailLevel, tries.map Attempt.query = levels.map .detail ∧
    levels <+: target.descending ∧ levels.IsChain (fun a b => a.lower? = some b) ∧
    levels.Nodup ∧ .video ∉ levels
  /-- The last attempt is the one that succeeds, or else the one at the last level. -/
  ends : (∃ failed a, tries = failed ++ [a] ∧ host.Succeeds f P a ∧
      ∀ b ∈ failed, ¬host.Succeeds f P b) ∨
    tries.map Attempt.query = target.descending.map .detail ∧ ∀ a ∈ tries, ¬host.Succeeds f P a
  /-- The call succeeds with the last attempt. Otherwise it reports the first error that is no
  missing capability. -/
  result : ∃ r last, tries.getLast? = some last ∧
    call.1 = .worked r (host.outcome f .detail P last).1.2 ∧
    (r = .ok () ↔ ∃ a ∈ tries, host.Succeeds f P a) ∧
    ((∀ a ∈ tries, ¬host.Succeeds f P a) → r = .error
      (((tries.map fun a => (host.outcome f .detail P a).1.1).findSome? otherError?).getD
        (.capabilityNotFound FacadeKind.detail.family s!"{target.name} or lower")))
  steps : host.StepsDown w (host.leftOut f P tries) call.2

section

variable (host f P) (target : DetailLevel) (job : Job) (v : World σ)

/-- The attempts of the ladder below a level. -/
def rungs : List (Attempt σ) := host.attempts f .detail P (target.descending.map .detail) job v

variable {target job v}

theorem rung_query {a : Attempt σ} (ha : a ∈ host.rungs f P target job v) :
    ∃ level, a.query = .detail level := by
  obtain ⟨hinitial, -⟩ :=
    host.attempts_queries f .detail P (target.descending.map .detail) job v
  obtain ⟨level, -, he⟩ := List.mem_map.1 (hinitial.subset (List.mem_map_of_mem ha))
  exact ⟨level, he.symm⟩

/-- An attempt that does not succeed is one that fails. -/
theorem rung_succeeds {a : Attempt σ} (ha : a ∈ host.rungs f P target job v) :
    ((host.outcome f .detail P a).1.1 = .ok () ↔ host.Succeeds f P a) ∧
      ((host.outcome f .detail P a).1.1.isOk = false ↔ ¬host.Succeeds f P a) := by
  obtain ⟨level, hq⟩ := host.rung_query f P ha
  rw [← outcome_eq_ok_iff hq]
  cases (host.outcome f .detail P a).1.1 with
  | ok => simp [Except.isOk, Except.toBool]
  | error e => simp [Except.isOk, Except.toBool]

theorem rungs_levels (ht : target ≠ .video) : ∃ levels : List DetailLevel,
    (host.rungs f P target job v).map Attempt.query = levels.map .detail ∧
      levels <+: target.descending ∧ levels.IsChain (fun a b => a.lower? = some b) ∧
      levels.Nodup ∧ .video ∉ levels := by
  obtain ⟨hqueries, -⟩ :=
    host.attempts_queries f .detail P (target.descending.map .detail) job v
  have htake := List.prefix_iff_eq_take.1 hqueries
  rw [← List.map_take] at htake
  generalize (List.map Attempt.query _).length = n at htake
  have hinitial := List.take_prefix n target.descending
  exact ⟨target.descending.take n, htake, hinitial, target.isChain_descending.prefix hinitial,
    hinitial.sublist.nodup target.nodup_descending,
    fun h => ht (DetailLevel.video_mem_descending (hinitial.subset h))⟩

theorem rungs_ends :
    (∃ failed a, host.rungs f P target job v = failed ++ [a] ∧ host.Succeeds f P a ∧
        ∀ b ∈ failed, ¬host.Succeeds f P b) ∨
      (host.rungs f P target job v).map Attempt.query = target.descending.map .detail ∧
        ∀ a ∈ host.rungs f P target job v, ¬host.Succeeds f P a := by
  obtain ⟨-, hall⟩ := host.attempts_queries f .detail P (target.descending.map .detail) job v
  rcases attempts_stop (target.descending.map .detail) job v with
    ⟨failed, a, he, ha, hfailed⟩ | hfailed
  · have hrung : ∀ b, b ∈ failed ++ [a] → b ∈ host.rungs f P target job v := fun b hb => by
      rw [rungs, he]
      exact hb
    refine .inl ⟨failed, a, he, ?_, fun b hb => ?_⟩
    · exact (host.rung_succeeds f P (hrung a (by simp))).1.1 ha
    · exact (host.rung_succeeds f P (hrung b (by simp [hb]))).2.1 (hfailed b hb)
  · exact .inr ⟨hall hfailed, fun a ha => (host.rung_succeeds f P ha).2.1 (hfailed a ha)⟩

/-- The ladder succeeds exactly if one of its attempts does. -/
theorem descend_eq_ok_iff :
    (host.descend f (detailParameter false P) target target.descending none job v).1.1 = .ok () ↔
      ∃ a ∈ host.rungs f P target job v, host.Succeeds f P a := by
  rw [descend_reported, reported_eq_ok_iff]
  constructor
  · rintro ⟨r, hr, rfl⟩
    obtain ⟨a, ha, he⟩ := List.mem_map.1 hr
    exact ⟨a, ha, (host.rung_succeeds f P ha).1.1 he⟩
  · rintro ⟨a, ha, hs⟩
    exact ⟨_, List.mem_map_of_mem ha, (host.rung_succeeds f P ha).1.2 hs⟩

/-- Otherwise it reports the first error that is no missing capability. -/
theorem descend_error (hnone : ∀ a ∈ host.rungs f P target job v, ¬host.Succeeds f P a) :
    (host.descend f (detailParameter false P) target target.descending none job v).1.1 = .error
      ((((host.rungs f P target job v).map fun a => (host.outcome f .detail P a).1.1).findSome?
        otherError?).getD
        (.capabilityNotFound FacadeKind.detail.family s!"{target.name} or lower")) := by
  have hany : ¬(((host.rungs f P target job v).map fun a =>
      (host.outcome f .detail P a).1.1).any Except.isOk = true) := by
    rw [List.any_map, List.any_eq_true]
    rintro ⟨a, ha, hs⟩
    exact Bool.false_ne_true (((host.rung_succeeds f P ha).2.2 (hnone a ha)).symm.trans hs)
  rw [descend_reported, reported]
  exact (if_neg hany).trans (by rw [Option.none_or]; rfl)

theorem exists_last_rung : ∃ last, (host.rungs f P target job v).getLast? = some last ∧
    (host.descend f (detailParameter false P) target target.descending none job v).1.2 =
      (host.outcome f .detail P last).1.2 := by
  have hhead : (host.rungs f P target job v).head? = some ⟨.detail target, job, v⟩ := by
    rw [rungs, DetailLevel.descending_eq]
    exact attempts_head _ _ _ _
  obtain ⟨last, hlast⟩ : ∃ last, (host.rungs f P target job v).getLast? = some last := by
    cases hr : host.rungs f P target job v with
    | nil => rw [hr] at hhead; cases hhead
    | cons a rest => exact ⟨_, List.getLast?_eq_some_getLast (List.cons_ne_nil a rest)⟩
  refine ⟨last, hlast, ?_⟩
  rw [rungs] at hlast
  rw [descend_job, hlast]
  rfl

end

variable {target : DetailLevel} {v w' : World σ}

/-- A call goes down the ladder between its beginning and its end. -/
theorem Descent.of_descend (ht : target ≠ .video) (hopen : host.StepsDown w 0 v) (job : Job)
    (hclose : host.StepsDown
      (host.descend f (detailParameter false P) target target.descending none job v).2 0 w') :
    host.Descent f P target job w v (host.rungs f P target job v)
      (.worked (host.descend f (detailParameter false P) target target.descending none job v).1.1
          (host.descend f (detailParameter false P) target target.descending none job v).1.2,
        w') := by
  obtain ⟨last, hlast, hjob⟩ : ∃ last, (host.rungs f P target job v).getLast? = some last ∧ _ :=
    host.exists_last_rung f P
  have hv : .video ∉ target.descending := fun h => ht (DetailLevel.video_mem_descending h)
  have hwhole := (hopen.trans (descend_steps (P := P) target hv none job v)).trans hclose
  rw [Nat.zero_add, Nat.add_zero] at hwhole
  refine
    { begins := ?_, follows := attempts_isChain _ _ _, levels := host.rungs_levels f P ht
      ends := host.rungs_ends f P, result := ⟨_, last, hlast, by rw [hjob], ?_, ?_⟩
      steps := hwhole }
  · rw [rungs, DetailLevel.descending_eq]
    exact attempts_head _ _ _ _
  · exact host.descend_eq_ok_iff f P
  · exact host.descend_error f P

theorem openCall_steps (kind : FacadeKind) (task : Task) :
    host.StepsDown w 0 (host.openCall f kind task w).2 := by
  rw [openCall_run]
  refine StepsDown.refl.quiet (total_append_reports (fun e he => ?_) _)
  unfold callSpan at he
  split at he
  · rw [List.mem_singleton.1 he]
    rfl
  · cases he

variable {facade : Facade} {input output : Surface}

theorem detailJob_valid (hi : input.validate = .ok ()) (ho : output.validate = .ok ()) :
    (Task.detail input output).job.validate = .ok () := by
  refine Job.validate_eq_ok.2 fun s hs => ?_
  rcases List.mem_pair.1 hs with rfl | rfl
  · exact Surface.validate_eq_ok.1 hi
  · exact Surface.validate_eq_ok.1 ho

/-- A call on valid surfaces that are not of one shape goes down the ladder from the target. -/
theorem process_ladder (hf : w.facade? f = some facade) (hk : facade.kind = .detail)
    (hP : ∀ p, facade.parameter = some p → Facade.check .detail p = .ok ())
    (hi : input.validate = .ok ()) (ho : output.validate = .ok ())
    (hshape : input.sameShape output = false) :
    host.Descent f facade.parameter ((Task.detail input output).target facade.parameter)
      (.transform input output) w (host.openCall f .detail (.detail input output) w).2
      (host.rungs f facade.parameter ((Task.detail input output).target facade.parameter)
        (.transform input output) (host.openCall f .detail (.detail input output) w).2)
      (host.process f (.detail input output) w) := by
  have hd : facade.kind.does (.detail input output) = true := by rw [hk]; rfl
  have hrun := host.process_valid hf hd (detailJob_valid hi ho)
  have hparameter := host.openCall_parameter hf .detail (.detail input output)
  rw [hk, dispatch_ladder hshape hparameter] at hrun
  rw [hrun]
  refine .of_descend (fun h => ?_) (openCall_steps .detail _) (.transform input output)
    ((StepsDown.making host).unpin (.facade f) _)
  exact detailParameter_level hP (targetLevel_eq_video h)

end Host

/-- Every call of an image detail enhancer on valid surfaces, with any parameter that it accepts,
with code of others that does as it likes and comes back to the dispatcher to any depth. Surfaces of
one shape are copied, and nothing happens beside a report. For other surfaces the call goes down the
levels from the target. -/
theorem process_descends (env : Environment σ) (depth : Nat) {w : World σ} {f : FacadeId}
    {facade : Facade} {input output : Surface} (hw : w.Orderly) (hf : w.facade? f = some facade)
    (hk : facade.kind = .detail)
    (hP : ∀ p, facade.parameter = some p → Facade.check .detail p = .ok ())
    (hi : input.validate = .ok ()) (ho : output.validate = .ok ()) :
    let host := Host.nested env depth
    let task := Task.detail input output
    let call := host.process f task w
    let requested := (Host.detailParameter false facade.parameter).level
    let target : DetailLevel :=
      if requested = .high ∨ requested = .highAisr then
        if output.width < input.width ∧ output.height < input.height then .highAisr else .high
      else requested
    ((output.width = input.width ∧ output.height = input.height ∧ output.format = input.format) →
      ∃ copied e, output.copyFrom input = .ok copied ∧ e.isReport = true ∧
        call = (.worked (.ok ()) (.transform input copied),
          { w with journal := e :: (host.callSpan .detail task ++ w.journal) })) ∧
    (¬(output.width = input.width ∧ output.height = input.height ∧
        output.format = input.format) →
      ∃ tries, host.Descent f facade.parameter target (.transform input output) w
          (host.openCall f .detail task w).2 tries call ∧
        ((∀ r v, total .fallbacks (host.serve r v).2.journal = total .fallbacks v.journal) →
          total .fallbacks call.2.journal =
            total .fallbacks w.journal + host.leftOut f facade.parameter tries)) := by
  intro host task call requested target
  have htarget : target = task.target facade.parameter :=
    (Host.targetLevel_eq requested input output).symm
  rw [← Surface.sameShape_iff, ← Surface.sameShape_comm input]
  refine ⟨fun hshape => ?_, fun hshape => ?_⟩
  · have hd : facade.kind.does task = true := by rw [hk]; rfl
    have hrun : call = _ := Host.process_valid hf hd (Host.detailJob_valid hi ho)
    rw [hk] at hrun
    obtain ⟨copied, hcopy, -⟩ := Surface.copyFrom_ok ((output.sameShape_comm input).trans hshape)
      (Surface.validate_eq_ok.1 hi) (Surface.validate_eq_ok.1 ho)
    obtain ⟨e, hworld, he, hdispatch⟩ : ∃ e : Event,
        (host.dispatch f .detail task (host.openCall f .detail task w).2).2 = _ ∧ _ :=
      Host.dispatch_copy hshape
    refine ⟨copied, e, hcopy, he, ?_⟩
    rw [hrun, hdispatch copied hcopy, hworld, Host.openCall_run]
    exact congrArg _ (Host.unpin_held (hw.facade_kept hf (by simp)) hf _)
  · have hdescent : host.Descent f facade.parameter target _ w _ _ call :=
      htarget ▸ Host.process_ladder hf hk hP hi ho (Bool.eq_false_iff.2 hshape)
    exact ⟨_, hdescent, hdescent.steps.total⟩

/-- An image detail enhancer was made and asked for high quality. -/
def World.askedForHigh (env : Environment Unit) : World Unit :=
  .after env 0 none () [.ask (.facade .detail), .ask (.set 0 (.detail ⟨"", .high⟩))]

theorem Facade.check_high {facade : Facade} (hP : facade.parameter = some (.detail ⟨"", .high⟩)) :
    ∀ p, facade.parameter = some p → Facade.check .detail p = .ok () := by
  intro p hp
  obtain rfl : p = .detail ⟨"", .high⟩ := Option.some.inj (hp.symm.trans hP)
  rfl

/-- A request for high quality where only the low level is served: two levels are left out. -/
theorem process_descends_low :
    let env := Environment.linked [⟨⟨.detailEnhancer, "sharp", "1"⟩,
      .detail [⟨[.low], .default, 1⟩], ⟨0⟩⟩]
    let host := Host.nested env 0
    let input := Surface.packed 2 2 .rgba8888
    let output := Surface.packed 4 4 .rgba8888
    let P := some (Parameter.detail ⟨"", .high⟩)
    input.validate = .ok () ∧ output.validate = .ok () ∧ ∃ w call,
      World.askedForHigh env = w ∧ host.process 0 (.detail input output) w = call ∧
      (w.facade? 0).map Facade.kind = some .detail ∧ (w.facade? 0).bind Facade.parameter = P ∧
      total .fallbacks w.journal = 0 ∧ total .fallbacks call.2.journal = 2 ∧
      ∃ tries, host.Descent 0 P .high (.transform input output) w
        (host.openCall 0 .detail (.detail input output) w).2 tries call ∧
        host.leftOut 0 P tries = 2 := by
  intro env host input output P
  have hi : input.validate = .ok () := by decide +kernel
  have ho : output.validate = .ok () := by decide +kernel
  have horderly : (World.askedForHigh env).Orderly := (reaches_after env 0 none () _).orderly
  have hkind : ((World.askedForHigh env).facade? 0).map Facade.kind = some .detail := by
    decide +kernel
  have hparameter : ((World.askedForHigh env).facade? 0).bind Facade.parameter = P := by
    decide +kernel
  have hbefore : total .fallbacks (World.askedForHigh env).journal = 0 := by decide +kernel
  have hafter : total .fallbacks
      (host.process 0 (.detail input output) (World.askedForHigh env)).2.journal = 2 := by
    decide +kernel
  generalize World.askedForHigh env = w at horderly hkind hparameter hbefore hafter
  obtain ⟨facade, hf, hk⟩ := Option.map_eq_some_iff.1 hkind
  have hP : facade.parameter = P := by rwa [hf] at hparameter
  have htarget : (if (Host.detailParameter false P).level = .high ∨
      (Host.detailParameter false P).level = .highAisr then
        if output.width < input.width ∧ output.height < input.height then DetailLevel.highAisr
        else .high
      else (Host.detailParameter false P).level) = .high := by decide
  have hdescends :=
    (process_descends env 0 horderly hf hk (Facade.check_high hP) hi ho).2
  rw [hP, htarget] at hdescends
  generalize hcall : host.process 0 (.detail input output) w = call at hafter hdescends
  obtain ⟨tries, hdescent, htotal⟩ := hdescends (by decide)
  have hsum := htotal fun _ _ => rfl
  rw [hbefore, hafter, Nat.zero_add] at hsum
  exact ⟨hi, ho, w, call, rfl, hcall, hkind, hparameter, hbefore, hafter, tries, hdescent,
    hsum.symm⟩

end ImageDispatch
