import ImageDispatch.Proofs.Attempts.Uses

/-!
# What façades push

* `Host.useNew`: a client makes a façade, and uses it again and again. It has the parameter that was
  accepted last then (`World.Equipped.useNew`).
* `Parameter.Suits`: what is said of a parameter that is pushed for a query.
  `World.Equipped.suits`: whatever is pushed suits the query.
* `process_pushes_accepted`: every call in every run of a façade.
-/

namespace ImageDispatch

open Act World

variable {σ : Type}

/-! ## Runs -/

/-- Makes a façade, which the client holds, and uses it. -/
def Host.useNew (host : Host σ) (kind : FacadeKind) (uses : List FacadeUse) :
    Act σ (FacadeId × List Reply) := do
  let f ← host.makeFacade kind
  Host.handOver (.facade f)
  let replies ← uses.mapM fun use => host.answer (use.request f)
  return (f, replies)

namespace World.Equipped

variable {host : Host σ} (hs : host.Secluded) {w : World σ} {f : FacadeId} {kind : FacadeKind}
  {P : Option Parameter}

include hs

/-- The parameter that was accepted last is the one of the façade after each use. -/
theorem answer (h : w.Equipped f kind P) (use : FacadeUse) :
    (host.answer (use.request f) w).2.Equipped f kind
      (FacadeUse.accepted P (use, (host.answer (use.request f) w).1)) := by
  cases use with
  | set p => exact (h.setParameter p).1
  | process task => exact h.moves (hs.moving.process trivial trivial task w)

theorem uses (h : w.Equipped f kind P) (uses : List FacadeUse) :
    (uses.mapM (fun use => host.answer (use.request f)) w).2.Equipped f kind
      ((uses.zip (uses.mapM (fun use => host.answer (use.request f)) w).1).foldl
        FacadeUse.accepted P) := by
  induction uses generalizing w P with
  | nil => exact h
  | cons use rest ih =>
    rw [List.mapM_cons]
    exact ih (h.answer hs use)

omit hs in
/-- A façade that was made has accepted nothing. -/
theorem of_makeFacade (hm : host.Moving true) (hu : w.Upheld) (kind : FacadeKind) :
    (Host.handOver (.facade (host.makeFacade kind w).1)
      (host.makeFacade kind w).2).2.Equipped (host.makeFacade kind w).1 kind none := by
  have hnew := makeFacade_new host kind w
  have hfinds : (host.makeFacade kind w).2.Finds (.facade (host.makeFacade kind w).1) :=
    .inl (by rw [hnew]; nofun)
  refine ⟨?_, List.mem_cons_self, ⟨_, hnew, rfl, rfl⟩, nofun⟩
  exact Moves.upheld ((hm.makeFacade kind w).trans (Host.Making.handOver rfl hfinds)) hu

/-- After uses of a new façade it has the parameter that was accepted last. -/
theorem useNew (hu : w.Upheld) (kind : FacadeKind) (uses : List FacadeUse) :
    (host.useNew kind uses w).2.Equipped (host.useNew kind uses w).1.1 kind
      (lastAccepted uses (host.useNew kind uses w).1.2) :=
  (of_makeFacade hs.moving hu kind).uses hs uses

end World.Equipped

/-! ## What is pushed -/

/-- What is said of a parameter that a façade pushes for a query, if it has accepted `P` last. A
luminance is finite and positive. The algorithm of a generation is the one of the key. A detail
parameter is at the level of the query, and keeps its URI, which is empty by default. -/
def Parameter.Suits (P : Option Parameter) (q : Query) : Parameter → Prop
  | .conversion p => p.brightness.isFinite = true ∧ p.brightness.isPositive = true
  | .generation p => ∃ key, q = .generate key ∧ p.algorithm = key.algorithm
  | .detail p => q = .detail p.level ∧ (∀ d, P = some (.detail d) → p.uri = d.uri) ∧
      (P = none → p.uri = "")
  | .hdr p => p.peak.isFinite = true ∧ p.peak.isPositive = true
  | .contrast _ => True

theorem Luminance.check_eq_ok {what : String} {x : Binary32}
    (h : Luminance.check what x = .ok ()) : x.isFinite = true ∧ x.isPositive = true := by
  unfold Luminance.check at h
  split at h
  next hx => exact Bool.and_eq_true_iff.1 hx
  · cases h

theorem Facade.checkLevel_eq_ok {video : Bool} {level : DetailLevel}
    (h : Facade.checkLevel video level = .ok ()) : level = .video ↔ video = true := by
  unfold Facade.checkLevel at h
  split at h
  next hvideo => rw [hvideo]; exact (decide_eq_true_iff).symm
  · cases h

namespace DetailLevel

/-- The ladder below a level that is not for video has no level for video. -/
theorem video_mem_descending {target : DetailLevel} (h : .video ∈ target.descending) :
    target = .video := by
  cases target <;> simp_all [descending, ladder]

end DetailLevel

theorem Host.targetLevel_eq_video {requested : DetailLevel} {input output : Surface}
    (h : targetLevel requested input output = .video) : requested = .video := by
  unfold targetLevel at h
  split at h
  · split at h <;> cases h
  · split at h <;> cases h
  · exact h

namespace FacadeKind

variable {kind : FacadeKind} {P : Option Parameter} {task : Task}

theorem takes_detail (d : DetailParameter) :
    Facade.takes kind (.detail d) = true ↔ kind = .detail ∨ kind = .videoDetail := by
  cases kind <;> simp [Facade.takes]

/-- Detail enhancers ask for levels. -/
theorem queries_level (hk : kind = .detail ∨ kind = .videoDetail) (hd : kind.does task = true)
    {q : Query} (hq : q ∈ kind.queries P task) : ∃ level, q = .detail level := by
  rcases hk with rfl | rfl
  · cases hc : task.isCopy with
    | true => rw [queries_of_copy hc] at hq; cases hq
    | false =>
      rw [queries_of_not_copy hc] at hq
      obtain ⟨level, -, rfl⟩ := List.mem_map.1 hq
      exact ⟨level, rfl⟩
  · rw [queries_of_ne (by decide)] at hq
    obtain rfl := List.mem_singleton.1 hq
    cases task with
    | detail => exact ⟨.video, rfl⟩
    | _ => cases hd

/-- Without a default there is nothing to push before a parameter is accepted. -/
theorem Unpushed.pushed_eq_none (h : kind.Unpushed P) (hd : kind.does task = true) {q : Query}
    (hq : q ∈ kind.queries P task) : kind.pushed P q = none := by
  rw [queries_of_ne h.2.1] at hq
  obtain rfl := List.mem_singleton.1 hq
  cases task with
  | detail input output => exact (((does_detail _ _).1 hd).elim h.2.1 h.2.2).elim
  | _ => exact h.1

end FacadeKind

namespace World.Equipped

variable {w : World σ} {f : FacadeId} {kind : FacadeKind} {P : Option Parameter} {task : Task}

theorem checkLevel (h : w.Equipped f kind P) {d : DetailParameter} (hP : P = some (.detail d)) :
    d.level = .video ↔ kind = .videoDetail := by
  obtain ⟨-, hcheck⟩ := h.fit _ hP
  rw [Facade.checkLevel_eq_ok hcheck]
  exact decide_eq_true_iff

/-- Image detail enhancers do not attempt the level for video, and video ones attempt nothing
else. -/
theorem level_iff (h : w.Equipped f kind P) (hd : kind.does task = true) {level : DetailLevel}
    (hq : .detail level ∈ kind.queries P task) : level = .video ↔ kind = .videoDetail := by
  cases task with
  | detail input output =>
    rcases (FacadeKind.does_detail _ _).1 hd with rfl | rfl
    · refine ⟨?_, nofun⟩
      rintro rfl
      cases hc : (Task.detail input output).isCopy with
      | true => rw [FacadeKind.queries_of_copy hc] at hq; cases hq
      | false =>
        rw [FacadeKind.queries_of_not_copy hc] at hq
        obtain ⟨level, hlevel, hlevels⟩ := List.mem_map.1 hq
        cases hlevels
        have htarget := Host.targetLevel_eq_video (DetailLevel.video_mem_descending hlevel)
        cases hP : P with
        | none => rw [hP] at htarget; cases htarget
        | some p =>
          cases p with
          | detail d =>
            rw [hP] at htarget
            cases (h.checkLevel hP).1 htarget
          | _ => rw [hP] at htarget; cases htarget
    · rw [FacadeKind.queries_of_ne (by decide)] at hq
      cases List.mem_singleton.1 hq
      exact ⟨fun _ => rfl, fun _ => rfl⟩
  | _ =>
    have hk : kind ≠ .detail := by
      rintro rfl
      cases hd
    rw [FacadeKind.queries_of_ne hk] at hq
    cases List.mem_singleton.1 hq

/-- What is pushed for a query suits it. -/
theorem suits (h : w.Equipped f kind P) (hd : kind.does task = true) {q : Query}
    (hq : q ∈ kind.queries P task) {p : Parameter} (hp : kind.pushed P q = some p) :
    p.Suits P q := by
  by_cases hlevel : ∃ level, q = .detail level
  · obtain ⟨level, rfl⟩ := hlevel
    cases hp
    refine ⟨rfl, ?_, ?_⟩
    · rintro d rfl
      rfl
    · rintro rfl
      rfl
  · -- What is pushed for other queries is what was accepted.
    have hP : P = some p := by
      rw [← hp]
      cases q with
      | detail level => exact absurd ⟨level, rfl⟩ hlevel
      | _ => rfl
    obtain ⟨htakes, hcheck⟩ := h.fit p hP
    cases p with
    | conversion c => exact Luminance.check_eq_ok hcheck
    | hdr c => exact Luminance.check_eq_ok hcheck
    | contrast c => trivial
    | generation g =>
      obtain rfl : kind = .metadata := by cases kind <;> first | rfl | cases htakes
      cases task with
      | generate buffer =>
        rw [FacadeKind.queries_of_ne (by decide), hP] at hq
        exact ⟨_, List.mem_singleton.1 hq, rfl⟩
      | _ => cases hd
    | detail d =>
      have hk := (FacadeKind.takes_detail d).1 htakes
      exact absurd (FacadeKind.queries_level hk hd hq) hlevel

end World.Equipped

/-- Every call in every run of a façade, which a client makes after anything that clients may do.
Code of others does as it likes, but does not come back to the dispatcher. The parameter of the
façade is the one that it accepted last. An algorithm that works is one that the façade has for the
query of an attempt, and the parameter for the query was pushed into it with success just before.
Nothing else is pushed, and nothing at all if nothing was accepted and there is no default. What is
pushed suits the query. To set a parameter uses no algorithm. -/
theorem process_pushes_accepted (env : Environment σ) (depth : Nat)
    (settings : Option (String → Option String)) (memory : σ) (steps : List ClientStep)
    (kind : FacadeKind) (uses : List FacadeUse) {task : Task} (hd : kind.does task = true) :
    let host := Host.nested env 0
    let run := host.useNew kind uses (World.after env depth settings memory steps)
    let f := run.1.1
    let P := lastAccepted uses run.1.2
    let call := host.answer (.process f task) run.2
    let tries := host.attempts f kind P (kind.queries P task) task.job
      (host.openCall f kind task run.2).2
    (∃ facade, run.2.facade? f = some facade ∧ facade.kind = kind ∧ facade.parameter = P) ∧
    (∃ new, call.2.journal = new ++ run.2.journal ∧
      (∀ o later earlier, new = later ++ .began o .work :: earlier →
        ∃ a ∈ tries, host.Gets f a o ∧ ∀ p, kind.pushed P a.query = some p →
          [.ended o (.set p) true, .began o (.set p)] <+: earlier) ∧
      (∀ o p, .began o (.set p) ∈ new →
        ∃ a ∈ tries, host.Gets f a o ∧ kind.pushed P a.query = some p) ∧
      (kind.Unpushed P → ∀ o p, .began o (.set p) ∉ new)) ∧
    (∀ a ∈ tries, (∀ p, kind.pushed P a.query = some p → p.Suits P a.query) ∧
      ∀ level, a.query = .detail level → (level = .video ↔ kind = .videoDetail)) ∧
    ∀ p, (host.answer (.set f p) run.2).2.journal = run.2.journal := by
  intro host run f P call tries
  have hs : host.Secluded := Host.secluded_zero env
  have h : run.2.Equipped f kind P :=
    World.Equipped.useNew hs (upheld_after env depth settings memory steps) kind uses
  have hqueries : ∀ a ∈ tries, a.query ∈ kind.queries P task := fun a ha =>
    (host.attempts_queries f kind P (kind.queries P task) task.job _).1.subset
      (List.mem_map_of_mem ha)
  obtain ⟨new, hj, hpushed⟩ := hs.process_uses h hd
  have hset : ∀ o p, .began o (.set p) ∈ new →
      ∃ a ∈ tries, host.Gets f a o ∧ kind.pushed P a.query = some p := by
    intro o p hm
    obtain ⟨a, ha, hgets, hp⟩ := hpushed.of_mem_set hm
    exact ⟨a, ha, hgets, hp.symm⟩
  refine ⟨h.there, ⟨new, hj, fun o later earlier he => ?_, hset, ?_⟩, fun a ha =>
    ⟨fun p hp => h.suits hd (hqueries a ha) hp, fun level hq => ?_⟩, fun p => (h.setParameter p).2⟩
  · obtain ⟨p, ⟨a, ha, hgets, rfl⟩, hbefore⟩ := hpushed.worked he
    exact ⟨a, ha, hgets, hbefore⟩
  · intro hu o p hm
    obtain ⟨a, ha, -, hp⟩ := hset o p hm
    rw [hu.pushed_eq_none hd (hqueries a ha)] at hp
    cases hp
  · exact h.level_iff hd (hq ▸ hqueries a ha)

/-- A request for high quality where only a low level is served, and then a parameter that is
rejected. The low level is pushed, with what was accepted. -/
theorem process_pushes_accepted_fallback :
    let env := Environment.linked [⟨⟨.detailEnhancer, "sharp", "1"⟩,
      .detail [⟨[.low], .default, 1⟩], ⟨0⟩⟩]
    let uses := [FacadeUse.set (.detail ⟨"model", .high⟩), .set (.detail ⟨"other", .video⟩)]
    let task := Task.detail (.packed 4 4 .rgba8888) (.packed 2 2 .rgba8888)
    let low := Method.set (.detail ⟨"model", .low⟩)
    FacadeKind.detail.does task = true ∧ ∃ run call,
      (Host.nested env 0).useNew .detail uses (World.after env 0 none () []) = run ∧
      (Host.nested env 0).answer (.process run.1.1 task) run.2 = call ∧
      lastAccepted uses run.1.2 = some (.detail ⟨"model", .high⟩) ∧
      call.2.journal.filter Event.isUse = [.began 0 .work, .began 0 low] ∧
      ∃ later earlier, call.2.journal =
        later ++ .began 0 .work :: .ended 0 low true :: .began 0 low :: earlier := by
  intro env uses task low
  have hd : FacadeKind.detail.does task = true := rfl
  have hpushes := process_pushes_accepted env 0 none () [] .detail uses hd
  have haccepted : lastAccepted uses ((Host.nested env 0).useNew .detail uses
      (World.after env 0 none () [])).1.2 = some (.detail ⟨"model", .high⟩) := by
    decide +kernel
  have hbefore : ((Host.nested env 0).useNew .detail uses
      (World.after env 0 none () [])).2.journal.filter Event.isUse = [] := by decide +kernel
  have huses : ((Host.nested env 0).answer (.process
      ((Host.nested env 0).useNew .detail uses (World.after env 0 none () [])).1.1 task)
      ((Host.nested env 0).useNew .detail uses (World.after env 0 none () [])).2).2.journal.filter
        Event.isUse = [.began 0 .work, .began 0 low] := by
    decide +kernel
  dsimp only at hpushes
  generalize (Host.nested env 0).useNew .detail uses (World.after env 0 none () []) = run
    at hpushes haccepted hbefore huses
  generalize hcall : (Host.nested env 0).answer (.process run.1.1 task) run.2 = call
    at hpushes huses
  obtain ⟨-, ⟨new, hjournal, hworked, -⟩, -⟩ := hpushes
  have hnew : new.filter Event.isUse = [.began 0 .work, .began 0 low] := by
    rw [← huses, hjournal, List.filter_append, hbefore, List.append_nil]
  have hmem : Event.began 0 .work ∈ new.filter Event.isUse := by
    rw [hnew]
    exact List.mem_cons_self
  obtain ⟨later, earlier, he⟩ := List.append_of_mem (List.mem_filter.1 hmem).1
  obtain ⟨a, -, -, hinitial⟩ := hworked 0 later earlier he
  obtain ⟨p, hp⟩ : ∃ p, FacadeKind.detail.pushed (lastAccepted uses run.1.2) a.query = some p := by
    rw [haccepted]
    cases a.query <;> exact ⟨_, rfl⟩
  obtain ⟨rest, rfl⟩ := hinitial p hp
  -- What was pushed before the work can only be the one parameter that was pushed at all.
  have hpushed : Event.began 0 (.set p) ∈ new.filter Event.isUse :=
    List.mem_filter.2 ⟨by rw [he]; simp, rfl⟩
  rw [hnew] at hpushed
  obtain rfl : p = .detail ⟨"model", .low⟩ := by simpa [low] using hpushed
  exact ⟨hd, run, call, rfl, hcall, haccepted, huses, later, rest ++ run.2.journal,
    by rw [hjournal, he]; simp [low]⟩

end ImageDispatch
