import ImageDispatch.Proofs.Lookups.Obtain

/-!
# The lookups of a run

* `Lookup`: a lookup of a façade for an implementation, with the world in which it begins.
* `Host.lookups`: those of a call. A call on valid surfaces makes one, and an image detail enhancer
  one for each level that it attempts.
* `World.lookups`: those of a run of clients, one after the other.
* `Host.Course`: how a dispatcher gets from one world to another one with some lookups. Apart from
  them it is quiet. If clients are free to, they also find and create by themselves.
* `course_after`: every run is a course with its lookups.
-/

namespace ImageDispatch

open Act World

variable {σ α : Type}

/-! ## Lookups -/

/-- The level of a query for the enhancement of detail. -/
def Query.level : Query → DetailLevel
  | .detail l => l
  | _ => .none

/-- What a façade with a parameter asks for in a task. Enhancers of detail ask for a level. -/
def Task.queryAt (P : Option Parameter) (level : DetailLevel) : Task → Query
  | detail .. => .detail level
  | task => task.query P

/-- A lookup for an implementation. -/
structure Lookup (σ : Type) where
  facade : FacadeId
  /-- The parameter that the façade has at the beginning of the call. -/
  parameter : Option Parameter
  task : Task
  /-- The level that is attempted, if it is an enhancement of detail. -/
  level : DetailLevel
  /-- The world in which the lookup begins. -/
  world : World σ

namespace Lookup

/-- What is asked for. -/
def query (l : Lookup σ) : Query := l.task.queryAt l.parameter l.level

/-- What the lookup comes to, with the world afterwards. -/
def result (host : Host σ) (l : Lookup σ) : Except Error ObjectId × World σ :=
  host.obtain l.facade l.query l.world

end Lookup

/-- The lookup of an attempt. -/
def Attempt.lookup (f : FacadeId) (P : Option Parameter) (task : Task) (a : Attempt σ) :
    Lookup σ :=
  ⟨f, P, task, a.query.level, a.world⟩

/-- The lookups of a call. -/
def Host.lookups (host : Host σ) (f : FacadeId) (task : Task) (w : World σ) : List (Lookup σ) :=
  match w.facade? f, task.job.validate with
  | some facade, .ok () =>
    let P := facade.parameter
    if facade.kind.does task then
      (host.attempts f facade.kind P (facade.kind.queries P task) task.job
        (host.openCall f facade.kind task w).2).map (Attempt.lookup f P task)
    else []
  | _, _ => []

/-- The lookups of a call on the memory of the caller. -/
def Host.surfaceLookups (host : Host σ) (f : FacadeId) (family : InstanceFamily)
    (input output : Option ImageDescriptor) (w : World σ) : List (Lookup σ) :=
  match readSurfaces family input output with
  | .ok (source, target) => host.lookups f (family.task source target) w
  | .error _ => []

/-- The lookups of a call from C. -/
def Host.imageLookups (host : Host σ) (family : InstanceFamily) (id : Int32)
    (input output : Option ImageDescriptor) (w : World σ) : List (Lookup σ) :=
  match lookUp id w with
  | (.ok (f, kind), w) =>
    if kind.family = family.name then
      host.surfaceLookups f family input output (pin (.facade f) w).2
    else []
  | (.error _, _) => []

/-- The lookups of a step of a client. -/
def ClientStep.lookups (host : Host σ) (settings : Option (String → Option String)) :
    ClientStep → World σ → List (Lookup σ)
  | ask (.process f task), w => host.lookups f task w
  | processImage family id input output, w =>
    host.imageLookups family id input output (Host.begin (opening settings) w).2
  | _, _ => []

/-- The client finds or creates by itself, past any façade. -/
def ClientStep.Bypasses : ClientStep → Prop
  | ask (.find _) | ask (.create _) => True
  | _ => False

/-- The lookups of steps of clients with a dispatcher that answers nothing from within. -/
def World.lookups (env : Environment σ) (settings : Option (String → Option String)) :
    List ClientStep → World σ → List (Lookup σ)
  | [], _ => []
  | step :: rest, w =>
    step.lookups (.nested env 0) settings w ++
      lookups env settings rest (step.take (.nested env 0) settings w).2

section

variable {host : Host σ} {l : Lookup σ} {w : World σ}

theorem Host.of_mem_lookups {f : FacadeId} {task : Task} (h : l ∈ host.lookups f task w) :
    l.facade = f ∧ l.task = task := by
  unfold lookups at h
  split at h
  · split at h
    · obtain ⟨a, -, rfl⟩ := List.mem_map.1 h
      exact ⟨rfl, rfl⟩
    · cases h
  · cases h

/-- Façades make lookups for the work that they are given. -/
theorem ClientStep.mayWork {settings : Option (String → Option String)} {step : ClientStep}
    (h : l ∈ step.lookups host settings w) : step.MayWork l.facade l.task := by
  cases step with
  | ask r =>
    cases r with
    | process f task =>
      obtain ⟨rfl, rfl⟩ := Host.of_mem_lookups h
      rfl
    | _ => cases h
  | processImage family id input output =>
    have h : l ∈ host.imageLookups family id input output _ := h
    unfold Host.imageLookups Host.surfaceLookups at h
    split at h
    · split at h
      · split at h
        next source target _ => exact ⟨source, target, (Host.of_mem_lookups h).2⟩
        · cases h
      · cases h
    · cases h
  | _ => cases h

theorem World.mayWork {env : Environment σ} {settings : Option (String → Option String)}
    {steps : List ClientStep} (h : l ∈ World.lookups env settings steps w) :
    ∃ step ∈ steps, step.MayWork l.facade l.task := by
  induction steps generalizing w with
  | nil => cases h
  | cons step rest ih =>
    rcases List.mem_append.1 h with h | h
    · exact ⟨step, List.mem_cons_self, ClientStep.mayWork h⟩
    · obtain ⟨s, hs, hwork⟩ := ih h
      exact ⟨s, List.mem_cons_of_mem _ hs, hwork⟩

end

/-! ## Façades at rest -/

/-- No creation is under way in a façade, and no cache has two entries for a key. -/
def World.Resting (w : World σ) : Prop :=
  ∀ f op c, w.cache? f op = some c → c.Keyed ∧ c.running = []

section

variable {w w₁ w₂ v : World σ} {f : FacadeId} {facade : Facade} {q : Query}
  {c : Cache Key ObjectId} {r : Except Error ObjectId}

/-- A lookup leaves the cache at rest. -/
theorem Query.Obtained.looked (h : q.Obtained f c w r v) (hk : c.Keyed) (hr : c.running = []) :
    ∃ c' new n, w.Looked f q.operation c' new n v ∧ c'.Keyed ∧ c'.running = [] := by
  cases h with
  | hit _ _ h => exact ⟨_, _, _, h, hk.get _, (c.running_get _).trans hr⟩
  | barred _ _ h => exact ⟨_, _, _, h, hk, hr⟩
  | missing _ h => exact ⟨_, _, _, h, hk.guarded .., rfl⟩
  | fails _ _ _ h => exact ⟨_, _, _, h, hk.guarded .., rfl⟩
  | creates _ _ _ _ h => exact ⟨_, _, _, h, (hk.insert ..).guarded .., rfl⟩

namespace World.Resting

theorem cache (h : w.Resting) (hf : w.facade? f = some facade) (op : Operation) :
    (facade.cache op).Keyed ∧ (facade.cache op).running = [] :=
  h f op _ (cache?_eq_some.2 ⟨facade, hf, rfl⟩)

theorem of_cache? (h : w.Resting) (hc : ∀ f op, w₁.cache? f op = w.cache? f op) : w₁.Resting := by
  intro f op c hf
  exact h f op c ((hc f op).symm.trans hf)

theorem quiet (h : w.Resting) {still : Bool} {p : CachePolicy} (hq : w.Quiet still p w₁) :
    w₁.Resting := by
  intro f op c hf
  rcases hq.descends hf with hf | ⟨-, rfl⟩
  · exact h f op c hf
  · exact ⟨Cache.keyed_empty p, rfl⟩

theorem obtained (h : w.Resting) (hf : w.facade? f = some facade)
    (ho : q.Obtained f (facade.cache q.operation) w r v) : v.Resting := by
  obtain ⟨hk, hr⟩ := h.cache hf q.operation
  obtain ⟨c', new, n, hl, hk', hr'⟩ := ho.looked hk hr
  intro g op c hg
  rw [hl.caches] at hg
  split at hg
  · cases hg
    exact ⟨hk', hr'⟩
  · exact h g op c hg

end World.Resting

/-- A lookup of a façade at rest comes to what is said of lookups. -/
theorem Lookup.obtained {host : Host σ} (hs : host.Secluded) {l : Lookup σ}
    (hw : l.world.Resting) (hf : l.world.facade? l.facade = some facade) :
    l.query.Obtained l.facade (facade.cache l.query.operation) l.world (l.result host).1
      (l.result host).2 :=
  hs.obtain_obtained hf (hw.cache hf _).2

end

/-! ## Courses -/

/-- A dispatcher gets from `w` to another world, with some lookups on the way (module doc). -/
inductive Host.Course (host : Host σ) (free : Prop) (w : World σ) :
    List (Lookup σ) → World σ → Prop
  | refl : Course host free w [] w
  | quiet {ls : List (Lookup σ)} {w₁ w₂ : World σ} (h : Course host free w ls w₁)
    (hq : w₁.Quiet false host.env.config.cachePolicy w₂) : Course host free w ls w₂
  /-- A client finds or creates by itself, which leaves façades alone. -/
  | aside {ls : List (Lookup σ)} {w₁ w₂ : World σ} (h : Course host free w ls w₁) (hfree : free)
    (hf : w₂.facades = w₁.facades) (ho : w₁.objects.size ≤ w₂.objects.size) :
    Course host free w ls w₂
  /-- A façade that is there makes a lookup. -/
  | look {ls : List (Lookup σ)} (l : Lookup σ) (h : Course host free w ls l.world)
    {facade : Facade} (hf : l.world.facade? l.facade = some facade) :
    Course host free w (ls ++ [l]) (l.result host).2

namespace Host

variable {host : Host σ} {free : Prop} {w w₁ w₂ : World σ} {ls ls' : List (Lookup σ)}

namespace Course

theorem trans (h : host.Course free w ls w₁) (h' : host.Course free w₁ ls' w₂) :
    host.Course free w (ls ++ ls') w₂ := by
  induction h' with
  | refl => rwa [List.append_nil]
  | quiet _ hq ih => exact ih.quiet hq
  | aside _ hfree hf ho ih => exact ih.aside hfree hf ho
  | look l _ hf ih =>
    rw [← List.append_assoc]
    exact .look l ih hf

theorem of_quiet (h : w.Quiet false host.env.config.cachePolicy w₁) :
    host.Course free w [] w₁ := refl.quiet h

/-- What comes after is quiet. -/
theorem bind {β : Type} {a : Act σ α} {k : α → Act σ β} (h : host.Course free w ls (a w).2)
    (hk : ∀ x, host.Quiet false (k x)) : host.Course free w ls ((a >>= k) w).2 :=
  h.quiet (hk _ _)

theorem resting (hs : host.Secluded) (h : host.Course free w ls w₁) (hw : w.Resting) :
    w₁.Resting := by
  induction h with
  | refl => exact hw
  | quiet _ hq ih => exact ih.quiet hq
  | aside _ _ hf _ ih => exact ih.of_cache? (cache?_of_facades hf)
  | look l _ hf ih => exact ih.obtained hf (Lookup.obtained hs ih hf)

end Course

namespace Secluded

variable (hs : host.Secluded) {f : FacadeId} {kind : FacadeKind} {P : Option Parameter}
  {facade : Facade}

include hs

/-! ## Calls -/

theorem employAny_quiet {still : Bool} (q : Query) (job : Job) (r : Except Error ObjectId) :
    host.Quiet still (host.employAny (parameterFor f kind P q) job r) := by
  cases r with
  | error e => exact .ret _
  | ok o =>
    intro w
    unfold employAny
    dsimp only
    rw [bind_run, parameterFor_snd]
    exact hs.employ_quiet o _ job w

/-- An attempt is its lookup, and the façade stays. -/
theorem attempt_course (hw : w.Resting) (hf : w.facade? f = some facade) (kind : FacadeKind)
    {task : Task} {level : DetailLevel} {q : Query} (hq : task.queryAt P level = q) (job : Job) :
    host.Course free w [⟨f, P, task, level, w⟩] (host.attempt f kind P q job w).2 ∧
      ∃ facade, (host.attempt f kind P q job w).2.facade? f = some facade := by
  subst hq
  let l : Lookup σ := ⟨f, P, task, level, w⟩
  obtain ⟨hk, hr⟩ := hw.cache hf l.query.operation
  obtain ⟨c', new, n, hl, -⟩ := (l.obtained hs hw hf).looked hk hr
  have hemploy : host.Quiet true (host.employAny (parameterFor f kind P l.query) job
      (l.result host).1) := hs.employAny_quiet _ _ _
  have hlook : host.Course free w [l] (l.result host).2 := Course.refl.look l hf
  refine ⟨hlook.quiet (hemploy _).weaken, ?_⟩
  obtain ⟨facade', hf', -⟩ := (hl.still (hemploy (l.result host).2)).there
  exact ⟨facade', hf'⟩

/-- The lookups of the ladder are those of its attempts. -/
theorem descend_course (hw : w.Resting) (hf : w.facade? f = some facade) (P : Option Parameter)
    (input output : Surface) (target : DetailLevel) (levels : List DetailLevel)
    (first : Option Error) (job : Job) :
    host.Course free w
      ((host.attempts f .detail P (levels.map .detail) job w).map
        (Attempt.lookup f P (.detail input output)))
      (host.descend f (detailParameter false P) target levels first job w).2 := by
  induction levels generalizing first job w facade with
  | nil => exact .refl
  | cons level rest ih =>
    have hquery : (Task.detail input output).queryAt P level = .detail level := rfl
    have hattempt : host.Course free w _ _ ∧ _ := hs.attempt_course hw hf .detail hquery job
    obtain ⟨hfirst, facade', hthere⟩ := hattempt
    have hidle := hfirst.resting hs hw
    rw [List.map_cons]
    cases hx : host.attempt f .detail P (.detail level) job w with
    | mk answer w' =>
      obtain ⟨r, job'⟩ := answer
      rw [hx] at hfirst hthere hidle
      cases r with
      | ok =>
        have hend : w'.Quiet false host.env.config.cachePolicy
            (host.descend f (detailParameter false P) target (level :: rest) first job w).2 := by
          have hattempt : host.attemptLevel f (detailParameter false P) level job =
            host.attempt f .detail P (.detail level) job := rfl
          rw [descend, bind_run, hattempt, hx]
          dsimp only
          split
          · exact (Quiet.bind (.log _ _) fun _ => .ret _) w'
          · exact .refl w'
        rw [attempts_cons_ok hx]
        exact hfirst.quiet hend
      | error e =>
        have hshort : w'.Quiet true host.env.config.cachePolicy
            (shortfall (.detail level) e w').2 := shortfall_quiet (.detail level) e w'
        have hthere' : (shortfall (.detail level) e w').2.facade? f = some facade' := by
          rw [World.facade?, (hshort.still rfl).1]
          exact hthere
        have hrest := ih (hidle.quiet hshort) hthere'
          (first.or (if e.isNotFound then none else some e)) job'
        rw [attempts_cons_error hx, descend_cons_error target rest first hx]
        exact (hfirst.quiet hshort.weaken).trans hrest

omit hs in
/-- A copy is no lookup. -/
theorem copy_quiet {still : Bool} {input output : Surface}
    (hc : input.sameShape output = true) :
    host.Quiet still (host.dispatch f .detail (.detail input output)) := by
  intro w
  show w.Quiet still _ (host.runDetail f false input output w).2
  unfold runDetail parameterOf
  rw [bind_run]
  dsimp only
  rw [if_neg (by simp), if_pos ⟨targetLevel_copies hc _, hc⟩]
  refine (Quiet.bind (.log _ _) fun _ => ?_ : host.Quiet still _) w
  cases output.copyFrom input <;> exact .ret _

/-- The work of a façade has the lookups of its attempts. -/
theorem dispatch_course (hw : w.Resting) (hf : w.facade? f = some facade) {task : Task}
    (hd : kind.does task = true) (hP : facade.parameter = P) :
    host.Course free w ((host.attempts f kind P (kind.queries P task) task.job w).map
      (Attempt.lookup f P task)) (host.dispatch f kind task w).2 := by
  have hparameter : (w.facade? f).bind Facade.parameter = P := by rw [hf]; exact hP
  by_cases hk : kind = .detail
  · subst hk
    cases task with
    | detail input output =>
      cases hc : input.sameShape output with
      | true =>
        have hcopy : (Task.detail input output).isCopy = true := hc
        rw [FacadeKind.queries_of_copy hcopy]
        exact .of_quiet (copy_quiet hc w)
      | false =>
        have hcopy : (Task.detail input output).isCopy = false := hc
        rw [dispatch_ladder hc hparameter, FacadeKind.queries_of_not_copy hcopy]
        exact hs.descend_course hw hf P input output _ _ none _
    | _ => cases hd
  · have hquery : task.queryAt P (task.query P).level = task.query P := by cases task <;> rfl
    rw [dispatch_eq_attempt hd hk hparameter, FacadeKind.queries_of_ne hk, attempts_singleton]
    exact (hs.attempt_course hw hf kind hquery task.job).1

theorem process_course (hw : w.Resting) (f : FacadeId) (task : Task) :
    host.Course free w (host.lookups f task w) (host.process f task w).2 := by
  unfold lookups
  cases hf : w.facade? f with
  | none =>
    rw [process_refused fun facade hf' => by rw [hf] at hf'; cases hf']
    exact .refl
  | some facade =>
    by_cases hd : facade.kind.does task = true
    · have hopen : w.Quiet false host.env.config.cachePolicy
          (host.openCall f facade.kind task w).2 := openCall_quiet f facade.kind task w
      cases hv : task.job.validate with
      | error e =>
        rw [process_invalid hf hd hv]
        exact .of_quiet (hopen.trans (hs.unpin_quiet _ _))
      | ok =>
        dsimp only
        rw [if_pos hd, process_valid hf hd hv]
        have hthere : (host.openCall f facade.kind task w).2.facade? f = some facade :=
          (openCall_facade? facade.kind task f).trans hf
        have hwork : host.Course free _ _ _ :=
          hs.dispatch_course (hw.quiet hopen) hthere hd rfl
        exact ((Course.of_quiet hopen).trans hwork).quiet (hs.unpin_quiet _ _)
    · have hrefused : host.process f task w = (.refused, w) := by
        refine process_refused fun facade' hf' => ?_
        cases hf.symm.trans hf'
        exact Bool.eq_false_iff.2 hd
      rw [hrefused]
      cases task.job.validate with
      | error e => exact .refl
      | ok =>
        dsimp only
        rw [if_neg hd]
        exact .refl

/-- On any other request nothing is looked up, unless a client finds or creates by itself. -/
theorem answer_course (hw : w.Resting) (settings : Option (String → Option String)) (r : Request)
    (hfree : (ClientStep.ask r).Bypasses → free) :
    host.Course free w ((ClientStep.ask r).lookups host settings w) (host.answer r w).2 := by
  have quiet {a : Act σ Reply} (h : host.Quiet false a) : host.Course free w [] (a w).2 :=
    .of_quiet (h w)
  cases r with
  | facade kind =>
    exact quiet ((hs.makeFacade_quiet kind).bind fun f => (handOver_quiet _).bind fun _ => .ret _)
  | lease => exact quiet (hs.takeLease_quiet.bind fun _ => .ret _)
  | hold r => exact quiet (hold_quiet r)
  | drop r => exact quiet (hs.drop_quiet r)
  | set f p => exact quiet (setParameter_quiet f p)
  | process f task => exact hs.process_course hw f task
  | find q =>
    have hfound := hs.find_quiet q w
    exact Course.refl.aside (hfree trivial) (hfound.still rfl).1 hfound.objects
  | create q =>
    have hcreated : (host.create q w).2.facades = w.facades ∧
        w.objects.size ≤ (host.create q w).2.objects.size := by
      have h := hs.create_created q w
      generalize (host.create q w).1 = r, (host.create q w).2 = v at h
      cases h with
      | missing h | fails _ _ h | creates _ _ _ h => exact ⟨(h.still rfl).1, h.objects⟩
    refine Course.bind (Course.refl.aside (hfree trivial) hcreated.1 hcreated.2) fun r => ?_
    cases r with
    | error e => exact .ret _
    | ok o => exact (handOver_quiet _).bind fun _ => .ret _
  | direct o call => exact quiet (hs.direct_quiet o call)
  | load family static dynamic =>
    exact quiet ((hs.load_quiet family static dynamic).bind fun _ => .ret _)
  | increase =>
    exact quiet (hs.increase_quiet.bind fun _ => Quiet.bind (.emit rfl rfl) fun _ => .ret _)
  | decrease =>
    exact quiet (Quiet.bind (.emit rfl rfl) fun _ => hs.decrease_quiet.bind fun _ => .ret _)

/-! ## Calls from C -/

theorem processSurfaces_course (hw : w.Resting) (f : FacadeId) (family : InstanceFamily)
    (input output : Option ImageDescriptor) :
    host.Course free w (host.surfaceLookups f family input output w)
      (host.processSurfaces f family input output w).2 := by
  unfold processSurfaces surfaceLookups
  cases readSurfaces family input output with
  | error e => exact .refl
  | ok x =>
    obtain ⟨source, target⟩ := x
    refine (hs.process_course hw f (family.task source target)).bind fun r => ?_
    split
    · split
      · split <;> exact .ret _
      · exact .ret _
    · exact .ret _
    · exact .ret _

theorem processOutcome_course (hw : w.Resting) (family : InstanceFamily) (id : Int32)
    (input output : Option ImageDescriptor) :
    host.Course free w (host.imageLookups family id input output w)
      (host.processOutcome family id input output w).2 := by
  have hfound : w.Quiet false host.env.config.cachePolicy (lookUp id w).2 := lookUp_quiet id w
  unfold processOutcome imageLookups
  rw [bind_run]
  cases hl : lookUp id w with
  | mk r v =>
    rw [hl] at hfound
    cases r with
    | error e => exact .of_quiet hfound
    | ok x =>
      obtain ⟨f, kind⟩ := x
      by_cases hk : kind.family = family.name
      · have hpin : v.Quiet false host.env.config.cachePolicy (pin (.facade f) v).2 :=
          pin_quiet (.facade f) v
        have hidle : (pin (.facade f) v).2.Resting := (hw.quiet hfound).quiet hpin
        have hopened : host.Course free w [] (pin (.facade f) v).2 :=
          .of_quiet (hfound.trans hpin)
        have hworked := hopened.trans (hs.processSurfaces_course hidle f family input output)
        dsimp only
        rw [if_neg (not_not.2 hk), if_pos hk]
        exact hworked.quiet (hs.unpin_quiet (.facade f) _)
      · dsimp only
        rw [if_pos hk, if_neg hk]
        exact .of_quiet hfound

/-! ## Runs -/

/-- A step of a client has the lookups that are said to be its own. -/
theorem take_course (hw : w.Resting) (settings : Option (String → Option String))
    (step : ClientStep) (hfree : step.Bypasses → free) :
    host.Course free w (step.lookups host settings w) (step.take host settings w).2 := by
  have quiet {a : Act σ Unit} (h : host.Quiet false a) : host.Course free w [] (a w).2 :=
    .of_quiet (h w)
  have begun : host.Quiet false (begin (opening settings)) := begin_quiet settings
  cases step with
  | ask r => exact hs.answer_course hw settings r hfree
  | enroll kind =>
    exact quiet ((hs.makeFacade_quiet kind).bind fun f => Quiet.map (hs.enroll_quiet f _))
  | share id =>
    refine quiet ((lookUp_quiet id).bind fun r => ?_)
    split
    · exact .ret _
    · exact .change fun _ => ⟨rfl, rfl, Nat.le_refl _, rfl, rfl⟩
  | retire id family => exact quiet (Quiet.map (hs.retire_quiet id family))
  | createInstance family level pointer =>
    refine quiet (Quiet.map ?_)
    unfold createInstance
    cases pointer with
    | none => exact .ret _
    | some _ =>
      refine begun.bind fun _ => (hs.createOutcome_quiet family level).bind fun r => ?_
      cases r <;> exact (status_quiet _).bind fun _ => .ret _
  | processImage family id input output =>
    have hopen := begun w
    have houtcome : host.Course free _ _ _ :=
      hs.processOutcome_course (hw.quiet hopen) family id input output
    exact ((Course.of_quiet hopen).trans houtcome).quiet (status_quiet _ _)
  | destroyInstance family pointer =>
    refine quiet (Quiet.map ?_)
    unfold destroyInstance
    cases pointer with
    | none => exact .ret _
    | some id =>
      exact begun.bind fun _ => (hs.retire_quiet id _).bind fun r => (status_quiet r).bind fun _ =>
        .ret _

end Secluded

end Host

theorem World.cache?_start (memory : σ) (f : FacadeId) (op : Operation) :
    World.cache? { memory := memory } f op = none := by
  simp [World.cache?, World.facade?]

theorem World.resting_start (memory : σ) : World.Resting { memory := memory } := by
  intro f op c hc
  rw [World.cache?_start] at hc
  cases hc

/-- Every run of clients is a course with its lookups, if code of others asks nothing. -/
theorem course_after (env : Environment σ) (settings : Option (String → Option String))
    (memory : σ) {free : Prop} {steps : List ClientStep}
    (hfree : ∀ step ∈ steps, step.Bypasses → free) :
    (Host.nested env 0).Course free { memory } (World.lookups env settings steps { memory })
      (World.after env 0 settings memory steps) := by
  have hs := Host.secluded_zero env
  suffices ∀ w : World σ, w.Resting → (Host.nested env 0).Course free w
      (World.lookups env settings steps w)
      ((steps.forM fun step => step.take (Host.nested env 0) settings) w).2 from
    this _ (World.resting_start memory)
  induction steps with
  | nil => exact fun _ _ => .refl
  | cons step rest ih =>
    intro w hw
    have hstep := hs.take_course hw settings step (hfree step List.mem_cons_self)
    have hrest := ih (fun s hmem => hfree s (List.mem_cons_of_mem _ hmem))
      (step.take (Host.nested env 0) settings w).2 (hstep.resting hs hw)
    exact hstep.trans hrest

end ImageDispatch
