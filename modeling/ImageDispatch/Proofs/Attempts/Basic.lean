import ImageDispatch.Proofs.Policy.Calls
import ImageDispatch.Proofs.Surface.Valid

/-!
# Attempts

A call of a façade consists of attempts: for each query that comes into question an implementation
is obtained, the parameter is pushed into it, and it does the job.

* `FacadeKind.queries`: what comes into question for a task. Only image detail enhancers have a
  choice, and they have none if the surfaces are of one shape (`Task.isCopy`).
* `Host.attempt`: one attempt. `Host.attempts`: those of a call, each with the world in which it
  begins. The outputs of a failed attempt are what the next one works on.
* `Host.process_run`: a whole call is its attempts, after the surfaces were found to be valid.
* `reported`: how the results of the attempts make the result of the call
  (`Host.descend_reported`).
-/

namespace ImageDispatch

open Act World

variable {σ : Type}

/-! ## Queries of façades -/

namespace Query

/-- The operation of a façade that asks. -/
def operation : Query → Operation
  | compose _ => .compose
  | decompose _ => .decompose
  | _ => .main

/-- The kind of façade that asks. -/
def seeker : Query → FacadeKind
  | generate _ => .metadata
  | detail _ => .detail
  | hdr _ => .hdr
  | contrast _ => .contrast
  | _ => .converter

/-- What the façade reports before it creates an implementation. -/
def announcement (q : Query) : Option String :=
  match q with
  | convert k | compose k | decompose k =>
    some s!"{FacadeKind.converter.family} resolving {q.operation.name} for {k.text}"
  | _ => none

end Query

/-- The surfaces are of one shape, so that an image detail enhancer copies. -/
def Task.isCopy : Task → Bool
  | detail input output => input.sameShape output
  | _ => false

/-- The query for a task of a façade with a parameter, unless it is an image detail enhancer. -/
def Task.query (P : Option Parameter) : Task → Query
  | convert input output => .convert (.ofSurfaces input output)
  | compose sdr _ image => .compose (.ofSurfaces sdr image)
  | decompose image sdr _ => .decompose (.ofSurfaces image sdr)
  | generate buffer =>
    .generate ⟨buffer.description, buffer.format, Supply.generation P⟩
  | detail .. => .detail .video
  | hdr buffer => .hdr buffer.format
  | contrast kind _ _ => .contrast kind

/-- The level at which an image detail enhancer begins with a task. -/
def Task.target (P : Option Parameter) : Task → DetailLevel
  | detail input output =>
    Host.targetLevel (Host.detailParameter false P).level input output
  | _ => .none

namespace FacadeKind

/-- What comes into question for a task of a façade with a parameter, one after the other. -/
def queries (kind : FacadeKind) (P : Option Parameter) (task : Task) : List Query :=
  if kind = .detail then
    if task.isCopy then [] else (task.target P).descending.map .detail
  else [task.query P]

/-- What a façade with a parameter pushes into an implementation for a query. A detail enhancer
always has something to push. -/
def pushed (kind : FacadeKind) (P : Option Parameter) : Query → Option Parameter
  | .detail level =>
    some (.detail { Host.detailParameter (kind = .videoDetail) P with level })
  | _ => P

variable {P : Option Parameter} {task : Task}

/-- Façades that are not for images have no choice. -/
theorem queries_of_ne {kind : FacadeKind} (hk : kind ≠ .detail) :
    kind.queries P task = [task.query P] := by
  unfold queries
  rw [if_neg hk]

theorem queries_of_copy (hc : task.isCopy = true) : FacadeKind.detail.queries P task = [] := by
  unfold queries
  rw [if_pos rfl, if_pos hc]

theorem queries_of_not_copy (hc : task.isCopy = false) :
    FacadeKind.detail.queries P task = (task.target P).descending.map .detail := by
  unfold queries
  rw [if_pos rfl, if_neg (by rw [hc]; nofun)]

end FacadeKind

/-! ## Attempts -/

/-- An attempt of a façade to have a job done. -/
structure Attempt (σ : Type) where
  query : Query
  job : Job
  /-- The world in which it begins. -/
  world : World σ

namespace Host

variable (host : Host σ)

/-- Obtains an implementation for a query. The running call holds it. -/
def obtain (f : FacadeId) (q : Query) : Act σ (Except Error ObjectId) :=
  match q with
  | .contrast k => host.resolveContrast f k
  | q => host.resolve f q.seeker q.operation q q.announcement

/-- What a façade that had the parameter `P` when the call began pushes into an implementation for
a query. Converters and the enhancers of HDR and contrast look for their parameter only now. -/
def parameterFor (f : FacadeId) (kind : FacadeKind) (P : Option Parameter) :
    Query → Act σ (Option Parameter)
  | .generate _ => return P
  | .detail level => return kind.pushed P (.detail level)
  | _ => parameterOf f

/-- Obtains an implementation for a query, and lets it do a job. -/
def attempt (f : FacadeId) (kind : FacadeKind) (P : Option Parameter) (q : Query) (job : Job) :
    Act σ (Except Error Unit × Job) :=
  host.obtain f q >>= host.employAny (parameterFor f kind P q) job

/-- What is reported when an attempt has failed: a level was left out. -/
def shortfall : Query → Error → Act σ Unit
  | .detail level, e => do
    if level.lower?.isSome then
      count .fallbacks
    log .debug s!"{FacadeKind.detail.family} level {level.name} unavailable: {e.message}"
  | _, _ => return

/-- The attempts of a façade at some queries, until one succeeds. -/
def attempts (f : FacadeId) (kind : FacadeKind) (P : Option Parameter) :
    List Query → Job → World σ → List (Attempt σ)
  | [], _, _ => []
  | q :: rest, job, w =>
    let x := host.attempt f kind P q job w
    ⟨q, job, w⟩ :: match x.1.1 with
      | .ok () => []
      | .error e => attempts f kind P rest x.1.2 (shortfall q e x.2).2

/-- How an attempt ends, with the job and the world afterwards. -/
def outcome (f : FacadeId) (kind : FacadeKind) (P : Option Parameter) (a : Attempt σ) :
    (Except Error Unit × Job) × World σ :=
  host.attempt f kind P a.query a.job a.world

end Host

/-! ## Results -/

/-- The error of an attempt that failed for another reason than a missing capability. -/
def otherError? : Except Error Unit → Option Error
  | .ok () => none
  | .error e => if e.isNotFound then none else some e

theorem otherError?_eq_some {r : Except Error Unit} {e : Error} (h : otherError? r = some e) :
    r = .error e ∧ e.isNotFound = false := by
  unfold otherError? at h
  split at h
  · cases h
  · split at h
    · cases h
    next hn => cases h; exact ⟨rfl, Bool.eq_false_iff.2 hn⟩

theorem Error.isNotFound_iff {e : Error} :
    e.isNotFound = true ↔ ∃ family key, e = .capabilityNotFound family key := by
  cases e <;> simp [Error.isNotFound]

/-- An attempt that failed, and not for another reason, has missed a capability. -/
theorem otherError?_eq_none {r : Except Error Unit} :
    r.isOk = false ∧ otherError? r = none ↔ ∃ e, r = .error e ∧ e.isNotFound = true := by
  constructor
  · rintro ⟨hfailed, hother⟩
    cases r with
    | ok => cases hfailed
    | error e =>
      refine ⟨e, rfl, ?_⟩
      rw [otherError?] at hother
      by_contra hn
      rw [if_neg hn] at hother
      cases hother
  · rintro ⟨e, rfl, hn⟩
    exact ⟨rfl, by rw [otherError?, if_pos hn]⟩

/-- The result of attempts: success if one of them succeeds, or else the first error that is no
missing capability, beginning with `first`. Without one, `missing` is reported. -/
def reported (missing : Error) (first : Option Error) (results : List (Except Error Unit)) :
    Except Error Unit :=
  if results.any Except.isOk then .ok ()
  else .error ((first.or (results.findSome? otherError?)).getD missing)

theorem reported_cons_error (missing : Error) (first : Option Error) (e : Error)
    (results : List (Except Error Unit)) :
    reported missing first (.error e :: results) =
      reported missing (first.or (if e.isNotFound then none else some e)) results := by
  unfold reported
  rw [List.any_cons, List.findSome?_cons, otherError?]
  cases first <;> cases e.isNotFound <;> rfl

theorem reported_error {missing e : Error} {results : List (Except Error Unit)}
    (h : reported missing none results = .error e) :
    (∀ r ∈ results, r.isOk = false) ∧
      ((e = missing ∧ ∀ r ∈ results, otherError? r = none) ∨
        e.isNotFound = false ∧ .error e ∈ results) := by
  unfold reported at h
  split at h
  · cases h
  next hany =>
    refine ⟨fun r hr => Bool.eq_false_iff.2 fun hok => hany (List.any_eq_true.2 ⟨r, hr, hok⟩), ?_⟩
    rw [Option.none_or] at h
    cases hfind : results.findSome? otherError? with
    | none =>
      rw [hfind] at h
      cases h
      exact .inl ⟨rfl, List.findSome?_eq_none_iff.1 hfind⟩
    | some e' =>
      rw [hfind] at h
      cases h
      obtain ⟨r, hr, hother⟩ := List.exists_of_findSome?_eq_some hfind
      obtain ⟨rfl, hn⟩ := otherError?_eq_some hother
      exact .inr ⟨hn, hr⟩

theorem reported_eq_ok_iff {missing : Error} {results : List (Except Error Unit)} :
    reported missing none results = .ok () ↔ ∃ r ∈ results, r = .ok () := by
  unfold reported
  split
  next h =>
    obtain ⟨r, hr, hok⟩ := List.any_eq_true.1 h
    cases r with
    | ok => exact ⟨fun _ => ⟨_, hr, rfl⟩, fun _ => rfl⟩
    | error => cases hok
  next h =>
    refine ⟨nofun, ?_⟩
    rintro ⟨r, hr, rfl⟩
    exact absurd (List.any_eq_true.2 ⟨_, hr, rfl⟩) h

/-- A missing capability is reported exactly if all attempts have missed one. -/
theorem reported_notFound_iff {family key : String} {results : List (Except Error Unit)} :
    (∃ family' key', reported (.capabilityNotFound family key) none results =
        .error (.capabilityNotFound family' key')) ↔
      ∀ r ∈ results, ∃ e, r = .error e ∧ e.isNotFound = true := by
  constructor
  · rintro ⟨family', key', he⟩ r hr
    obtain ⟨hfailed, ⟨-, hnone⟩ | ⟨hn, -⟩⟩ := reported_error he
    · exact otherError?_eq_none.1 ⟨hfailed r hr, hnone r hr⟩
    · cases hn
  · intro h
    have missed := fun r hr => otherError?_eq_none.2 (h r hr)
    have hnone : ¬results.any Except.isOk = true := by
      rw [List.any_eq_true]
      rintro ⟨r, hr, hok⟩
      rw [(missed r hr).1] at hok
      cases hok
    refine ⟨family, key, ?_⟩
    rw [reported, if_neg hnone, List.findSome?_eq_none_iff.2 fun r hr => (missed r hr).2]
    rfl

/-! ## Calls as attempts -/

/-- An image detail enhancer is not asked for a level that needs a model if the surfaces are of one
shape: the output is not smaller. -/
theorem Host.targetLevel_copies {input output : Surface} (h : input.sameShape output = true)
    (level : DetailLevel) : (targetLevel level input output).needsModel = false := by
  have hw : ¬(output.width < input.width ∧ output.height < input.height) := by
    unfold Surface.sameShape at h
    simp only [Bool.and_eq_true, decide_eq_true_eq] at h
    rw [h.1.1]
    exact fun hlt => (UInt32.lt_irrefl _ hlt.1)
  unfold targetLevel
  split
  · rw [if_neg hw]; rfl
  · rw [if_neg hw]; rfl
  next hhigh haisr => exact decide_eq_false haisr

namespace Host

variable {host : Host σ} {f : FacadeId} {kind : FacadeKind} {P : Option Parameter} {w : World σ}

theorem attempts_cons_ok {q : Query} {job job' : Job} {w' : World σ}
    (h : host.attempt f kind P q job w = ((.ok (), job'), w')) (rest : List Query) :
    host.attempts f kind P (q :: rest) job w = [⟨q, job, w⟩] := by rw [attempts, h]

theorem attempts_cons_error {q : Query} {job job' : Job} {w' : World σ} {e : Error}
    (h : host.attempt f kind P q job w = ((.error e, job'), w')) (rest : List Query) :
    host.attempts f kind P (q :: rest) job w =
      ⟨q, job, w⟩ :: host.attempts f kind P rest job' (shortfall q e w').2 := by rw [attempts, h]

variable (f kind P) in
theorem attempts_singleton (q : Query) (job : Job) (w : World σ) :
    host.attempts f kind P [q] job w = [⟨q, job, w⟩] := by
  rw [attempts]
  split <;> rfl

/-! ## The ladder -/

section

variable (target : DetailLevel) {level : DetailLevel} (rest : List DetailLevel)
  (first : Option Error) {job job' : Job} {w' : World σ}

/-- The ladder ends with an attempt that succeeds. It may be reported that this is not the one at
the target. -/
theorem descend_cons_ok
    (h : host.attempt f .detail P (.detail level) job w = ((.ok (), job'), w')) :
    ∃ reports, host.descend f (detailParameter false P) target (level :: rest) first job w =
        ((.ok (), job'), { w' with journal := reports ++ w'.journal }) ∧
      ∀ e ∈ reports, e.isReport = true := by
  have hattempt : host.attemptLevel f (detailParameter false P) level job =
    host.attempt f .detail P (.detail level) job := rfl
  rw [descend, bind_run, hattempt, h]
  dsimp only
  split
  · exact ⟨[_], rfl, fun e he => by rw [List.mem_singleton.1 he]; rfl⟩
  · exact ⟨[], rfl, nofun⟩

/-- After an attempt that fails come the report of it and the rest of the ladder. -/
theorem descend_cons_error {e : Error}
    (h : host.attempt f .detail P (.detail level) job w = ((.error e, job'), w')) :
    host.descend f (detailParameter false P) target (level :: rest) first job w =
      host.descend f (detailParameter false P) target rest
        (first.or (if e.isNotFound then none else some e)) job'
        (shortfall (.detail level) e w').2 := by
  have hattempt : host.attemptLevel f (detailParameter false P) level job =
    host.attempt f .detail P (.detail level) job := rfl
  rw [descend, bind_run, hattempt, h]
  dsimp only [shortfall]
  split <;> rfl

end

/-- The result of the ladder is made from those of its attempts. -/
theorem descend_reported (target : DetailLevel) (levels : List DetailLevel) (first : Option Error)
    (job : Job) :
    (host.descend f (detailParameter false P) target levels first job w).1.1 =
      reported (.capabilityNotFound FacadeKind.detail.family s!"{target.name} or lower") first
        ((host.attempts f .detail P (levels.map .detail) job w).map fun a =>
          (host.outcome f .detail P a).1.1) := by
  induction levels generalizing first job w with
  | nil => cases first <;> rfl
  | cons level rest ih =>
    rw [List.map_cons]
    cases hx : host.attempt f .detail P (.detail level) job w with
    | mk answer w' =>
      obtain ⟨r, job'⟩ := answer
      cases r with
      | ok =>
        obtain ⟨reports, hdescend, -⟩ := descend_cons_ok target rest first hx
        rw [hdescend, attempts_cons_ok hx, List.map_singleton, outcome, hx]
        rfl
      | error e =>
        rw [descend_cons_error target rest first hx, attempts_cons_error hx, List.map_cons, outcome,
          hx, reported_cons_error, ← ih]

/-! ## Work as attempts -/

/-- A façade that has no choice makes one attempt. -/
theorem dispatch_eq_attempt {task : Task} (hd : kind.does task = true) (hk : kind ≠ .detail)
    (hP : (w.facade? f).bind Facade.parameter = P) :
    host.dispatch f kind task w = host.attempt f kind P (task.query P) task.job w := by
  cases task with
  | convert | compose | decompose => rfl
  | generate buffer =>
    show host.runMetadata f buffer w = _
    unfold runMetadata parameterOf
    rw [bind_run, ← hP]
    rfl
  | detail input output =>
    obtain rfl : kind = .videoDetail := ((FacadeKind.does_detail _ _).1 hd).resolve_left hk
    show host.runDetail f _ input output w = _
    unfold runDetail parameterOf
    rw [bind_run, ← hP]
    rfl
  | hdr => rfl
  | contrast => rfl

/-- An image detail enhancer copies surfaces of one shape, and reports it. -/
theorem dispatch_copy {input output : Surface} (hc : input.sameShape output = true) :
    ∃ e : Event, (host.dispatch f .detail (.detail input output) w).2 = w.note e ∧
      e.isReport = true ∧ ∀ copied, output.copyFrom input = .ok copied →
        (host.dispatch f .detail (.detail input output) w).1 =
          (.ok (), .transform input copied) := by
  show ∃ e : Event, (host.runDetail f false input output w).2 = _ ∧ _ ∧
    ∀ copied, _ → (host.runDetail f false input output w).1 = _
  unfold runDetail parameterOf
  rw [bind_run]
  dsimp only
  rw [if_neg (by simp), if_pos ⟨targetLevel_copies hc _, hc⟩, bind_run]
  cases output.copyFrom input with
  | error e => exact ⟨_, rfl, rfl, fun copied hcopy => by cases hcopy⟩
  | ok s =>
    refine ⟨_, rfl, rfl, fun copied hcopy => ?_⟩
    rw [← Except.ok.inj hcopy]
    rfl

/-- An image detail enhancer goes down the ladder from the target level for other surfaces. -/
theorem dispatch_ladder {input output : Surface} (hc : input.sameShape output = false)
    (hP : (w.facade? f).bind Facade.parameter = P) :
    host.dispatch f .detail (.detail input output) w =
      host.descend f (detailParameter false P) ((Task.detail input output).target P)
        ((Task.detail input output).target P).descending none (.transform input output) w := by
  show host.runDetail f false input output w = _
  unfold runDetail parameterOf
  rw [bind_run, ← hP]
  dsimp only
  rw [if_neg (by simp), if_neg (by simp [hc])]
  rfl

/-! ## Whole calls -/

/-- What a call for a task does before its surfaces are checked: it holds the façade, and opens a
span. -/
def openCall (host : Host σ) (f : FacadeId) (kind : FacadeKind) (task : Task) : Act σ Unit := do
  pin (.facade f)
  if host.env.config.spans.facades then
    emit (.span .debug "facade" [("family", kind.family), ("operation", task.operation)])

theorem openCall_facade? (kind : FacadeKind) (task : Task) (g : FacadeId) :
    (host.openCall f kind task w).2.facade? g = w.facade? g := by
  unfold openCall
  rw [bind_run]
  split <;> rfl

variable {facade : Facade} {task : Task}

variable (host) in
theorem openCall_parameter (hf : w.facade? f = some facade) (kind : FacadeKind) (task : Task) :
    ((host.openCall f kind task w).2.facade? f).bind Facade.parameter = facade.parameter := by
  rw [openCall_facade?, hf]
  rfl

/-- A façade does nothing of what is not for its kind, and nor does one that is not there. -/
theorem process_refused (h : ∀ facade, w.facade? f = some facade → facade.kind.does task = false) :
    host.process f task w = (.refused, w) := by
  unfold process
  rw [facade?_run]
  cases hf : w.facade? f with
  | none => rfl
  | some facade =>
    dsimp only
    rw [if_neg (by rw [h facade hf]; nofun)]
    rfl

/-- Where the surfaces are valid, the work is done between the beginning of the call and its
end. -/
theorem process_valid (hf : w.facade? f = some facade) (hd : facade.kind.does task = true)
    (hv : task.job.validate = .ok ()) :
    host.process f task w =
      (.worked (host.dispatch f facade.kind task (host.openCall f facade.kind task w).2).1.1
          (host.dispatch f facade.kind task (host.openCall f facade.kind task w).2).1.2,
        (host.unpin (.facade f)
          (host.dispatch f facade.kind task (host.openCall f facade.kind task w).2).2).2) := by
  unfold process carryOut openCall
  rw [facade?_run, hf]
  dsimp only
  rw [if_pos hd, bind_run, hv]
  split <;> rfl

/-- Where a surface is not valid, no more is done than to tell. -/
theorem process_invalid (hf : w.facade? f = some facade) (hd : facade.kind.does task = true)
    {e : Error} (hv : task.job.validate = .error e) :
    host.process f task w = (.worked (.error e) task.job,
      (host.unpin (.facade f) (host.openCall f facade.kind task w).2).2) := by
  unfold process carryOut openCall
  rw [facade?_run, hf]
  dsimp only
  rw [if_pos hd, bind_run, hv]
  split <;> rfl

end Host

end ImageDispatch
