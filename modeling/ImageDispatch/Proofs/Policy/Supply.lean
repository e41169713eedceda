import ImageDispatch.Proofs.Policy.Behaviour

/-!
# Façades without implementations

What a façade would answer if it created an algorithm for every call and threw it away.

* `Supply`: which extension there is for a query, and how its algorithms behave.
* `FacadeMemo`: what such a façade has to remember. Only contrast enhancement needs more than the
  parameter: the failures since the last success, and for which kinds there was a success.
* `Supply.serve`: one algorithm from its creation to the end of its work.
* `Supply.take`, `Supply.replies`: the calls, one after another.
-/

namespace ImageDispatch

/-- What the surroundings of a façade offer. -/
structure Supply extends Behaviour where
  select : Query → Option Selection
  /-- Number of failures of contrast enhancement that are tolerated. -/
  threshold : UInt32

/-- What a façade that keeps no implementation remembers. -/
structure FacadeMemo where
  kind : FacadeKind
  /-- The parameter that was accepted last. -/
  parameter : Option Parameter := none
  /-- Number of creations that failed since the last success, if it enhances contrast. -/
  failures : UInt32 := 0
  /-- The kinds of contrast enhancement for which there was a success. -/
  made : List ContrastKind := []

/-- A use of a façade. -/
inductive FacadeUse
  | set (p : Parameter)
  | process (task : Task)

/-- The request for the use of a façade. -/
def FacadeUse.request (f : FacadeId) : FacadeUse → Request
  | set p => .set f p
  | process task => .process f task

/-- The error of a call whose algorithm, of the extension of that name, has failed. -/
def Error.blamed (name : String) (e : Error) : Error :=
  if e.isRejection then e else .processFailed name e.message

namespace Supply

variable (S : Supply)

/-- The extension that makes an algorithm for a query, or why there is none. -/
def creation (q : Query) : Except Error Selection :=
  match S.select q with
  | none => .error q.notFound
  | some s =>
    if S.creates s.creator then
      match S.init s.creator with
      | .ok () => .ok s
      | .error e => .error (.extensionInitFailed s.info.name e.message)
    else .error (.extensionCreateFailed s.info.name)

/-- An algorithm can be made for the query. -/
def Makes (q : Query) : Prop := ∃ s, S.creation q = .ok s

/-! ## One algorithm -/

/-- The work of an algorithm into which `last` was pushed last. -/
def worked (s : Selection) (last : Option Parameter) (job : Job) : Except Error Unit × Job :=
  let (r, written) := S.work s.creator last job
  (r.mapError (.blamed s.info.name), job.adopt written)

/-- The work of a new algorithm, after a parameter was pushed into it if there is one. -/
def employ (s : Selection) (p : Option Parameter) (job : Job) : Except Error Unit × Job :=
  match p with
  | none => S.worked s none job
  | some p =>
    match S.set s.creator p with
    | .ok () => S.worked s (some p) job
    | .error e => (.error (.blamed s.info.name e), job)

/-- The work of an algorithm, if there is one. -/
def employAny (p : Option Parameter) (job : Job) :
    Except Error Selection → Except Error Unit × Job
  | .ok s => S.employ s p job
  | .error e => (.error e, job)

/-- An algorithm is created, and does the work. -/
def serve (q : Query) (p : Option Parameter) (job : Job) : Except Error Unit × Job :=
  S.employAny p job (S.creation q)

/-! ## Calls -/

/-- The first of some levels that succeeds. What a failed one has written is what the next one works
on. -/
def descend (p : DetailParameter) (target : DetailLevel) :
    List DetailLevel → Option Error → Job → Except Error Unit × Job
  | [], first, job =>
    (.error (first.getD (.capabilityNotFound FacadeKind.detail.family
      s!"{target.name} or lower")), job)
  | level :: rest, first, job =>
    match S.serve (.detail level) (some (.detail { p with level })) job with
    | (.ok (), job) => (.ok (), job)
    | (.error e, job) =>
      descend p target rest (first.or (if e.isNotFound then none else some e)) job

/-- Detail enhancement, with a parameter or the default one. -/
def enhanceDetail (video : Bool) (parameter : Option Parameter) (input output : Surface) :
    Except Error Unit × Job :=
  let p := Host.detailParameter video parameter
  let job := Job.transform input output
  if video then S.serve (.detail .video) (some (.detail { p with level := .video })) job
  else
    let target := Host.targetLevel p.level input output
    if target.needsModel = false ∧ input.sameShape output then
      match output.copyFrom input with
      | .ok copied => (.ok (), .transform input copied)
      | .error e => (.error e, job)
    else S.descend p target target.descending none job

/-- The extension for a kind of contrast enhancement. A kind that has succeeded once succeeds
always, and other kinds are tried until there are too many failures. -/
def contrast (k : ContrastKind) (P : FacadeMemo) : Except Error Selection × FacadeMemo :=
  match S.creation (.contrast k) with
  | .ok s =>
    if k ∈ P.made then (.ok s, P)
    else if S.threshold < P.failures then
      (.error (.creationDisabled FacadeKind.contrast.family), P)
    else (.ok s, { P with failures := 0, made := k :: P.made })
  | .error e =>
    if S.threshold < P.failures then
      (.error (.creationDisabled FacadeKind.contrast.family), P)
    else (.error e, { P with failures := P.failures + 1 })

/-- Only the tally changes. -/
theorem contrast_keeps (k : ContrastKind) (P : FacadeMemo) :
    (S.contrast k P).2.kind = P.kind ∧ (S.contrast k P).2.parameter = P.parameter := by
  unfold contrast
  split
  · split
    · exact ⟨rfl, rfl⟩
    · split <;> exact ⟨rfl, rfl⟩
  · split <;> exact ⟨rfl, rfl⟩

/-- The algorithm of the parameter of a metadata generator, or the default one. -/
def generation : Option Parameter → GenerationAlgorithm
  | some (.generation p) => p.algorithm
  | _ => .image

/-- The work of a façade on valid surfaces. -/
def dispatch (P : FacadeMemo) : Task → (Except Error Unit × Job) × FacadeMemo
  | .convert input output =>
    (S.serve (.convert (.ofSurfaces input output)) P.parameter (.transform input output), P)
  | .compose sdr gainmap image =>
    (S.serve (.compose (.ofSurfaces sdr image)) P.parameter (.compose sdr gainmap image), P)
  | .decompose image sdr gainmap =>
    (S.serve (.decompose (.ofSurfaces image sdr)) P.parameter (.decompose image sdr gainmap), P)
  | .generate buffer =>
    (S.serve (.generate ⟨buffer.description, buffer.format, generation P.parameter⟩) P.parameter
      (.inPlace buffer), P)
  | .detail input output => (S.enhanceDetail (P.kind = .videoDetail) P.parameter input output, P)
  | .hdr buffer => (S.serve (.hdr buffer.format) P.parameter (.inPlace buffer), P)
  | .contrast k input output =>
    (S.employAny P.parameter (.transform input output) (S.contrast k P).1, (S.contrast k P).2)

/-- The work of a façade, if the surfaces are valid. -/
def carryOut (P : FacadeMemo) (task : Task) : (Except Error Unit × Job) × FacadeMemo :=
  match task.job.validate with
  | .ok () => S.dispatch P task
  | .error e => ((.error e, task.job), P)

/-- A call of a façade. -/
def take : FacadeUse → StateM FacadeMemo Reply
  | .set p => fun P =>
    if Facade.takes P.kind p then
      match Facade.check P.kind p with
      | .ok () => (.outcome (.ok ()), { P with parameter := some p })
      | .error e => (.outcome (.error e), P)
    else (.refused, P)
  | .process task => fun P =>
    if P.kind.does task then
      let ((r, job), P) := S.carryOut P task
      (.worked r job, P)
    else (.refused, P)

/-- The replies to the uses of a new façade. -/
def replies (kind : FacadeKind) (uses : List FacadeUse) : List Reply :=
  ((uses.mapM S.take) { kind }).1

end Supply

end ImageDispatch
