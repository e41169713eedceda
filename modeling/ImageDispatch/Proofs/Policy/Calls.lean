import ImageDispatch.Proofs.Policy.Resolution

/-!
# Calls that do not depend on what is kept

Each call of a façade answers as one that keeps no implementation would, and leaves the façade
ready for the next call.

* `Supplied.employ_run`: an algorithm at work. The parameter of a façade is pushed before each
  work, so what was pushed into the algorithm before is of no interest.
* `Supplied.descend_run`: the ladder of detail levels.
* `Supplied.process_run`, `Supplied.setParameter_run`: whole calls.
-/

namespace ImageDispatch

open Act World

variable {σ : Type}

theorem Operation.queryOf_query (op : Operation) (key : ConversionKey) :
    op.queryOf (op.query key).key = op.query key := by cases op <;> rfl

/-- Façades that are not for detail push the parameter that they have. -/
theorem FacadeKind.unpushed_iff {kind : FacadeKind} (hd : kind ≠ .detail) (hv : kind ≠ .videoDetail)
    (p : Option Parameter) : p = none ↔ kind.Unpushed p := ⟨fun hp => ⟨hp, hd, hv⟩, And.left⟩

section

variable {kind : FacadeKind} (s t u : Surface)

@[simp] theorem FacadeKind.does_convert : kind.does (.convert s t) ↔ kind = .converter := by
  cases kind <;> simp [does]

@[simp] theorem FacadeKind.does_compose : kind.does (.compose s t u) ↔ kind = .converter := by
  cases kind <;> simp [does]

@[simp] theorem FacadeKind.does_decompose :
    kind.does (.decompose s t u) ↔ kind = .converter := by
  cases kind <;> simp [does]

@[simp] theorem FacadeKind.does_generate : kind.does (.generate s) ↔ kind = .metadata := by
  cases kind <;> simp [does]

@[simp] theorem FacadeKind.does_detail :
    kind.does (.detail s t) ↔ kind = .detail ∨ kind = .videoDetail := by
  cases kind <;> simp [does]

@[simp] theorem FacadeKind.does_hdr : kind.does (.hdr s) ↔ kind = .hdr := by
  cases kind <;> simp [does]

@[simp] theorem FacadeKind.does_contrast (k : ContrastKind) :
    kind.does (.contrast k s t) ↔ kind = .contrast := by
  cases kind <;> simp [does]

end

/-- The work of an implementation, if a call for one has come to one. -/
def Host.employAny (host : Host σ) (p : Act σ (Option Parameter)) (job : Job) :
    Except Error ObjectId → Act σ (Except Error Unit × Job)
  | .error e => return (.error e, job)
  | .ok o => do host.employ o (← p) job

namespace Host.Supplied

variable {host : Host σ} {view : AlgorithmView σ} {lib : Option (Library (Register σ))}
  {S : Supply} (hs : host.Supplied view lib S) {w : World σ} {f : FacadeId} {P : FacadeMemo}

/-! ## Work -/

theorem blame_run (view : AlgorithmView σ) (name : String) (e : Error) (w : World σ) :
    ∃ w', blame name e w = (e.blamed name, w') ∧ w.Aside view w' := by
  unfold blame Error.blamed
  split
  · exact ⟨w, rfl, .refl w⟩
  · exact ⟨_, rfl, .note w _⟩

include hs

/-- A parameter is pushed into an algorithm of a façade that does push parameters. -/
theorem push_run {facade : Facade} (h : w.Keeps view lib S f facade) {object : AlgorithmObject}
    {s : Selection} (hi : object.info = s.info) {last : Option Parameter}
    (hv : view w.memory object.token = some (s.creator, last))
    (hu : ¬facade.kind.Unpushed facade.parameter) (o : ObjectId) (p : Parameter) :
    ∃ w', host.push o object p w =
        ((S.set s.creator p).mapError (Error.blamed s.info.name), w') ∧
      w'.Keeps view lib S f facade ∧
      (S.set s.creator p = .ok () → view w'.memory object.token = some (s.creator, some p)) := by
  obtain ⟨m', last', hcode, hother, hthere, hok⟩ := hs.behaves.set p hv
  obtain ⟨w₁, hrun, hm, ha⟩ := host.invoke_run view o (.set p) Except.isOk hcode
  have h₁ := (h.pushed hv hthere hother hu).aside ha
  unfold push
  rw [bind_of_run hrun, ← hi]
  cases hset : S.set s.creator p with
  | ok => exact ⟨w₁, rfl, h₁, fun _ => by rw [hm, hthere, hok hset]⟩
  | error e =>
    obtain ⟨w₂, hblame, hb⟩ := blame_run view object.info.name e w₁
    exact ⟨w₂, (bind_of_run hblame).trans rfl, h₁.aside hb, nofun⟩

theorem work_run {object : AlgorithmObject} {s : Selection} (hi : object.info = s.info)
    {last : Option Parameter} (hv : view w.memory object.token = some (s.creator, last))
    (o : ObjectId) (job : Job) :
    ∃ w', host.work o object job w = (S.worked s last job, w') ∧ w.Aside view w' := by
  obtain ⟨m', hcode, hv'⟩ := hs.behaves.work job hv
  obtain ⟨w₁, hrun, -, ha⟩ := host.invoke_run view o .work (fun answer => answer.1.isOk) hcode
  have h₁ : w.Aside view w₁ := (World.Aside.remember hv').trans ha
  unfold work Supply.worked
  rw [bind_of_run hrun, ← hi]
  obtain ⟨r, written⟩ := S.work s.creator last job
  cases r with
  | ok => exact ⟨w₁, rfl, h₁⟩
  | error e =>
    obtain ⟨w₂, hblame, hb⟩ := blame_run view object.info.name e w₁
    exact ⟨w₂, (bind_of_run hblame).trans rfl, h₁.trans hb⟩

/-- An algorithm that a façade has works as a new one would. -/
theorem employ_run (h : w.Ready view lib S f P) {o : ObjectId} {s : Selection}
    {last p : Option Parameter} (ho : w.Has view o s last)
    (hl : P.kind.Unpushed P.parameter → last = none)
    (hp : p = none ↔ P.kind.Unpushed P.parameter) (job : Job) :
    ∃ w', host.employ o p job w = (S.employ s p job, w') ∧ w'.Ready view lib S f P := by
  obtain ⟨facade, hk, hr⟩ := h
  obtain ⟨object, hobject, -, hi, hv⟩ := ho
  have unpin : ∀ {w' : World σ} (x : Except Error Unit × Job), w'.Keeps view lib S f facade →
      ∃ w'', (do host.unpin (.object o); return x : Act σ _) w' = (x, w'') ∧
        w''.Ready view lib S f P :=
    fun x h' => ⟨_, rfl, facade, hs.unpin_object_keeps h' o, hr⟩
  unfold employ
  rw [get_run, hobject]
  cases p with
  | none =>
    obtain ⟨w₁, hwork, ha⟩ := hs.work_run hi hv o job
    obtain ⟨w₂, hunpin, h₂⟩ := unpin (S.worked s none job) (hk.aside ha)
    rw [hl (hp.1 rfl)] at hwork
    refine ⟨w₂, ?_, h₂⟩
    show (host.work o object job >>= fun r => do host.unpin (.object o); return r) w = _
    exact (bind_of_run hwork).trans hunpin
  | some p =>
    have hu : ¬facade.kind.Unpushed facade.parameter := by
      rw [hr.kind, hr.parameter]
      exact fun hu => nomatch hp.2 hu
    obtain ⟨w₁, hpush, h₁, hlast⟩ := hs.push_run hk hi hv hu o p
    simp only
    rw [bind_of_run hpush, Supply.employ]
    cases hset : S.set s.creator p with
    | error e => exact unpin _ h₁
    | ok =>
      obtain ⟨w₂, hwork, ha⟩ := hs.work_run hi (hlast hset) o job
      obtain ⟨w₃, hunpin, h₃⟩ := unpin (S.worked s (some p) job) (h₁.aside ha)
      exact ⟨w₃, (bind_of_run hwork).trans hunpin, h₃⟩

/-! ## The calls by kind -/

omit hs in
theorem parameterOf_run (h : w.Ready view lib S f P) : parameterOf f w = (P.parameter, w) := by
  obtain ⟨facade, hk, hr⟩ := h
  unfold parameterOf
  rw [facade?_run, hk.facade_eq, ← hr.parameter]
  rfl

theorem employAny_run (h : w.Ready view lib S f P) {result : Except Error Selection}
    {r : Except Error ObjectId} (hob : w.Obtains view (P.kind.Unpushed P.parameter) result r)
    {p : Act σ (Option Parameter)} {x : Option Parameter} (hp : p w = (x, w))
    (hx : x = none ↔ P.kind.Unpushed P.parameter) (job : Job) :
    ∃ w', host.employAny p job r w = (S.employAny x job result, w') ∧
      w'.Ready view lib S f P := by
  cases hob with
  | fails e => exact ⟨w, rfl, h⟩
  | gets ho hl =>
    rw [employAny, bind_of_run hp]
    exact hs.employ_run h ho hl hx job

/-- An algorithm is called for, from a cache, and does its work. -/
theorem serve_run (h : w.Ready view lib S f P) (hc : P.kind ≠ .contrast) (op : Operation)
    {q : Query} (hq : op.queryOf q.key = q) (kind : FacadeKind) (announcement : Option String)
    {p : Act σ (Option Parameter)} {x : Option Parameter}
    (hp : ∀ {w}, w.Ready view lib S f P → p w = (x, w))
    (hx : x = none ↔ P.kind.Unpushed P.parameter) (job : Job) :
    ∃ w', (host.resolve f kind op q announcement >>= host.employAny p job) w =
      (S.serve q x job, w') ∧ w'.Ready view lib S f P := by
  obtain ⟨r, w₁, hresolve, h₁, hob⟩ := hs.resolve_run h hc hq kind announcement
  rw [bind_of_run hresolve]
  exact hs.employAny_run h₁ hob (hp h₁) hx job

theorem runConverter_run (h : w.Ready view lib S f P) (hk : P.kind = .converter) (op : Operation)
    (key : ConversionKey) (job : Job) :
    ∃ w', host.runConverter f op key job w = (S.serve (op.query key) P.parameter job, w') ∧
      w'.Ready view lib S f P :=
  hs.serve_run h (by rw [hk]; nofun) op (op.queryOf_query key) .converter _ parameterOf_run
    (FacadeKind.unpushed_iff (by rw [hk]; nofun) (by rw [hk]; nofun) _) job

theorem runMetadata_run (h : w.Ready view lib S f P) (hk : P.kind = .metadata) (buffer : Surface) :
    ∃ w', host.runMetadata f buffer w = (S.serve (.generate ⟨buffer.description, buffer.format,
        Supply.generation P.parameter⟩) P.parameter (.inPlace buffer), w') ∧
      w'.Ready view lib S f P := by
  unfold runMetadata
  rw [bind_of_run (parameterOf_run h)]
  exact hs.serve_run h (by rw [hk]; nofun) .main rfl .metadata none (p := pure P.parameter)
    (fun _ => rfl) (FacadeKind.unpushed_iff (by rw [hk]; nofun) (by rw [hk]; nofun) _)
    (.inPlace buffer)

theorem runHdr_run (h : w.Ready view lib S f P) (hk : P.kind = .hdr) (buffer : Surface) :
    ∃ w', host.runHdr f buffer w =
        (S.serve (.hdr buffer.format) P.parameter (.inPlace buffer), w') ∧
      w'.Ready view lib S f P :=
  hs.serve_run h (by rw [hk]; nofun) .main rfl .hdr none parameterOf_run
    (FacadeKind.unpushed_iff (by rw [hk]; nofun) (by rw [hk]; nofun) _) (.inPlace buffer)

theorem runContrast_run (h : w.Ready view lib S f P) (hk : P.kind = .contrast) (k : ContrastKind)
    (input output : Surface) :
    ∃ w', host.runContrast f k (.transform input output) w =
        ((S.dispatch P (.contrast k input output)).1, w') ∧
      w'.Ready view lib S f (S.dispatch P (.contrast k input output)).2 := by
  obtain ⟨r, w₁, hresolve, h₁, hob⟩ := hs.resolveContrast_run h hk k
  obtain ⟨hkind, hparameter⟩ := S.contrast_keeps k P
  have hp : parameterOf f w₁ = (P.parameter, w₁) := by rw [parameterOf_run h₁, hparameter]
  have hu : P.kind.Unpushed P.parameter ↔
      (S.contrast k P).2.kind.Unpushed (S.contrast k P).2.parameter := by
    rw [hkind, hparameter]
  obtain ⟨w₂, hemploy, h₂⟩ := hs.employAny_run h₁ (hob.mono rfl rfl hu.2) hp
    ((FacadeKind.unpushed_iff (by rw [hk]; nofun) (by rw [hk]; nofun) _).trans hu)
    (.transform input output)
  exact ⟨w₂, (bind_of_run hresolve).trans hemploy, h₂⟩

/-! ## Detail enhancement -/

theorem attemptLevel_run (h : w.Ready view lib S f P)
    (hk : P.kind = .detail ∨ P.kind = .videoDetail) (p : DetailParameter) (level : DetailLevel)
    (job : Job) :
    ∃ w', host.attemptLevel f p level job w =
        (S.serve (.detail level) (some (.detail { p with level })) job, w') ∧
      w'.Ready view lib S f P := by
  have hu : ¬P.kind.Unpushed P.parameter := by
    rintro ⟨-, hd, hv⟩
    exact hk.elim hd hv
  exact hs.serve_run h (by rcases hk with hk | hk <;> simp [hk]) .main (q := .detail level) rfl
    .detail none (p := pure (some (.detail { p with level }))) (fun _ => rfl)
    ⟨nofun, fun hp => absurd hp hu⟩ job

theorem descend_run (h : w.Ready view lib S f P) (hk : P.kind = .detail ∨ P.kind = .videoDetail)
    (p : DetailParameter) (target : DetailLevel) (levels : List DetailLevel)
    (first : Option Error) (job : Job) :
    ∃ w', host.descend f p target levels first job w =
        (S.descend p target levels first job, w') ∧ w'.Ready view lib S f P := by
  induction levels generalizing w first job with
  | nil => exact ⟨w, rfl, h⟩
  | cons level rest ih =>
    obtain ⟨w₁, hattempt, h₁⟩ := hs.attemptLevel_run h hk p level job
    unfold descend Supply.descend
    rw [bind_of_run hattempt]
    obtain ⟨r, job'⟩ := S.serve (.detail level) (some (.detail { p with level })) job
    cases r with
    | ok =>
      simp only
      split
      · exact ⟨_, rfl, h₁.aside (.note w₁ _)⟩
      · exact ⟨w₁, rfl, h₁⟩
    | error e =>
      simp only
      split
      · exact ih ((h₁.aside (.note w₁ _)).aside (.note _ _)) _ job'
      · exact ih (h₁.aside (.note w₁ _)) _ job'

theorem runDetail_run (h : w.Ready view lib S f P)
    (hk : P.kind = .detail ∨ P.kind = .videoDetail) (video : Bool) (input output : Surface) :
    ∃ w', host.runDetail f video input output w =
        (S.enhanceDetail video P.parameter input output, w') ∧ w'.Ready view lib S f P := by
  unfold runDetail Supply.enhanceDetail
  rw [bind_of_run (parameterOf_run h)]
  cases video with
  | true => exact hs.attemptLevel_run h hk _ .video _
  | false =>
    simp only [Bool.false_eq_true, ↓reduceIte]
    split
    · have hlog : ∀ text, log .trace text w = ((), w.note (.log .trace text)) := fun _ => rfl
      rw [bind_of_run (hlog _)]
      cases output.copyFrom input <;> exact ⟨_, rfl, h.aside (.note w _)⟩
    · exact hs.descend_run h hk _ _ _ none _

/-! ## Whole calls -/

theorem dispatch_run (h : w.Ready view lib S f P) {task : Task} (hd : P.kind.does task = true) :
    ∃ w', host.dispatch f P.kind task w = ((S.dispatch P task).1, w') ∧
      w'.Ready view lib S f (S.dispatch P task).2 := by
  cases task with
  | convert input output => exact hs.runConverter_run h (by simpa using hd) .main _ _
  | compose sdr gainmap image => exact hs.runConverter_run h (by simpa using hd) .compose _ _
  | decompose image sdr gainmap => exact hs.runConverter_run h (by simpa using hd) .decompose _ _
  | generate buffer => exact hs.runMetadata_run h (by simpa using hd) buffer
  | detail input output => exact hs.runDetail_run h (by simpa using hd) _ input output
  | hdr buffer => exact hs.runHdr_run h (by simpa using hd) buffer
  | contrast k input output => exact hs.runContrast_run h (by simpa using hd) k input output

/-- The surfaces are checked, and then the work is done. -/
theorem carryOut_run (h : w.Ready view lib S f P) {task : Task} (hd : P.kind.does task = true) :
    ∃ w', host.carryOut f P.kind task w = ((S.carryOut P task).1, w') ∧
      w'.Ready view lib S f (S.carryOut P task).2 := by
  unfold carryOut Supply.carryOut
  cases task.job.validate with
  | error e =>
    split
    · exact ⟨_, rfl, h.aside (.note w _)⟩
    · exact ⟨w, rfl, h⟩
  | ok =>
    split
    · exact hs.dispatch_run (h.aside (.note w _)) hd
    · exact hs.dispatch_run h hd

omit hs in
/-- A façade that a client holds is there when the call ends. -/
theorem unpin_facade_ready (h : w.Ready view lib S f P) (host : Host σ) :
    (host.unpin (.facade f) w).2.Ready view lib S f P := by
  obtain ⟨facade, hk, hr⟩ := h
  have h₁ : { w with pins := w.pins.erase (.facade f) : World σ }.Keeps view lib S f facade :=
    hk.aside ⟨rfl, rfl, rfl, rfl, rfl⟩
  have hkept := refersTo_iff.2 (.inl h₁.held)
  show (host.settleFacade f { w with pins := w.pins.erase (.facade f) }).2.Ready view lib S f P
  unfold settleFacade
  rw [get_run, h₁.facade_eq]
  simp only
  rw [if_neg (by rw [hkept]; nofun)]
  exact ⟨facade, h₁, hr⟩

theorem process_run (h : w.Ready view lib S f P) (task : Task) :
    ∃ w', host.process f task w = ((S.take (.process task) P).1, w') ∧
      w'.Ready view lib S f (S.take (.process task) P).2 := by
  obtain ⟨facade, hk, hr⟩ := h
  unfold process
  rw [facade?_run, hk.facade_eq]
  simp only [hr.kind]
  by_cases hd : P.kind.does task = true
  · let w₁ : World σ := { w with pins := .facade f :: w.pins }
    have hpin : pin (.facade f) w = ((), w₁) := rfl
    have h₁ : w₁.Ready view lib S f P := ⟨facade, hk.aside ⟨rfl, rfl, rfl, rfl, rfl⟩, hr⟩
    obtain ⟨w₂, hcarry, h₂⟩ := hs.carryOut_run h₁ hd
    simp only [hd, ↓reduceIte, Supply.take]
    rw [bind_of_run hpin, bind_of_run hcarry]
    exact ⟨_, rfl, unpin_facade_ready h₂ host⟩
  · simp only [hd, Bool.false_eq_true, ↓reduceIte, Supply.take]
    exact ⟨w, rfl, facade, hk, hr⟩

omit hs in
theorem setParameter_run (h : w.Ready view lib S f P) (p : Parameter) :
    ∃ w', setParameter f p w = ((S.take (.set p) P).1, w') ∧
      w'.Ready view lib S f (S.take (.set p) P).2 := by
  obtain ⟨facade, hk, hr⟩ := h
  obtain ⟨kind, last, failures, made⟩ := P
  obtain rfl : facade.kind = kind := hr.kind
  unfold setParameter Supply.take Facade.accept
  rw [facade?_run, hk.facade_eq]
  dsimp only
  split
  · cases Facade.check facade.kind p with
    | error e => exact ⟨w, rfl, facade, hk, hr⟩
    | ok =>
      -- Once there is a parameter, every algorithm gets it before it works.
      refine ⟨_, rfl, { facade with parameter := some p },
        hk.reform (fun _ => { facade with parameter := some p }) (fun op => by cases op <;> rfl)
          (fun hu => nomatch hu.1),
        rfl, rfl, hr.breaker, fun op => ?_, fun hc => ?_⟩
      · have := hr.idle op
        cases op <;> exact this
      · have ht := hr.tallies hc
        exact ⟨ht.makes, ht.kept, ht.made, ht.spotless⟩
  · exact ⟨w, rfl, facade, hk, hr⟩

end Host.Supplied

end ImageDispatch
