import Mathlib.Logic.Relation
import ImageDispatch.Dispatch.Answer
import ImageDispatch.Proofs.Lifetime.Order
import ImageDispatch.Proofs.Lifetime.Plain

/-!
# Moves of a dispatcher

* `World.Move`: one change of the state. Whatever a dispatcher does is made of such changes, and
  there is no other way in which it changes façades and objects, or who holds them.
* `World.Scope`: not every action makes every move. A dispatcher that answers no request of code of
  others changes neither what clients hold nor a parameter while it works, and one façade leaves the
  others alone.
* `World.Lawful`: a relation of worlds that moves of a scope preserve. `World.Moves` is the least
  one.
* `Act.Made`: an action goes from each world to one that is related to it. `Host.Making`: the
  dispatcher answers each request of code of others so. Everything it does then does so, as far as
  its moves are in scope (`Host.Making.process`), to any depth (`Host.nested_moving`).
-/

namespace ImageDispatch

variable {σ : Type}

/-- The façade counts the same failures, and has the same implementations of its main operation. -/
structure Facade.Steady (facade facade' : Facade) : Prop where
  breaker : facade'.breaker = facade.breaker
  pairs : (facade'.cache .main).pairs = (facade.cache .main).pairs

namespace World

/-- What moves may do that not all actions do. -/
structure Scope where
  /-- What clients hold and the parameters of façades may change. -/
  free : Bool
  /-- The façades that may gain and lose implementations, and count their failures. -/
  own : FacadeId → Prop
  /-- It may be noted that levels of detail were left out. -/
  steps : Prop

namespace Scope

/-- Moves do all that can be done, and change what clients hold and parameters if `free`. -/
def all (free : Bool) : Scope := ⟨free, fun _ => True, True⟩

instance : Coe Bool Scope := ⟨all⟩

/-- The event may be noted. -/
def Notes (s : Scope) : Event → Prop
  | .adopted f _ | .failed f => s.own f
  | .count .fallbacks _ => s.steps
  | _ => True

theorem notes_all (free : Bool) (e : Event) : (all free).Notes e := by
  unfold Notes
  split <;> trivial

theorem notes_report (s : Scope) {e : Event} (h : e.isReport = true) : s.Notes e := by
  unfold Notes
  split <;> trivial

end Scope

/-- If it is a façade, it is there, or something has it already. -/
def Finds (w : World σ) : Ref → Prop
  | .facade f => w.facade? f ≠ none ∨ w.refersTo (.facade f) = true
  | _ => True

/-- A change of the state that is in scope. -/
inductive Move (s : Scope) (w : World σ) : World σ → Prop
  | note {e : Event} (h : s.Notes e) : Move s w (w.note e)
  /-- The memory of the code of others, and what is not counted. -/
  | same {w' : World σ} (h : w.Same w') : Move s w w'
  | count (instances : Nat) (counting : Bool) : Move s w { w with instances, counting }
  | pin {r : Ref} (h : w.Finds r) : Move s w { w with pins := r :: w.pins }
  | unpin (r : Ref) : Move s w { w with pins := w.pins.erase r }
  | hold (hfree : s.free = true) {r : Ref} (h : w.Finds r) :
    Move s w { w with held := r :: w.held }
  | unhold (hfree : s.free = true) (r : Ref) : Move s w { w with held := w.held.erase r }
  | tabulate {table : InstanceTable FacadeId} (h : ∀ f ∈ table.handles, w.Finds (.facade f)) :
    Move s w { w with table }
  | create (object : AlgorithmObject) : Move s w { w with objects := w.objects.push object }
  | stage (o : ObjectId) (stage : Stage) : Move s w { w with
      objects := w.objects.modify o fun object => { object with stage } }
  /-- A façade changes, but not its kind. -/
  | change (f : FacadeId) {change : Facade → Facade}
    (hk : ∀ facade, w.facade? f = some facade → (change facade).kind = facade.kind)
    (hp : s.free = false → ∀ facade, (change facade).parameter = facade.parameter)
    (ho : s.own f ∨ ∀ facade, w.facade? f = some facade → facade.Steady (change facade)) :
    Move s w { w with facades := w.facades.modify f (Option.map change) }
  | found (kind : FacadeKind) (policy : CachePolicy) : Move s w { w with
      facades := w.facades.push (some (.new kind policy))
      pins := .facade w.facades.size :: w.pins }
  /-- A façade that nothing keeps is taken apart. -/
  | dismantle {f : FacadeId} {facade : Facade} (hf : w.facade? f = some facade)
    (hr : w.refersTo (.facade f) = false) : Move s w { w with
      facades := w.facades.modify f fun _ => none
      pins := facade.objects.map Ref.object ++ w.pins }

/-- Some moves, one after another. -/
abbrev Moves (s : Scope) (w w' : World σ) : Prop := Relation.ReflTransGen (Move s) w w'

/-- The relation holds along moves of a scope. -/
class Lawful (s : outParam Scope) (R : World σ → World σ → Prop) : Prop where
  refl (w : World σ) : R w w
  trans {w w' w'' : World σ} : R w w' → R w' w'' → R w w''
  move {w w' : World σ} : w.Move s w' → R w w'

namespace Lawful

variable {s : Scope} {R : World σ → World σ → Prop} {w w' w'' : World σ}

instance : Lawful s (Moves s : World σ → World σ → Prop) := ⟨fun _ => .refl, .trans, .single⟩

theorem head [Lawful s R] (h : w.Move s w') (h' : R w' w'') : R w w'' := trans (move h) h'

end Lawful

end World

namespace Act

open World

variable {α β : Type} {s : Scope} {R : World σ → World σ → Prop}

/-- The action goes from each world to a related one. -/
def Made (R : World σ → World σ → Prop) (a : Act σ α) : Prop := ∀ w : World σ, R w (a w).2

namespace Made

variable [hR : Lawful s R] {a : Act σ α}

theorem map {f : α → β} (ha : Made R a) : Made R (f <$> a) := ha

theorem read {f : World σ → Act σ α} (hf : ∀ w, Made R (f w)) : Made R (get >>= f) :=
  fun w => hf w w

include hR

theorem ret (x : α) : Made R (pure x : Act σ α) := fun w => Lawful.refl w

theorem bind {f : α → Act σ β} (ha : Made R a) (hf : ∀ x, Made R (f x)) : Made R (a >>= f) :=
  fun w => Lawful.trans (ha w) (hf _ _)

theorem one (h : ∀ w : World σ, w.Move s (a w).2) : Made R a := fun w => Lawful.move (h w)

theorem forM {γ : Type} {f : γ → Act σ Unit} (hf : ∀ x, Made R (f x)) :
    (l : List γ) → Made R (l.forM f)
  | [] => ret ()
  | x :: rest => (hf x).bind fun _ => forM hf rest

theorem emit (e : Event) (h : s.Notes e) : Made R (emit e : Act σ Unit) :=
  one fun _ => .note h

theorem log (severity : Severity) (text : String) : Made R (log severity text : Act σ Unit) :=
  emit _ trivial

theorem count (counter : Counter) (h : s.Notes (.count counter 1)) :
    Made R (count counter : Act σ Unit) := emit _ h

theorem pinObject (o : ObjectId) : Made R (pin (.object o) : Act σ Unit) :=
  one fun _ => .pin trivial

theorem modifyFacade {f : FacadeId} (hf : s.own f) {change : Facade → Facade}
    (hk : ∀ facade, (change facade).kind = facade.kind)
    (hp : ∀ facade, (change facade).parameter = facade.parameter) :
    Made R (modifyFacade f change : Act σ Unit) :=
  one fun _ => .change f (fun _ _ => hk _) (fun _ => hp) (.inl hf)

theorem useCache {f : FacadeId} (hf : s.own f) (op : Operation)
    (use : Cache Key ObjectId → α × Cache Key ObjectId) :
    Made R (useCache f op use : Act σ (Option α)) := by
  refine .read fun w => ?_
  split
  · exact .ret _
  · exact (modifyFacade hf (fun _ => Facade.kind_withCache _ _ _)
      fun _ => Facade.parameter_withCache _ _ _).bind fun _ => .ret _

end Made

end Act

open Act World

variable {α : Type} {s : Scope} {R : World σ → World σ → Prop}

/-- The dispatcher goes from each world to a related one to answer a request of code of others. -/
def Host.Making (R : World σ → World σ → Prop) (host : Host σ) : Prop :=
  ∀ r, Made R (host.serve r)

/-- The dispatcher answers each request of code of others with moves. -/
def Host.Moving (s : Scope) (host : Host σ) : Prop := host.Making (Moves s)

theorem Foreign.run_made [hR : Lawful s R] {serve : Request → Act σ Reply}
    (hs : ∀ r, Made R (serve r)) (code : Foreign σ α) : Made R (code.run serve) := by
  have remember : ∀ memory : σ, Made R (modify fun w : World σ => { w with memory }) :=
    fun memory => .one fun _ => .same ⟨rfl, rfl, rfl, rfl, rfl, rfl, rfl, rfl⟩
  induction code with
  | done memory x => exact (remember memory).bind fun _ => .ret x
  | ask memory request resume ih =>
    exact (remember memory).bind fun _ => (hs request).bind fun reply => .read fun w =>
      ih w.memory reply

namespace Host.Making

variable [hR : Lawful s R] {host : Host σ} (hm : host.Making R)

include hR hm

theorem runForeign (code : σ → Foreign σ α) : Made R (host.runForeign code) :=
  .read fun w => Foreign.run_made hm (code w.memory)

theorem plain {a : Act σ α} (h : host.Plain a) : Made R a := by
  induction h with
  | ret x => exact .ret x
  | bind _ _ iha ihf => exact iha.bind ihf
  | read _ ih => exact .read ih
  | change hf => exact .one fun w => .same (hf w)
  | report h => exact .emit _ (Scope.notes_report _ h)
  | foreign code => exact hm.runForeign code

theorem invoke (o : ObjectId) (m : Method) (succeeded : α → Bool) (code : σ → Foreign σ α) :
    Made R (host.invoke o m succeeded code) :=
  Made.bind (.emit _ trivial) fun _ => (hm.runForeign code).bind fun _ =>
    Made.bind (.emit _ trivial) fun _ => .ret _

/-! ## The vendor library and the bootstrap service -/

theorem openSource : Made R host.openSource := by
  unfold Host.openSource
  cases host.env.source with
  | none => exact .ret _
  | provider p => exact (hm.runForeign _).bind fun _ => Made.bind (.emit _ trivial) fun _ => .ret _
  | library path =>
    refine .read fun w => ?_
    split
    · exact Made.bind (.emit _ trivial) fun _ => .ret _
    · cases host.env.loader path w.memory with
      | error reason => exact Made.bind (.emit _ trivial) fun _ => .ret _
      | ok library =>
        refine (Made.log _ _).bind fun _ => Made.bind (.one fun _ => .same ?_) fun _ =>
          Made.bind (.emit _ trivial) fun _ => .ret _
        exact ⟨rfl, rfl, rfl, rfl, rfl, rfl, rfl, rfl⟩

theorem closeSource : Made R host.closeSource := by
  unfold Host.closeSource
  cases host.env.source with
  | none => exact .ret _
  | provider p => exact Made.bind (.emit _ trivial) fun _ => hm.runForeign _
  | library path =>
    refine Made.bind (.emit _ trivial) fun _ => .read fun w => ?_
    split
    · refine Made.bind (.one fun _ => .same ?_) fun _ => Made.log _ _
      exact ⟨rfl, rfl, rfl, rfl, rfl, rfl, rfl, rfl⟩
    · exact .ret _

omit hm in
theorem exclusively {change : Act σ Unit} (h : Made R change) :
    Made R (Host.exclusively change) := by
  unfold Host.exclusively
  refine .read fun w => ?_
  split
  · exact Made.emit _ trivial
  · exact Made.bind (.one fun _ => .count _ _) fun _ => h.bind fun _ => .one fun _ => .count _ _

theorem increase : Made R host.increase := by
  have count : Made R (do
      modify fun w : World σ => { w with instances := w.instances + 1 }
      emit (.gauge .vendorInstances (← get).instances)) :=
    Made.bind (.one fun _ => .count _ _) fun _ => .read fun _ => Made.emit _ trivial
  refine exclusively (.read fun w => ?_)
  split
  · refine hm.openSource.bind fun r => ?_
    cases r with
    | ok => exact count
    | error e => exact (Made.log _ _).bind fun _ => count
  · exact count

theorem decrease : Made R host.decrease := by
  refine exclusively (.read fun w => ?_)
  split
  · exact Made.log _ _
  · refine Made.bind (.one fun _ => .count _ _) fun _ => .read fun w => ?_
    split
    · exact hm.closeSource.bind fun _ => .read fun _ => Made.emit _ trivial
    · exact .read fun _ => Made.emit _ trivial

theorem giveBack : Made R host.giveBack := Made.bind (.emit _ trivial) fun _ => hm.decrease

/-! ## Holding and letting go -/

omit hm in
theorem setStage (o : ObjectId) (stage : Stage) : Made R (setStage o stage : Act σ Unit) :=
  .one fun _ => .stage o stage

theorem settleObject (o : ObjectId) : Made R (host.settleObject o) := by
  unfold Host.settleObject
  refine .read fun w => ?_
  split
  · exact .ret _
  · split
    · refine (setStage _ _).bind fun _ => (hm.invoke _ _ _ _).bind fun r => ?_
      cases r <;> exact Made.log _ _
    · exact .ret _

theorem unpinObject (o : ObjectId) : Made R (host.unpinObject o) :=
  Made.bind (.one fun _ => .unpin _) fun _ => hm.settleObject o

/-- A façade is taken apart in a world in which nothing keeps it. -/
theorem settleFacade (f : FacadeId) : Made R (host.settleFacade f) := by
  have leave : Made R (do emit (.dissolved f); host.decrease) :=
    Made.bind (.emit _ trivial) fun _ => hm.decrease
  intro w
  unfold Host.settleFacade
  rw [get_run]
  cases hf : w.facade? f with
  | none => exact Lawful.refl w
  | some facade =>
    by_cases hr : w.refersTo (.facade f) = false
    · simp only [hr, ↓reduceIte]
      rw [bind_run]
      refine Lawful.head (.dismantle hf hr) ?_
      refine ((Made.forM hm.unpinObject facade.objects).bind fun _ => ?_) _
      split
      · exact Made.bind (.bind (.emit _ trivial) fun _ => hm.plain host.disconnect_plain)
          fun _ => leave
      · exact leave
    · simp only [hr]
      exact Lawful.refl w

theorem settle : (r : Ref) → Made R (host.settle r)
  | .object o => hm.settleObject o
  | .facade f => hm.settleFacade f
  | .lease => hm.giveBack

theorem unpin (r : Ref) : Made R (host.unpin r) :=
  Made.bind (.one fun _ => .unpin _) fun _ => hm.settle r

theorem makeFacade (kind : FacadeKind) : Made R (host.makeFacade kind) := by
  have enter : Made R (host.enter kind) := hm.increase.bind fun _ => fun w =>
    Lawful.head (.note (e := .founded w.facades.size kind) trivial) (Lawful.move (.found kind _))
  unfold Host.makeFacade
  split
  · exact Made.bind (.bind (hm.plain host.connect_plain) fun _ => .read fun _ => .emit _ trivial)
      fun _ => enter
  · exact enter

/-! ## Creating -/

theorem instantiate (s : Selection) : Made R (host.instantiate s) := by
  unfold Host.instantiate
  refine (hm.runForeign _).bind fun token => ?_
  cases token with
  | none => exact (Made.log _ _).bind fun _ => Made.bind (.count _ trivial) fun _ => .ret _
  | some token =>
    have add : Made R (addObject s.info token : Act σ ObjectId) :=
      .read fun w => Made.bind (.one fun _ => .create _) fun _ => .ret _
    refine add.bind fun o => (hm.invoke o .init _ _).bind fun r => ?_
    cases r with
    | error e => exact (Made.log _ _).bind fun _ => Made.bind (.count _ trivial) fun _ => .ret _
    | ok =>
      have enliven : Made R (enliven o : Act σ Unit) :=
        fun w => Lawful.head (.stage o .live) (Lawful.move (.pin (r := .object o) trivial))
      exact enliven.bind fun _ => Made.bind (.count _ trivial) fun _ =>
        (Made.log _ _).bind fun _ => .ret _

theorem create (q : Query) : Made R (host.create q) := by
  unfold Host.create
  refine (hm.plain (host.find_plain q)).bind fun s => ?_
  cases s with
  | none => exact .ret _
  | some s => exact hm.instantiate s

/-! ## Implementations -/

theorem letDisplacedGo (family : String) (k : Key) (displaced : Option (Key × ObjectId)) :
    Made R (host.letDisplacedGo family k displaced) := by
  unfold Host.letDisplacedGo
  cases displaced with
  | none => exact .ret _
  | some p =>
    have letGo : Made R (host.settleObject p.2) := hm.settleObject p.2
    cases Cache.evicted? k (some p) with
    | none => exact letGo
    | some _ => exact (Made.log _ _).bind fun _ => letGo

section

variable {f : FacadeId} (hf : s.own f)

include hf

theorem createGuarded (kind : FacadeKind) (op : Operation) (q : Query) (g : GuardId) :
    Made R (host.createGuarded f kind op q g) := by
  refine (hm.create q).bind fun r => ?_
  cases r with
  | error e => exact (Made.map (.useCache hf op _)).bind fun _ => .ret _
  | ok o =>
    exact (Made.emit (.adopted f o) hf).bind fun _ => (Made.useCache hf op _).bind fun _ =>
      (hm.letDisplacedGo _ _ _).bind fun _ => .ret _

theorem resolve (kind : FacadeKind) (op : Operation) (q : Query)
    (announcement : Option String) : Made R (host.resolve f kind op q announcement) := by
  refine Made.bind (.emit _ trivial) fun _ => (Made.useCache hf op _).bind fun x => ?_
  rcases x with _ | o | g | _
  · exact .ret _
  · exact (Made.pinObject o).bind fun _ => Made.bind (.count _ trivial) fun _ => .ret _
  · refine Made.bind (.count _ trivial) fun _ => ?_
    cases announcement with
    | none => exact hm.createGuarded hf kind op q g
    | some text => exact (Made.log _ _).bind fun _ => hm.createGuarded hf kind op q g
  · exact Made.bind (.count _ trivial) fun _ => Made.bind (.emit _ trivial) fun _ => .ret _

omit hm in
theorem modifyBreaker (change : Breaker → Breaker) :
    Made R (Host.modifyBreaker f change : Act σ Unit) :=
  Made.modifyFacade hf (fun _ => rfl) fun _ => rfl

theorem attemptContrast (algorithm : ContrastKind) :
    Made R (host.attemptContrast f algorithm) := by
  refine (hm.create (.contrast algorithm)).bind fun r => ?_
  cases r with
  | ok o =>
    exact (Made.emit (.adopted f o) hf).bind fun _ => (modifyBreaker hf _).bind fun _ =>
      (Made.useCache hf .main _).bind fun _ => (hm.letDisplacedGo _ _ _).bind fun _ => .ret _
  | error e =>
    exact (Made.emit (.failed f) hf).bind fun _ => (modifyBreaker hf _).bind fun _ => .read fun _ =>
      (hm.plain (host.reportFailure_plain _ _ _ _)).bind fun _ => .ret _

omit hm in
theorem cachedContrast (algorithm : ContrastKind) {otherwise : Act σ (Except Error ObjectId)}
    (h : Made R otherwise) : Made R (Host.cachedContrast f algorithm otherwise) := by
  refine (Made.useCache hf .main _).bind fun x => ?_
  rcases x with _ | _ | o
  · exact h
  · exact h
  · exact (Made.pinObject o).bind fun _ => .ret _

theorem resolveContrast (algorithm : ContrastKind) :
    Made R (host.resolveContrast f algorithm) := by
  refine Made.bind (.emit _ trivial) fun _ => cachedContrast hf algorithm (.read fun w => ?_)
  split
  · exact .ret _
  · split
    · exact .ret _
    · split
      · exact (Made.log _ _).bind fun _ => .ret _
      · exact (modifyBreaker hf _).bind fun _ =>
          (cachedContrast hf algorithm (hm.attemptContrast hf _)).bind fun _ =>
            (modifyBreaker hf _).bind fun _ => .ret _

end

/-! ## Work -/

theorem push (o : ObjectId) (object : AlgorithmObject) (p : Parameter) :
    Made R (host.push o object p) := by
  refine (hm.invoke _ _ _ _).bind fun r => ?_
  cases r with
  | ok => exact .ret _
  | error e => exact (hm.plain (host.blame_plain _ _)).bind fun _ => .ret _

theorem work (o : ObjectId) (object : AlgorithmObject) (job : Job) :
    Made R (host.work o object job) := by
  refine (hm.invoke _ _ _ _).bind fun ⟨r, written⟩ => ?_
  cases r with
  | ok => exact .ret _
  | error e => exact (hm.plain (host.blame_plain _ _)).bind fun _ => .ret _

theorem employ (o : ObjectId) (p : Option Parameter) (job : Job) :
    Made R (host.employ o p job) := by
  have letGo (r : Except Error Unit × Job) : Made R (do host.unpin (.object o); return r) :=
    (hm.unpin _).bind fun _ => .ret r
  refine .read fun w => ?_
  cases w.objects[o]? with
  | none => exact .ret _
  | some object =>
    have worked := (hm.work o object job).bind letGo
    cases p with
    | none => exact worked
    | some p =>
      refine (hm.push o object p).bind fun r => ?_
      cases r with
      | ok => exact worked
      | error e => exact letGo _

/-! ## The calls by kind -/

section

variable {f : FacadeId} (hf : s.own f)

include hf

theorem runConverter (op : Operation) (key : ConversionKey) (job : Job) :
    Made R (host.runConverter f op key job) := by
  refine (hm.resolve hf .converter op _ _).bind fun r => ?_
  cases r with
  | error e => exact .ret _
  | ok o => exact (hm.plain (host.parameterOf_plain f)).bind fun _ => hm.employ o _ job

theorem runMetadata (buffer : Surface) : Made R (host.runMetadata f buffer) := by
  refine (hm.plain (host.parameterOf_plain f)).bind fun p =>
    (hm.resolve hf .metadata .main _ _).bind fun r => ?_
  cases r with
  | error e => exact .ret _
  | ok o => exact hm.employ o p _

theorem runHdr (buffer : Surface) : Made R (host.runHdr f buffer) := by
  refine (hm.resolve hf .hdr .main _ _).bind fun r => ?_
  cases r with
  | error e => exact .ret _
  | ok o => exact (hm.plain (host.parameterOf_plain f)).bind fun _ => hm.employ o _ _

omit hf in
/-- It is enough that implementations for contrast are looked for in this way. -/
theorem runContrast_of {kind : ContrastKind} (h : Made R (host.resolveContrast f kind))
    (job : Job) : Made R (host.runContrast f kind job) := by
  refine h.bind fun r => ?_
  cases r with
  | error e => exact .ret _
  | ok o => exact (hm.plain (host.parameterOf_plain f)).bind fun _ => hm.employ o _ job

theorem runContrast (kind : ContrastKind) (job : Job) : Made R (host.runContrast f kind job) :=
  hm.runContrast_of (hm.resolveContrast hf kind) job

theorem attemptLevel (p : DetailParameter) (level : DetailLevel) (job : Job) :
    Made R (host.attemptLevel f p level job) := by
  refine (hm.resolve hf .detail .main _ _).bind fun r => ?_
  cases r with
  | error e => exact .ret _
  | ok o => exact hm.employ o _ job

theorem descend (hsteps : s.steps) (p : DetailParameter) (target : DetailLevel) :
    (levels : List DetailLevel) → (first : Option Error) → (job : Job) →
      Made R (host.descend f p target levels first job)
  | [], first, job => .ret _
  | level :: rest, first, job => by
    rw [Host.descend]
    refine (hm.attemptLevel hf p level job).bind fun ⟨r, job⟩ => ?_
    cases r with
    | ok =>
      dsimp only
      split
      · exact (Made.log _ _).bind fun _ => .ret _
      · exact .ret _
    | error e =>
      have next : Made R (do
          log .debug s!"{FacadeKind.detail.family} level {level.name} unavailable: {e.message}"
          host.descend f p target rest (first.or (if e.isNotFound then none else some e)) job) :=
        (Made.log _ _).bind fun _ => descend hsteps p target rest _ job
      dsimp only
      split
      · exact (Made.count .fallbacks hsteps).bind fun _ => next
      · exact next

theorem dispatch (hsteps : s.steps) (kind : FacadeKind) (task : Task) :
    Made R (host.dispatch f kind task) := by
  cases task with
  | convert input output => exact hm.runConverter hf .main _ _
  | compose sdr gainmap image => exact hm.runConverter hf .compose _ _
  | decompose image sdr gainmap => exact hm.runConverter hf .decompose _ _
  | generate buffer => exact hm.runMetadata hf buffer
  | detail input output =>
    refine (hm.plain (host.parameterOf_plain f)).bind fun p => ?_
    dsimp only
    split
    · exact hm.attemptLevel hf _ .video _
    · split
      · refine (Made.log _ _).bind fun _ => ?_
        split <;> exact .ret _
      · exact hm.descend hf hsteps _ _ _ none _
  | hdr buffer => exact hm.runHdr hf buffer
  | contrast algorithm input output => exact hm.runContrast hf algorithm _

/-! ## Requests -/

omit hf in
/-- A façade is held for its work in a world in which it is there. -/
theorem process_of {task : Task}
    (hd : ∀ kind : FacadeKind, kind.does task = true → Made R (host.dispatch f kind task)) :
    Made R (host.process f task) := by
  intro w
  unfold Host.process
  rw [facade?_run]
  cases hthere : w.facade? f with
  | none => exact Lawful.refl w
  | some facade =>
    dsimp only
    split
    next hdoes =>
      have carryOut : Made R (host.carryOut f facade.kind task) := by
        unfold Host.carryOut
        dsimp only
        cases task.job.validate with
        | error e =>
          split
          · exact Made.bind (.emit _ trivial) fun _ => .ret _
          · exact .ret _
        | ok =>
          split
          · exact Made.bind (.emit _ trivial) fun _ => hd _ hdoes
          · exact hd _ hdoes
      refine Lawful.head (.pin (r := .facade f) (.inl (by rw [hthere]; nofun))) ?_
      exact (carryOut.bind fun _ => (hm.unpin (.facade f)).bind fun _ => .ret _) _
    · exact Lawful.refl w

theorem process (hsteps : s.steps) (task : Task) : Made R (host.process f task) :=
  hm.process_of fun kind _ => hm.dispatch hf hsteps kind task

end

theorem direct (o : ObjectId) (call : DirectCall) : Made R (host.direct o call) := by
  have called (token : Token) : Made R (host.callDirectly o token call) := by
    cases call <;> exact (hm.invoke _ _ _ _).bind fun _ => .ret _
  refine .read fun w => ?_
  cases w.objects[o]? with
  | none => exact .ret _
  | some object =>
    dsimp only
    split
    · exact (Made.pinObject o).bind fun _ => (called _).bind fun _ => (hm.unpin _).bind fun _ =>
        .ret _
    · exact .ret _

end Host.Making

end ImageDispatch
