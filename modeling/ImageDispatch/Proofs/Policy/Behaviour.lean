import ImageDispatch.Proofs.Lifetime.Plain

/-!
# Algorithms that are interchangeable

What is assumed of the code of others where it must not matter whether an algorithm is kept or
created anew.

* `AlgorithmView`: what of its memory makes a difference to an algorithm, namely the creator that
  it comes from and the parameter that was pushed into it last.
* `Behaviour`, `Environment.Behaves`: how algorithms answer depends on that only.
* `Environment.Lists`: the extensions that are registered are the same at all times.
* `Act.Settled`: an action whose answer follows from the library that is open.
* `AlgorithmView.Alike`: an action that is settled in the same way under every policy. Such are the
  collecting and finding of extensions (`Environment.Lists.find_alike`).
-/

namespace ImageDispatch

variable {σ α β : Type}

/-! ## Assumptions -/

/-- The creator and the last parameter of each algorithm that there is, read off the memory. -/
abbrev AlgorithmView (σ : Type) := σ → Token → Option (Creator × Option Parameter)

/-- The memories differ in what is said of one algorithm only. -/
def AlgorithmView.SameBut (view : AlgorithmView σ) (t : Token) (m m' : σ) : Prop :=
  ∀ t', t' ≠ t → view m' t' = view m t'

/-- The code answers without a question, and leaves algorithms as they are. -/
def AlgorithmView.Answers (view : AlgorithmView σ) (code : σ → Foreign σ α) (answer : α) : Prop :=
  ∀ m, ∃ m', code m = .done m' answer ∧ view m' = view m

/-- How algorithms behave. -/
structure Behaviour where
  /-- The creator makes an algorithm. -/
  creates : Creator → Bool
  init : Creator → Except Error Unit
  set : Creator → Parameter → Except Error Unit
  /-- How an algorithm into which a parameter was pushed last, or none, does its work. -/
  work : Creator → Option Parameter → Job → Except Error Unit × Job

/-- What the calls of algorithms do follows from their creator and from the parameter that was
pushed into them last. A rejected parameter may leave any other in its place. -/
structure Environment.Behaves (env : Environment σ) (view : AlgorithmView σ) (b : Behaviour) :
    Prop where
  create : ∀ c m, ∃ m' answer, env.code.create c m = .done m' answer ∧
    (answer = none → b.creates c = false ∧ view m' = view m) ∧
    ∀ t, answer = some t → b.creates c = true ∧ view m t = none ∧ view m' t = some (c, none) ∧
      view.SameBut t m m'
  init : ∀ {t c m}, view m t = some (c, none) → ∃ m', env.code.init t m = .done m' (b.init c) ∧
    view.SameBut t m m' ∧ (b.init c = .ok () → view m' t = some (c, none))
  deinit : ∀ {t m}, view m t ≠ none → ∃ m' r, env.code.deinit t m = .done m' r ∧
    view.SameBut t m m'
  set : ∀ {t c q m} p, view m t = some (c, q) → ∃ m' q', env.code.set t p m = .done m' (b.set c p) ∧
    view.SameBut t m m' ∧ view m' t = some (c, q') ∧ (b.set c p = .ok () → q' = some p)
  work : ∀ {t c q m} job, view m t = some (c, q) → ∃ m',
    env.code.work t job m = .done m' (b.work c q job) ∧ view m' = view m

/-- A library registers the same extensions at all times. -/
def Registering.Lists (view : AlgorithmView σ) : Registering (Register σ) → Prop
  | .single register => ∃ list, view.Answers register list
  | .entries list =>
    ∀ e ∈ list, ∀ register, e.register = some register → ∃ list, view.Answers register list

/-- The extensions that are registered are the same at all times, and what registers them asks
nothing. Neither does the source of dynamic extensions when it opens, nor the bootstrap service.
Which library is loaded may change with the world outside. -/
structure Environment.Lists (env : Environment σ) (view : AlgorithmView σ) : Prop where
  linked : ∀ r ∈ env.statics, ∀ register, r.register = some register →
    ∃ list, view.Answers register list
  provided : ∀ p, env.provider = some p → ∀ family, ∃ r, view.Answers (p.register family) r
  library : ∀ path memory library, env.loader path memory = .ok library → ∀ family registering,
    Library.registering? (some library) family = .ok registering → registering.Lists view
  opens : ∀ p, env.provider = some p → ∀ m, ∃ m' r, p.openUp m = .done m' r
  connects : ∀ s, env.service = some s → ∀ m, ∃ m', s.connect m = .done m' ()

/-- The surroundings with another choice of what façades keep. -/
def Environment.withPolicy (env : Environment σ) (policy : CachePolicy) : Environment σ :=
  { env with config := { env.config with cachePolicy := policy } }

/-- The vendor library once the source of dynamic extensions was opened, when the world outside had
come to `memory`. -/
def Environment.opened (env : Environment σ) (memory : σ) : Option (Library (Register σ)) :=
  match env.source with
  | .library path => (env.loader path memory).toOption
  | _ => none

/-! ## Runs that ask nothing -/

theorem Host.runForeign_done {host : Host σ} {code : σ → Foreign σ α} {w : World σ} {m' : σ}
    {x : α} (h : code w.memory = .done m' x) :
    host.runForeign code w = (x, { w with memory := m' }) := by
  show (code w.memory).run host.serve w = _
  rw [h]
  rfl

namespace World

/-- Nothing that has to do with algorithms and façades differs. -/
structure Aside (view : AlgorithmView σ) (w w' : World σ) : Prop where
  view : view w'.memory = view w.memory
  objects : w'.objects = w.objects
  facades : w'.facades = w.facades
  held : w'.held = w.held
  library : w'.library = w.library

namespace Aside

variable {view : AlgorithmView σ} {w w₁ w₂ w₃ : World σ}

theorem refl (w : World σ) : w.Aside view w := ⟨rfl, rfl, rfl, rfl, rfl⟩

theorem trans (h₁ : w₁.Aside view w₂) (h₂ : w₂.Aside view w₃) : w₁.Aside view w₃ :=
  ⟨h₂.view.trans h₁.view, h₂.objects.trans h₁.objects, h₂.facades.trans h₁.facades,
    h₂.held.trans h₁.held, h₂.library.trans h₁.library⟩

theorem note (w : World σ) (e : Event) : w.Aside view (w.note e) := ⟨rfl, rfl, rfl, rfl, rfl⟩

theorem remember {m' : σ} (h : view m' = view w.memory) :
    w.Aside view { w with memory := m' : World σ } := ⟨h, rfl, rfl, rfl, rfl⟩

end Aside

end World

/-- The answer of the action follows from the library that is open, and the action leaves
algorithms and façades aside. -/
def Act.Settled (view : AlgorithmView σ) (lib : Option (Library (Register σ))) (a : Act σ α)
    (x : α) : Prop :=
  ∀ ⦃w⦄, w.library = lib → ∃ w', a w = (x, w') ∧ w.Aside view w'

namespace Act.Settled

variable {view : AlgorithmView σ} {lib : Option (Library (Register σ))}

theorem ret (x : α) : Settled view lib (pure x) x := fun w _ => ⟨w, rfl, .refl w⟩

theorem bind {a : Act σ α} {f : α → Act σ β} {x : α} {y : β} (ha : Settled view lib a x)
    (hf : Settled view lib (f x) y) : Settled view lib (a >>= f) y := by
  intro w hw
  obtain ⟨w₁, h₁, e₁⟩ := ha hw
  obtain ⟨w₂, h₂, e₂⟩ := hf (e₁.library.trans hw)
  exact ⟨w₂, (bind_of_run h₁).trans h₂, e₁.trans e₂⟩

theorem change {f : World σ → World σ} (h : ∀ w : World σ, w.Aside view (f w)) :
    Settled view lib (modify f) () := fun w _ => ⟨f w, rfl, h w⟩

theorem emit (e : Event) : Settled view lib (Act.emit e) () := .change fun w => .note w e

theorem log (severity : Severity) (text : String) : Settled view lib (Act.log severity text) () :=
  .emit _

/-- An action that begins with a look at the library that is open. -/
theorem library {f : World σ → Act σ α} {x : α}
    (h : ∀ w, w.library = lib → Settled view lib (f w) x) : Settled view lib (get >>= f) x :=
  fun w hw => h w hw hw

theorem forM {γ : Type} {f : γ → Act σ Unit} (hf : ∀ x, Settled view lib (f x) ()) :
    (l : List γ) → Settled view lib (l.forM f) ()
  | [] => ret ()
  | x :: rest => (hf x).bind (forM hf rest)

theorem foreign {host : Host σ} {code : σ → Foreign σ α} {x : α} (h : view.Answers code x) :
    Settled view lib (host.runForeign code) x := by
  intro w _
  obtain ⟨m', hm, hv⟩ := h w.memory
  exact ⟨_, Host.runForeign_done hm, .remember hv⟩

end Act.Settled

/-! ## Finding -/

open Act

namespace Environment

/-- A dispatcher in these surroundings, but for what façades keep. -/
def host (env : Environment σ) (policy : CachePolicy) (serve : Request → Act σ Reply) : Host σ :=
  ⟨env.withPolicy policy, serve⟩

section

variable (env : Environment σ) (policy : CachePolicy) (serve : Request → Act σ Reply)

@[simp] theorem spans_host :
    (env.host policy serve).env.config.spans = env.config.spans := rfl

@[simp] theorem statics_host : (env.host policy serve).env.statics = env.statics := rfl

@[simp] theorem loader_host : (env.host policy serve).env.loader = env.loader := rfl

@[simp] theorem service_host : (env.host policy serve).env.service = env.service := rfl

@[simp] theorem source_host : (env.host policy serve).env.source = env.source := rfl

@[simp] theorem sourceName?_host :
    (env.host policy serve).env.sourceName? = env.sourceName? := rfl

end

end Environment

/-- The action is settled under every policy, however requests are answered, with one answer. -/
def AlgorithmView.Alike (view : AlgorithmView σ) (lib : Option (Library (Register σ)))
    (a : CachePolicy → (Request → Act σ Reply) → Act σ α) : Prop :=
  ∃ x, ∀ policy serve, Settled view lib (a policy serve) x

variable {env : Environment σ} {view : AlgorithmView σ} {lib : Option (Library (Register σ))}

namespace AlgorithmView.Alike

theorem ret (x : α) : view.Alike lib fun _ _ => pure x := ⟨x, fun _ _ => .ret x⟩

theorem bind {a : CachePolicy → (Request → Act σ Reply) → Act σ α}
    {f : CachePolicy → (Request → Act σ Reply) → α → Act σ β} (ha : view.Alike lib a)
    (hf : ∀ x, view.Alike lib fun policy serve => f policy serve x) :
    view.Alike lib fun policy serve => a policy serve >>= f policy serve := by
  obtain ⟨x, hx⟩ := ha
  obtain ⟨y, hy⟩ := hf x
  exact ⟨y, fun policy serve => (hx policy serve).bind (hy policy serve)⟩

/-- The same action on all of them. -/
theorem same {a : Act σ α} {x : α} (h : Settled view lib a x) :
    view.Alike lib fun _ _ => a := ⟨x, fun _ _ => h⟩

theorem logs (severity : Severity) (text : String) :
    view.Alike lib fun _ _ => log severity text := same (.log severity text)

theorem foreign {code : σ → Foreign σ α} (h : ∃ x, view.Answers code x) :
    view.Alike lib fun policy serve => (env.host policy serve).runForeign code :=
  h.imp fun _ hx _ _ => .foreign hx

theorem mapM {γ : Type} {f : CachePolicy → (Request → Act σ Reply) → γ → Act σ α} :
    {l : List γ} → (∀ x ∈ l, view.Alike lib fun policy serve => f policy serve x) →
    view.Alike lib fun policy serve => l.mapM (f policy serve)
  | [], _ => by simpa only [List.mapM_nil] using ret []
  | x :: rest, hf => by
    simp only [List.mapM_cons]
    exact (hf x List.mem_cons_self).bind fun _ =>
      (mapM fun y hy => hf y (List.mem_cons_of_mem _ hy)).bind fun _ => ret _

end AlgorithmView.Alike

namespace Environment

open AlgorithmView.Alike

theorem runRegistration_alike {r : Registration σ}
    (h : ∀ register, r.register = some register → ∃ list, view.Answers register list) :
    view.Alike lib fun policy serve => (env.host policy serve).runRegistration r := by
  unfold Host.runRegistration
  cases hr : r.register with
  | some register => exact foreign (h register hr)
  | none => exact (logs _ _).bind fun _ => ret _

theorem runEntry_alike {e : RegistrationEntry (Register σ)}
    (h : ∀ register, e.register = some register → ∃ list, view.Answers register list) :
    view.Alike lib fun policy serve => (env.host policy serve).runEntry e := by
  unfold Host.runEntry
  cases hr : e.register with
  | some register => exact (foreign (h register hr)).bind fun _ => (logs _ _).bind fun _ => ret _
  | none => exact (logs _ _).bind fun _ => ret _

theorem runRegistering_alike {r : Registering (Register σ)} (h : r.Lists view) :
    view.Alike lib fun policy serve => (env.host policy serve).runRegistering r := by
  cases r with
  | single register => exact foreign h
  | entries list => exact (mapM fun e he => runEntry_alike (h e he)).bind fun _ => ret _

theorem provider_of_source {p : Provider σ} (h : env.source = .provider p) :
    env.provider = some p := by
  unfold source at h
  split at h
  · split at h <;> cases h
    assumption
  · cases h

/-- What an open library registers is the same at all times. -/
theorem Lists.registering (hl : env.Lists view) {memory : σ} {family : ExtensionFamily}
    {path : String} (hs : env.source = .library path) {r : Registering (Register σ)}
    (hr : Library.registering? (env.opened memory) family = .ok r) : r.Lists view := by
  simp only [opened, hs] at hr
  cases hload : env.loader path memory with
  | error reason => rw [hload] at hr; cases hr
  | ok library =>
    exact hl.library path memory library hload family r (by rw [hload] at hr; exact hr)

namespace Lists

variable (hl : env.Lists view) (memory : σ)

include hl

theorem loadStatic_alike (family : ExtensionFamily) :
    view.Alike (env.opened memory) fun policy serve =>
      (env.host policy serve).loadStatic family := by
  simp only [Host.loadStatic, statics_host]
  exact (mapM fun r hr => runRegistration_alike (hl.linked r (List.mem_of_mem_filter hr))).bind
    fun _ => ret _

theorem registerLibrary_alike (family : ExtensionFamily) {path : String}
    (hs : env.source = .library path) :
    view.Alike (env.opened memory) fun policy serve =>
      (env.host policy serve).registerLibrary family := by
  cases hr : Library.registering? (env.opened memory) family with
  | error e =>
    refine ⟨.error e, fun policy serve => .library fun w hw => ?_⟩
    rw [hw, hr]
    exact .ret _
  | ok registering =>
    obtain ⟨list, h⟩ := runRegistering_alike (hl.registering hs hr)
    refine ⟨.ok list, fun policy serve => .library fun w hw => ?_⟩
    rw [hw, hr]
    exact (h policy serve).bind (.ret _)

theorem registerSource_alike (family : ExtensionFamily) :
    view.Alike (env.opened memory) fun policy serve =>
      (env.host policy serve).registerSource family := by
  simp only [Host.registerSource, source_host]
  cases hs : env.source with
  | none => exact ret _
  | provider p => exact foreign (hl.provided p (provider_of_source hs) family)
  | library path =>
    refine (hl.registerLibrary_alike memory family hs).bind fun r => ?_
    cases r <;> exact ret _

theorem loadDynamic_alike (family : ExtensionFamily) :
    view.Alike (env.opened memory) fun policy serve =>
      (env.host policy serve).loadDynamic family := by
  simp only [Host.loadDynamic, sourceName?_host]
  cases env.sourceName? with
  | none => exact ret _
  | some name =>
    refine (hl.registerSource_alike memory family).bind fun ⟨list, r⟩ => ?_
    dsimp only
    split <;> exact (logs _ _).bind fun _ => ret _

theorem load_alike (family : ExtensionFamily) :
    view.Alike (env.opened memory) fun policy serve =>
      (env.host policy serve).load family true true :=
  (hl.loadStatic_alike memory family).bind fun _ =>
    (hl.loadDynamic_alike memory family).bind fun _ => ret _

/-- A query has one answer, whatever façades keep. -/
theorem find_alike (q : Query) :
    view.Alike (env.opened memory) fun policy serve => (env.host policy serve).find q := by
  have collect : view.Alike (env.opened memory) fun policy serve => do
      let list ← (env.host policy serve).load q.family true true
      emit (.count (.loaded q.type) list.length)
      (mislabelled q.type q.type.shape list).forM fun d => Act.log .warn d.mislabelledMessage
      let selection := q.select? list
      Act.log .debug (q.report selection)
      return selection :=
    (hl.load_alike memory q.family).bind fun _ => (same (.emit _)).bind fun _ =>
      (same (.forM (fun _ => .log _ _) _)).bind fun _ => (logs _ _).bind fun _ => ret _
  simp only [Host.find, spans_host]
  refine .bind (same (.change fun _ => ⟨rfl, rfl, rfl, rfl, rfl⟩)) fun _ => ?_
  refine (same (.emit _)).bind fun _ => ?_
  by_cases hq : env.config.spans.queries = true
  · simp only [hq, ↓reduceIte]
    exact (same (.emit _)).bind fun _ => collect
  · simp only [hq, Bool.false_eq_true, ↓reduceIte]
    exact collect

end Lists

end Environment

end ImageDispatch
