import ImageDispatch.Dispatch.Answer
import ImageDispatch.Proofs.Policy.Calls

/-!
# The policy does not show in replies

* `Host.useFacade`: a client makes a façade of a new dispatcher, and uses it again and again.
* `World.Vacant`: a dispatcher before its first façade. What happens until the façade is there does
  not depend on what it will keep (`makeFacade_ready`).
* `Environment.exists_supply`: surroundings in which extensions are listed once and for all and
  algorithms are interchangeable offer a supply.
* `replies_independent_of_policy`: the replies to the uses of a façade are the same whatever
  implementations it keeps.
-/

namespace ImageDispatch

open Act World

variable {σ : Type}

/-- Makes a façade, the first one, and uses it. -/
def Host.useFacade (host : Host σ) (kind : FacadeKind) (uses : List FacadeUse) :
    Act σ (List Reply) := do
  discard (host.answer (.facade kind))
  uses.mapM fun use => host.answer (use.request 0)

/-! ## Uses -/

namespace Host.Supplied

variable {host : Host σ} {view : AlgorithmView σ} {lib : Option (Library (Register σ))}
  {S : Supply} (hs : host.Supplied view lib S) {w : World σ} {f : FacadeId} {P : FacadeMemo}

include hs

theorem take_run (h : w.Ready view lib S f P) (use : FacadeUse) :
    ∃ w', host.answer (use.request f) w = ((S.take use P).1, w') ∧
      w'.Ready view lib S f (S.take use P).2 := by
  cases use with
  | set p => exact setParameter_run h p
  | process task => exact hs.process_run h task

/-- The replies to any number of uses are those of a façade that keeps nothing. -/
theorem takeAll_run (h : w.Ready view lib S f P) (uses : List FacadeUse) :
    ∃ w', uses.mapM (fun use => host.answer (use.request f)) w =
        ((uses.mapM S.take P).1, w') ∧
      w'.Ready view lib S f (uses.mapM S.take P).2 := by
  induction uses generalizing w P with
  | nil => exact ⟨w, rfl, h⟩
  | cons use rest ih =>
    obtain ⟨w₁, htake, h₁⟩ := hs.take_run h use
    obtain ⟨w₂, hrest, h₂⟩ := ih h₁
    refine ⟨w₂, ?_, ?_⟩
    · rw [List.mapM_cons, List.mapM_cons, bind_of_run htake, bind_of_run hrest]
      rfl
    · rw [List.mapM_cons]
      exact h₂

/-- Once the façade is ready that a client makes, the replies are those of one that keeps no
implementation. -/
theorem useFacade_replies {kind : FacadeKind}
    (h : (host.answer (.facade kind) w).2.Ready view lib S 0 { kind }) (uses : List FacadeUse) :
    (host.useFacade kind uses w).1 = S.replies kind uses := by
  obtain ⟨w', huses, -⟩ := hs.takeAll_run h uses
  exact congrArg Prod.fst huses

end Host.Supplied

/-! ## The beginning -/

namespace World

/-- No object and no façade was ever made. The library that is open is `lib`. -/
structure Vacant (lib : Option (Library (Register σ))) (w : World σ) : Prop where
  objects : w.objects = #[]
  facades : w.facades = #[]
  held : w.held = []
  library : w.library = lib

/-- A new façade has everything ahead of it. -/
theorem Vacant.ready {w w' : World σ} {view : AlgorithmView σ}
    {lib : Option (Library (Register σ))} (h : w.Vacant lib) (S : Supply) (kind : FacadeKind)
    (policy : CachePolicy) (ho : w'.objects = w.objects)
    (hf : w'.facades = w.facades.push (some (.new kind policy)))
    (hh : w'.held = .facade 0 :: w.held) (hl : w'.library = w.library) :
    w'.Ready view lib S 0 { kind } := by
  have none : ∀ (op : Operation) p, p ∉ ((Facade.new kind policy).cache op).pairs := by
    intro op p
    cases op <;> exact List.not_mem_nil
  refine ⟨.new kind policy, ⟨⟨?_, ?_⟩, ?_, ?_, hl.trans h.library, Facade.keyed_new kind policy,
    fun hm => absurd hm (none _ _)⟩, rfl, rfl, rfl, fun op => by cases op <;> rfl, fun _ => ?_⟩
  · simp [ho, h.objects]
  · simp [ho, h.objects]
  · simp [facade?, hf, h.facades]
  · simp [hh]
  · exact ⟨fun hm => absurd hm List.not_mem_nil, fun hm => absurd hm List.not_mem_nil,
      fun hm => absurd hm (none _ _), fun _ => rfl⟩

end World

namespace Environment.Lists

variable {env : Environment σ} {view : AlgorithmView σ} (hl : env.Lists view) {w : World σ}

include hl

/-- What the bootstrap service leaves behind does not depend on what façades will keep. -/
theorem announce_vacant (h : w.Vacant none) (hi : w.instances = 0) (hc : w.counting = false) :
    ∃ w', (∀ policy serve, (env.host policy serve).announce w = ((), w')) ∧ w'.Vacant none ∧
      w'.instances = 0 ∧ w'.counting = false := by
  have connected : ∃ w₁, (∀ policy serve, (env.host policy serve).connect w = ((), w₁)) ∧
      w₁.Vacant none ∧ w₁.instances = 0 ∧ w₁.counting = false := by
    simp only [Host.connect, service_host]
    cases hs : env.service with
    | none => exact ⟨_, fun _ _ => rfl, ⟨h.objects, h.facades, h.held, h.library⟩, hi, hc⟩
    | some s =>
      obtain ⟨m', hm⟩ := hl.connects s hs w.memory
      exact ⟨_, fun _ _ => Host.runForeign_done hm,
        ⟨h.objects, h.facades, h.held, h.library⟩, hi, hc⟩
  obtain ⟨w₁, hconnect, h₁, hi₁, hc₁⟩ := connected
  refine ⟨w₁.note (.connected w₁.facades.size), fun policy serve => ?_,
    ⟨h₁.objects, h₁.facades, h₁.held, h₁.library⟩, hi₁, hc₁⟩
  unfold Host.announce
  rw [bind_of_run (hconnect policy serve)]
  rfl

variable (policy : CachePolicy) (serve : Request → Act σ Reply)

/-- Whether the source opens or not, the library that is open then is the one that it loads. -/
theorem openSource_vacant (h : w.Vacant none) :
    ∃ r w', (env.host policy serve).openSource w = (r, w') ∧ w'.Vacant (env.opened w.memory) := by
  unfold Host.openSource
  simp only [source_host, loader_host]
  cases hs : env.source with
  | none =>
    exact ⟨_, _, rfl, h.objects, h.facades, h.held, by rw [h.library, opened, hs]⟩
  | provider p =>
    obtain ⟨m', r, hm⟩ := hl.opens p (provider_of_source hs) w.memory
    simp only
    rw [bind_of_run (Host.runForeign_done hm)]
    exact ⟨_, _, rfl, h.objects, h.facades, h.held, by rw [opened, hs]; exact h.library⟩
  | library path =>
    simp only
    rw [get_run, if_neg (by rw [h.library]; exact Bool.false_ne_true)]
    cases hload : env.loader path w.memory with
    | error reason =>
      refine ⟨_, _, rfl, h.objects, h.facades, h.held, ?_⟩
      rw [opened, hs]
      simpa [hload, Except.toOption] using h.library
    | ok library =>
      refine ⟨_, _, rfl, h.objects, h.facades, h.held, ?_⟩
      rw [opened, hs]
      simp [hload, Except.toOption]

theorem increase_vacant (h : w.Vacant none) (hi : w.instances = 0) (hc : w.counting = false) :
    ∃ w', (env.host policy serve).increase w = ((), w') ∧ w'.Vacant (env.opened w.memory) := by
  let w₁ : World σ := { w with counting := true }
  obtain ⟨r, w₂, hopen, h₂⟩ :=
    hl.openSource_vacant policy serve (w := w₁) ⟨h.objects, h.facades, h.held, h.library⟩
  unfold Host.increase Host.exclusively
  rw [get_run, if_neg (by rw [hc]; nofun)]
  have hmod : (modify fun w => { w with counting := true } : Act σ Unit) w = ((), w₁) := rfl
  have hzero : w₁.instances = 0 := hi
  rw [bind_of_run hmod, bind_run, get_run, if_pos hzero, bind_of_run hopen]
  cases r <;> exact ⟨_, rfl, h₂.objects, h₂.facades, h₂.held, h₂.library⟩

theorem enter_ready (h : w.Vacant none) (hi : w.instances = 0) (hc : w.counting = false)
    (S : Supply) (kind : FacadeKind) :
    ((do
      let f ← (env.host policy serve).enter kind
      Host.handOver (.facade f)
      return .facade f : Act σ Reply) w).2.Ready view (env.opened w.memory) S 0 { kind } := by
  obtain ⟨w₁, hincrease, h₁⟩ := hl.increase_vacant policy serve h hi hc
  unfold Host.enter
  rw [bind_run, bind_of_run hincrease]
  refine h₁.ready S kind policy rfl rfl ?_ rfl
  show Ref.facade w₁.facades.size :: w₁.held = _
  rw [h₁.facades]
  rfl

omit policy serve in
/-- What is made first is a façade that is ready for its first call. The library is opened at one
time, whatever façades keep. -/
theorem answer_facade_ready (kind : FacadeKind) (memory : σ) :
    ∃ m', ∀ policy serve S, ((env.host policy serve).answer (.facade kind)
      { memory }).2.Ready view (env.opened m') S 0 { kind } := by
  have h₀ : World.Vacant none ({ memory } : World σ) := ⟨rfl, rfl, rfl, rfl⟩
  obtain ⟨w₁, hannounce, h₁, hi₁, hc₁⟩ := hl.announce_vacant h₀ rfl rfl
  refine ⟨if kind.usesService = true then w₁.memory else memory, fun policy serve S => ?_⟩
  show ((do
    let f ← (env.host policy serve).makeFacade kind
    Host.handOver (.facade f)
    return .facade f : Act σ Reply) { memory }).2.Ready view _ S 0 { kind }
  unfold Host.makeFacade
  split
  · rw [bind_run, bind_of_run (hannounce policy serve)]
    exact hl.enter_ready policy serve h₁ hi₁ hc₁ S kind
  · exact hl.enter_ready policy serve h₀ rfl rfl S kind

end Environment.Lists

/-! ## Policies -/

namespace Environment

variable {env : Environment σ} {view : AlgorithmView σ} {b : Behaviour}

/-- What can be had in such surroundings does not depend on what façades keep. -/
theorem exists_supply (hl : env.Lists view) (hb : env.Behaves view b) (memory : σ) :
    ∃ S, ∀ policy serve, (env.host policy serve).Supplied view (env.opened memory) S := by
  choose select hfind using hl.find_alike memory
  exact ⟨{ b with select, threshold := env.config.failureThreshold }, fun policy serve =>
    ⟨⟨hb.create, hb.init, hb.deinit, hb.set, hb.work⟩, fun q => hfind q policy serve, rfl⟩⟩

theorem nested_withPolicy (env : Environment σ) (policy : CachePolicy) (depth : Nat) :
    ∃ serve, Host.nested (env.withPolicy policy) depth = env.host policy serve := by
  cases depth <;> exact ⟨_, rfl⟩

end Environment

/-- The extensions that are registered are fixed, and ask nothing of the dispatcher. What their
algorithms do follows from the extension and from the parameter that was pushed into them last. Then
each façade gives the same replies, with the same errors and the same surfaces, to any sequence of
parameters and calls, whether it keeps a bounded number of implementations or all of them. -/
theorem replies_independent_of_policy (env : Environment σ) (view : AlgorithmView σ)
    (b : Behaviour) (hl : env.Lists view) (hb : env.Behaves view b) (kind : FacadeKind)
    (capacity : Nat) (pos : 0 < capacity) (depth : Nat) (memory : σ) (uses : List FacadeUse) :
    ((Host.nested (env.withPolicy (.recent capacity pos)) depth).useFacade kind uses
        { memory }).1 =
      ((Host.nested (env.withPolicy .unbounded) depth).useFacade kind uses { memory }).1 := by
  obtain ⟨m', hready⟩ := hl.answer_facade_ready kind memory
  obtain ⟨S, hs⟩ := Environment.exists_supply hl hb m'
  have replies : ∀ policy,
      ((Host.nested (env.withPolicy policy) depth).useFacade kind uses { memory }).1 =
        S.replies kind uses := by
    intro policy
    obtain ⟨serve, hnested⟩ := env.nested_withPolicy policy depth
    rw [hnested]
    exact (hs policy serve).useFacade_replies (hready policy serve S) uses
  rw [replies, replies]

/-- Surroundings in which the extensions of a list are linked in. The memory has the creator and the
last parameter of each algorithm, which works only after a parameter was pushed. -/
def Environment.recorded (list : List Descriptor) :
    Environment (List (Creator × Option Parameter)) where
  config := {}
  statics := [⟨"linked", .general, some fun memory => .done memory list⟩]
  loader _ _ := .error "no library"
  code := {
    create c memory := .done (memory ++ [(c, none)]) (some memory.length)
    init _ memory := .done memory (.ok ())
    deinit _ memory := .done memory (.ok ())
    set t p memory := .done (memory.modify t fun a => (a.1, some p)) (.ok ())
    get _ memory := .done memory none
    work t job memory := .done memory
      (if (memory[t]?.bind Prod.snd).isSome then .ok () else
        .error (.operationNotSupported "no parameter"), job)
    rate _ _ memory := .done memory (.ok 0) }

/-- The behaviour of these algorithms. -/
def Behaviour.recorded : Behaviour where
  creates _ := true
  init _ := .ok ()
  set _ _ := .ok ()
  work _ last job :=
    (if last.isSome then .ok () else .error (.operationNotSupported "no parameter"), job)

theorem Environment.recorded_lists (list : List Descriptor) :
    (Environment.recorded list).Lists fun memory t => memory[t]? where
  linked := by
    intro r hr register hregister
    obtain rfl := List.mem_singleton.1 hr
    cases hregister
    exact ⟨list, fun m => ⟨m, rfl, rfl⟩⟩
  provided := nofun
  library := nofun
  opens := nofun
  connects := nofun

theorem Environment.recorded_behaves (list : List Descriptor) :
    (Environment.recorded list).Behaves (fun memory t => memory[t]?) .recorded where
  create := by
    intro c m
    refine ⟨_, _, rfl, nofun, fun t ht => ?_⟩
    cases ht
    refine ⟨rfl, by simp, by simp, fun t' ht' => ?_⟩
    rcases Nat.lt_or_gt_of_ne ht' with hlt | hlt
    · exact List.getElem?_append_left hlt
    · simp only [List.getElem?_eq_none (Nat.le_of_lt hlt)]
      exact List.getElem?_eq_none (by rw [List.length_append, List.length_singleton]; omega)
  init := fun {t c m} h => ⟨m, rfl, fun _ _ => rfl, fun _ => h⟩
  deinit := fun {t m} _ => ⟨m, _, rfl, fun _ _ => rfl⟩
  set := by
    intro t c q m p h
    refine ⟨_, some p, rfl, fun t' ht' => ?_, by simp [h], fun _ => rfl⟩
    exact List.getElem?_modify_ne _ _ (Ne.symm ht')
  work := by
    intro t c q m job h
    exact ⟨m, by simp [recorded, Behaviour.recorded, h], rfl⟩

/-- Two formats in turn. A façade that keeps one implementation creates three, and one that keeps
all creates two, and there is nothing to be seen of it in the replies. -/
theorem replies_independent_of_policy_recorded :
    let env := Environment.recorded [⟨⟨.hdrEnhancer, "bright", "1"⟩,
      .hdr [⟨[.rgba8888, .bgra8888], .default, 1⟩], ⟨0⟩⟩]
    let uses := [FacadeUse.set (.hdr {}), .process (.hdr (.packed 1 1 .rgba8888)),
      .process (.hdr (.packed 1 1 .bgra8888)), .process (.hdr (.packed 1 1 .rgba8888))]
    let bounded := (Host.nested (env.withPolicy (.recent 1 (by decide))) 1).useFacade .hdr uses
      { memory := [] }
    let unbounded := (Host.nested (env.withPolicy .unbounded) 1).useFacade .hdr uses
      { memory := [] }
    bounded.2.objects.size = 3 ∧ unbounded.2.objects.size = 2 ∧ bounded.1 = unbounded.1 := by
  intro env uses bounded unbounded
  exact ⟨by decide +kernel, by decide +kernel, replies_independent_of_policy env _ .recorded
    (Environment.recorded_lists _) (Environment.recorded_behaves _) .hdr 1 (by decide) 1 [] uses⟩

end ImageDispatch
