import ImageDispatch.Proofs.Lifetime.Implementations
import ImageDispatch.Proofs.Policy.Supply

/-!
# What a façade keeps in stock

The objects that a façade keeps are as good as new ones.

* `World.Has`: an object is an algorithm of an extension, with what was pushed into it last.
* `World.Keeps f facade`: the façade is `facade`, and each object in its caches is an algorithm of
  the extension that a new one for the key would come from. If the façade has never pushed a
  parameter, none was pushed into what it keeps.
* `Host.Supplied`: a dispatcher in surroundings that offer a supply.
* `Supplied.create_run`, `Supplied.settleObject_keeps`: objects come and go, and the façade keeps
  what it keeps. What each change does to it is said before.
-/

namespace ImageDispatch

open Act World

variable {σ α : Type}

/-- The query behind an operation for the key of a cache. -/
def Operation.queryOf : Operation → Key → Query
  | .compose, .conversion k => .compose k
  | .decompose, .conversion k => .decompose k
  | _, .conversion k => .convert k
  | _, .generation k => .generate k
  | _, .level l => .detail l
  | _, .format f => .hdr f
  | _, .contrast k => .contrast k
  | _, .refresh => .refresh

/-- A façade of the kind that has such a parameter pushes none. For detail there is a default. -/
def FacadeKind.Unpushed (kind : FacadeKind) (p : Option Parameter) : Prop :=
  p = none ∧ kind ≠ .detail ∧ kind ≠ .videoDetail

namespace World

variable {view : AlgorithmView σ} {lib : Option (Library (Register σ))} {S : Supply}
  {w w' : World σ} {f : FacadeId} {facade : Facade}

/-- The object lives. It is an algorithm of a selected extension, and `last` was pushed into it
last. -/
def Has (view : AlgorithmView σ) (w : World σ) (o : ObjectId) (s : Selection)
    (last : Option Parameter) : Prop :=
  ∃ object, w.objects[o]? = some object ∧ object.stage = .live ∧ object.info = s.info ∧
    view w.memory object.token = some (s.creator, last)

/-- What a call for an algorithm comes to, beside what it should come to. If `u` holds, then nothing
was pushed into the algorithm. -/
inductive Obtains (view : AlgorithmView σ) (w : World σ) (u : Prop) :
    Except Error Selection → Except Error ObjectId → Prop
  | fails (e : Error) : w.Obtains view u (.error e) (.error e)
  | gets {s : Selection} {o : ObjectId} {last : Option Parameter} (ho : w.Has view o s last)
    (hl : u → last = none) : w.Obtains view u (.ok s) (.ok o)

/-- Objects that live are algorithms, and no two are the same one. -/
structure Distinct (view : AlgorithmView σ) (w : World σ) : Prop where
  known : ∀ {o : ObjectId} {object}, w.objects[o]? = some object → object.stage = .live →
    view w.memory object.token ≠ none
  inj : ∀ {o o' : ObjectId} {object object'}, w.objects[o]? = some object →
    w.objects[o']? = some object' → object.stage = .live → object'.stage = .live →
    object.token = object'.token → o = o'

/-- What a façade keeps is as good as new (module doc). The library that is open is `lib`. -/
structure Keeps (view : AlgorithmView σ) (lib : Option (Library (Register σ))) (S : Supply)
    (f : FacadeId) (facade : Facade) (w : World σ) : Prop extends w.Distinct view where
  facade_eq : w.facade? f = some facade
  held : .facade f ∈ w.held
  library : w.library = lib
  keyed : facade.Keyed
  kept : ∀ {op k o}, (k, o) ∈ (facade.cache op).pairs → ∃ s last,
    S.creation (op.queryOf k) = .ok s ∧ w.Has view o s last ∧
      (facade.kind.Unpushed facade.parameter → last = none)

/-! ## Changes -/

theorem Distinct.aside (h : w.Distinct view) (ha : w.Aside view w') : w'.Distinct view where
  known := by rw [ha.objects, ha.view]; exact h.known
  inj := by rw [ha.objects]; exact h.inj

theorem Has.aside {o : ObjectId} {s : Selection} {last : Option Parameter}
    (h : w.Has view o s last) (ha : w.Aside view w') : w'.Has view o s last := by
  rw [Has, ha.objects, ha.view]; exact h

theorem Obtains.mono {u u' : Prop} {result : Except Error Selection} {r : Except Error ObjectId}
    (h : w.Obtains view u result r) (hm : w'.memory = w.memory) (ho : w'.objects = w.objects)
    (hu : u' → u) : w'.Obtains view u' result r := by
  cases h with
  | fails e => exact .fails e
  | gets hhas hl => exact .gets (by rw [Has, hm, ho]; exact hhas) fun h => hl (hu h)

theorem Keeps.aside (h : w.Keeps view lib S f facade) (ha : w.Aside view w') :
    w'.Keeps view lib S f facade where
  toDistinct := h.toDistinct.aside ha
  facade_eq := by unfold facade?; rw [ha.facades]; exact h.facade_eq
  held := by rw [ha.held]; exact h.held
  library := ha.library.trans h.library
  keyed := h.keyed
  kept := fun hk =>
    have ⟨s, last, hs, ho, hl⟩ := h.kept hk
    ⟨s, last, hs, ho.aside ha, hl⟩

/-- Other objects and memories, as long as the objects that are kept stay as they are, or as good as
they are. -/
theorem Keeps.restock (h : w.Keeps view lib S f facade) {m' : σ} (objects : Array AlgorithmObject)
    (hd : { w with memory := m', objects : World σ }.Distinct view)
    (hk : ∀ {o s last}, w.Has view o s last → o ∈ facade.objects → ∃ last',
      { w with memory := m', objects : World σ }.Has view o s last' ∧
        (facade.kind.Unpushed facade.parameter → last' = last)) :
    { w with memory := m', objects : World σ }.Keeps view lib S f facade where
  toDistinct := hd
  facade_eq := h.facade_eq
  held := h.held
  library := h.library
  keyed := h.keyed
  kept := by
    intro op k o hm
    obtain ⟨s, last, hs, ho, hl⟩ := h.kept hm
    have hmem : o ∈ facade.objects :=
      Facade.mem_objects.2 ⟨op, by rw [← Cache.map_snd_pairs]; exact List.mem_map_of_mem hm⟩
    obtain ⟨last', ho', hl'⟩ := hk ho hmem
    exact ⟨s, last', hs, ho', fun hu => (hl' hu).trans (hl hu)⟩

/-- A new object, which lives if it is an algorithm. -/
theorem Keeps.grow (h : w.Keeps view lib S f facade) {m' : σ} (object : AlgorithmObject)
    (hn : view w.memory object.token = none) (hv : view.SameBut object.token w.memory m')
    (hl : object.stage = .live → view m' object.token ≠ none) :
    { w with memory := m', objects := w.objects.push object : World σ }.Keeps
      view lib S f facade := by
  have other : ∀ {o : ObjectId} {object'}, w.objects[o]? = some object' → object'.stage = .live →
      object'.token ≠ object.token := fun ho hs he => h.known ho hs (he ▸ hn)
  have cases : ∀ {o : ObjectId} {object'}, (w.objects.push object)[o]? = some object' →
      (o = w.objects.size ∧ object' = object) ∨ w.objects[o]? = some object' := by
    intro o object' ho
    rw [Array.getElem?_push] at ho
    split at ho
    · exact .inl ⟨‹_›, (Option.some.inj ho).symm⟩
    · exact .inr ho
  refine h.restock _ ⟨fun {o object'} ho hs => ?_, fun {o₁ o₂ a₁ a₂} h₁ h₂ s₁ s₂ he => ?_⟩ ?_
  · obtain ⟨-, rfl⟩ | ho := cases ho
    · exact hl hs
    · show view m' object'.token ≠ none
      rw [hv _ (other ho hs)]
      exact h.known ho hs
  · obtain ⟨rfl, rfl⟩ | h₁' := cases h₁ <;> obtain ⟨rfl, rfl⟩ | h₂' := cases h₂
    · rfl
    · exact absurd he.symm (other h₂' s₂)
    · exact absurd he (other h₁' s₁)
    · exact h.inj h₁' h₂' s₁ s₂ he
  · rintro o s last ⟨object', ho, hs, hi, hlast⟩ -
    refine ⟨last, ⟨object', ?_, hs, hi, ?_⟩, fun _ => rfl⟩
    · have : o ≠ w.objects.size := by
        rintro rfl
        simp at ho
      show (w.objects.push object)[o]? = _
      rw [Array.getElem?_push, if_neg this]
      exact ho
    · exact (hv _ (other ho hs)).trans hlast

/-- An object that the façade does not keep stops to live. -/
theorem Keeps.retire (h : w.Keeps view lib S f facade) {m' : σ} {o : ObjectId}
    {object : AlgorithmObject} (ho : w.objects[o]? = some object) (hs : object.stage = .live)
    (hv : view.SameBut object.token w.memory m') (hf : o ∉ facade.objects) :
    { w with
      memory := m'
      objects := w.objects.modify o fun object => { object with stage := .finished }
      : World σ }.Keeps view lib S f facade := by
  have other : ∀ {o' : ObjectId} {object'}, w.objects[o']? = some object' →
      object'.stage = .live → o' ≠ o → object'.token ≠ object.token :=
    fun ho' hs' hne he => hne (h.inj ho' ho hs' hs he)
  have cases : ∀ {o' : ObjectId} {object'},
      (w.objects.modify o fun object => { object with stage := .finished })[o']? = some object' →
      object'.stage = .live → o' ≠ o ∧ w.objects[o']? = some object' := by
    intro o' object' ho' hs'
    rw [Array.getElem?_modify] at ho'
    split at ho'
    · rename_i he
      subst he
      rw [ho] at ho'
      cases ho'
      cases hs'
    · exact ⟨Ne.symm ‹_›, ho'⟩
  refine h.restock _ ⟨fun {o' object'} ho' hs' => ?_, fun {o₁ o₂ a₁ a₂} h₁ h₂ s₁ s₂ he => ?_⟩ ?_
  · obtain ⟨hne, ho'⟩ := cases ho' hs'
    show view m' object'.token ≠ none
    rw [hv _ (other ho' hs' hne)]
    exact h.known ho' hs'
  · exact h.inj (cases h₁ s₁).2 (cases h₂ s₂).2 s₁ s₂ he
  · rintro o' s last ⟨object', ho', hs', hi, hlast⟩ hmem
    have hne : o' ≠ o := by rintro rfl; exact hf hmem
    refine ⟨last, ⟨object', ?_, hs', hi, (hv _ (other ho' hs' hne)).trans hlast⟩, fun _ => rfl⟩
    show (w.objects.modify o _)[o']? = _
    rw [Array.getElem?_modify, if_neg (Ne.symm hne)]
    exact ho'

/-- A parameter is pushed into an object, by a façade that does push parameters. -/
theorem Keeps.pushed (h : w.Keeps view lib S f facade) {m' : σ} {object : AlgorithmObject}
    {c : Creator} {q q' : Option Parameter} (hq : view w.memory object.token = some (c, q))
    (hq' : view m' object.token = some (c, q')) (hv : view.SameBut object.token w.memory m')
    (hp : ¬facade.kind.Unpushed facade.parameter) :
    { w with memory := m' : World σ }.Keeps view lib S f facade := by
  refine h.restock w.objects
    ⟨fun {o' object'} ho' hs' => ?_, fun h₁ h₂ s₁ s₂ he => h.inj h₁ h₂ s₁ s₂ he⟩ ?_
  · show view m' object'.token ≠ none
    by_cases he : object'.token = object.token
    · rw [he, hq']; exact nofun
    · rw [hv _ he]; exact h.known ho' hs'
  · rintro o' s last ⟨object', ho', hs', hi, hlast⟩ -
    by_cases he : object'.token = object.token
    · rw [he, hq] at hlast
      cases hlast
      exact ⟨q', ⟨object', ho', hs', hi, by rw [he]; exact hq'⟩, fun hu => absurd hu hp⟩
    · exact ⟨last, ⟨object', ho', hs', hi, (hv _ he).trans hlast⟩, fun _ => rfl⟩

/-- The façade changes. What it keeps then is as good as new. -/
theorem Keeps.change (h : w.Keeps view lib S f facade) (change : Facade → Facade)
    (hk : (change facade).Keyed)
    (hs : ∀ {op k o}, (k, o) ∈ ((change facade).cache op).pairs → ∃ s last,
      S.creation (op.queryOf k) = .ok s ∧ w.Has view o s last ∧
        ((change facade).kind.Unpushed (change facade).parameter → last = none)) :
    { w with facades := w.facades.modify f (Option.map change) : World σ }.Keeps view lib S f
      (change facade) where
  known := h.known
  inj := h.inj
  facade_eq := facade?_modify_self h.facade_eq change
  held := h.held
  library := h.library
  keyed := hk
  kept := hs

/-- The façade changes, but for what it keeps. It does not give up pushing parameters. -/
theorem Keeps.reform (h : w.Keeps view lib S f facade) (change : Facade → Facade)
    (hc : ∀ op, (change facade).cache op = facade.cache op)
    (hu : (change facade).kind.Unpushed (change facade).parameter →
      facade.kind.Unpushed facade.parameter) :
    { w with facades := w.facades.modify f (Option.map change) : World σ }.Keeps view lib S f
      (change facade) := by
  refine h.change _ (fun op => by rw [hc]; exact h.keyed op) fun {op k o} hm => ?_
  rw [hc] at hm
  obtain ⟨s, last, hs, ho, hl⟩ := h.kept hm
  exact ⟨s, last, hs, ho, fun hn => hl (hu hn)⟩

end World

/-! ## Creating and releasing -/

/-- The dispatcher is in surroundings that offer a supply, as long as the library is open. -/
structure Host.Supplied (host : Host σ) (view : AlgorithmView σ)
    (lib : Option (Library (Register σ))) (S : Supply) : Prop where
  behaves : host.env.Behaves view S.toBehaviour
  finds : ∀ q, Settled view lib (host.find q) (S.select q)
  threshold : host.env.config.failureThreshold = S.threshold

/-- A call of an algorithm changes the memory, and is noted. -/
theorem Host.invoke_run (host : Host σ) (view : AlgorithmView σ) (o : ObjectId) (method : Method)
    (succeeded : α → Bool) {code : σ → Foreign σ α} {w : World σ} {m' : σ} {x : α}
    (h : code w.memory = .done m' x) :
    ∃ w', host.invoke o method succeeded code w = (x, w') ∧ w'.memory = m' ∧
      { w with memory := m' : World σ }.Aside view w' := by
  have hbegan : emit (.began o method) w = ((), w.note (.began o method)) := rfl
  have h' : code (w.note (.began o method)).memory = .done m' x := h
  unfold invoke
  rw [bind_of_run hbegan, bind_of_run (runForeign_done h')]
  exact ⟨_, rfl, rfl, rfl, rfl, rfl, rfl, rfl⟩

theorem modify_push_size (a : Array α) (x : α) (g : α → α) :
    (a.push x).modify a.size g = a.push (g x) := by
  apply Array.ext_getElem?
  intro i
  rw [Array.getElem?_modify, Array.getElem?_push, Array.getElem?_push]
  by_cases h : i = a.size
  · simp [h]
  · rw [if_neg (Ne.symm h), if_neg h, if_neg h]

namespace Host.Supplied

variable {host : Host σ} {view : AlgorithmView σ} {lib : Option (Library (Register σ))}
  {S : Supply} (hs : host.Supplied view lib S) {w : World σ} {f : FacadeId} {facade : Facade}

include hs

/-- The algorithm of a selected extension is new, or is not made for a reason that does not depend
on what is kept. -/
theorem instantiate_run (h : w.Keeps view lib S f facade) {q : Query} {s : Selection}
    (hq : S.select q = some s) (u : Prop) :
    ∃ r w', host.instantiate s w = (r, w') ∧ w'.Keeps view lib S f facade ∧
      w'.Obtains view u (S.creation q) r := by
  simp only [Supply.creation, hq]
  obtain ⟨m₁, answer, hcode, hnone, hsome⟩ := hs.behaves.create s.creator w.memory
  unfold instantiate
  rw [bind_of_run (runForeign_done hcode)]
  cases answer with
  | none =>
    obtain ⟨hc, hv⟩ := hnone rfl
    rw [hc]
    exact ⟨_, _, rfl, h.aside ⟨hv, rfl, rfl, rfl, rfl⟩, .fails _⟩
  | some token =>
    obtain ⟨hc, hnew, hthere, hother⟩ := hsome token rfl
    obtain ⟨m₂, hinit, hother', hok⟩ := hs.behaves.init hthere
    have hv : view.SameBut token w.memory m₂ := fun t ht => (hother' t ht).trans (hother t ht)
    -- The object is there before it is initialized, and does not live yet.
    let w₁ : World σ := { w with
      memory := m₁
      objects := w.objects.push ⟨s.info, token, .starting⟩ }
    have hadd : addObject s.info token { w with memory := m₁ } = (w.objects.size, w₁) := rfl
    obtain ⟨w₂, hrun, hm, ha⟩ := host.invoke_run view w.objects.size .init Except.isOk
      (show host.env.code.init token w₁.memory = _ from hinit)
    simp only [hc, ↓reduceIte]
    rw [bind_of_run hadd, bind_of_run hrun]
    cases hi : S.init s.creator with
    | error e =>
      exact ⟨_, _, rfl, (h.grow ⟨s.info, token, .starting⟩ hnew hv nofun).aside
        (ha.trans ⟨rfl, rfl, rfl, rfl, rfl⟩), .fails _⟩
    | ok =>
      have hlive := hok (by rw [hi])
      have hobjects : (w₂.objects.modify w.objects.size fun object =>
          { object with stage := .live }) = w.objects.push ⟨s.info, token, .live⟩ := by
        rw [ha.objects]
        exact modify_push_size w.objects _ _
      exact ⟨_, _, rfl, (h.grow ⟨s.info, token, .live⟩ hnew hv
        (fun _ => by rw [hlive]; nofun)).aside ⟨ha.view, hobjects, ha.facades, ha.held, ha.library⟩,
        .gets ⟨⟨s.info, token, .live⟩, (congrArg (·[w.objects.size]?) hobjects).trans
          Array.getElem?_push_size, rfl, rfl, (congrFun ha.view token).trans hlive⟩ fun _ => rfl⟩

theorem create_run (h : w.Keeps view lib S f facade) (q : Query) (u : Prop) :
    ∃ r w', host.create q w = (r, w') ∧ w'.Keeps view lib S f facade ∧
      w'.Obtains view u (S.creation q) r := by
  obtain ⟨w₁, hfind, ha⟩ := hs.finds q h.library
  unfold create
  rw [bind_of_run hfind]
  cases hq : S.select q with
  | none => exact ⟨_, w₁, rfl, h.aside ha, by simp only [Supply.creation, hq]; exact .fails _⟩
  | some s => exact hs.instantiate_run (h.aside ha) hq u

/-- An object that nothing refers to is released. What the façade keeps is referred to. -/
theorem settleObject_keeps (h : w.Keeps view lib S f facade) (o : ObjectId) :
    (host.settleObject o w).2.Keeps view lib S f facade := by
  unfold settleObject
  rw [get_run]
  cases ho : w.objects[o]? with
  | none => exact h
  | some object =>
    simp only
    split
    · rename_i hcond
      obtain ⟨hlive, hr⟩ := hcond
      have hf : o ∉ facade.objects := by
        intro hmem
        have hstores : w.Stores (.object o) := ⟨f, facade, h.facade_eq, hmem⟩
        exact Bool.false_ne_true (hr.symm.trans (refersTo_iff.2 (.inr (.inr hstores))))
      obtain ⟨m', r, hcode, hv⟩ := hs.behaves.deinit (h.known ho hlive)
      have hret := h.retire ho hlive hv hf
      let v : World σ := { w with
        objects := w.objects.modify o fun object => { object with stage := .finished } }
      have hstage : setStage o .finished w = ((), v) := rfl
      obtain ⟨w₁, hrun, -, ha⟩ := host.invoke_run view o .deinit Except.isOk
        (show host.env.code.deinit object.token v.memory = _ from hcode)
      rw [bind_of_run hstage, bind_of_run hrun]
      cases r <;> exact (hret.aside ha).aside (.note _ _)
    · exact h

theorem unpin_object_keeps (h : w.Keeps view lib S f facade) (o : ObjectId) :
    (host.unpin (.object o) w).2.Keeps view lib S f facade := by
  have h' : { w with pins := w.pins.erase (.object o) : World σ }.Keeps view lib S f facade :=
    h.aside ⟨rfl, rfl, rfl, rfl, rfl⟩
  exact hs.settleObject_keeps h' o

theorem letDisplacedGo_keeps (h : w.Keeps view lib S f facade) (family : String) (k : Key)
    (displaced : Option (Key × ObjectId)) :
    (host.letDisplacedGo family k displaced w).2.Keeps view lib S f facade := by
  unfold letDisplacedGo
  cases displaced with
  | none => exact h
  | some p =>
    cases Cache.evicted? k (some p) with
    | none => exact hs.settleObject_keeps h p.2
    | some evicted => exact hs.settleObject_keeps (h.aside (.note w _)) p.2

end Host.Supplied

end ImageDispatch
