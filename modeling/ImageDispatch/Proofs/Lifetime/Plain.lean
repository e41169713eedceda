import ImageDispatch.Boundary.Entry
import ImageDispatch.Proofs.Lifetime.Triple

/-!
# Actions that only report and let code of others run

* `World.Same`: worlds that differ in the memory of the code of others, in the number of queries, in
  what the vendor library is, and in whether callers in C have started only.
* `Host.Plain a`: `a` is put together from reports, such changes, and runs of code of others. What
  such runs preserve, it preserves (`Host.Plain.triple`).
* Plain are the collecting and finding of extensions, the calls of the bootstrap service, and what
  is read or noted on the way.
-/

namespace ImageDispatch

/-- The event tells somebody else what is going on. That levels of detail are left out is not told
by the way. -/
def Event.isReport : Event → Bool
  | .count .fallbacks _ => false
  | .log .. | .span .. | .count .. | .gauge .slotsUsed _ => true
  | _ => false

theorem Event.concerns_report {e : Event} (h : e.isReport = true) (o : ObjectId) :
    e.concerns o = false := by
  cases e <;> first | rfl | cases h

/-- Worlds that differ in nothing that lives or keeps, or is counted (module doc). -/
structure World.Same {σ : Type} (w w' : World σ) : Prop where
  journal : w'.journal = w.journal
  objects : w'.objects = w.objects
  facades : w'.facades = w.facades
  held : w'.held = w.held
  pins : w'.pins = w.pins
  instances : w'.instances = w.instances
  counting : w'.counting = w.counting
  table : w'.table = w.table

theorem World.Same.unmoved {σ : Type} {w w' : World σ} (h : w.Same w') : w.Unmoved w' :=
  ⟨h.held, h.pins, h.facades, h.objects, h.table, fun o => by rw [calls, calls, h.journal]⟩

open Act World

variable {σ α β : Type}

namespace Host

/-- The action only reports and lets code of others run (module doc). -/
inductive Plain (host : Host σ) : {α : Type} → Act σ α → Prop
  | ret {α : Type} (x : α) : Plain host (pure x : Act σ α)
  | bind {α β : Type} {a : Act σ α} {f : α → Act σ β} (ha : Plain host a)
    (hf : ∀ x, Plain host (f x)) : Plain host (a >>= f)
  | read {α : Type} {f : World σ → Act σ α} (hf : ∀ w, Plain host (f w)) : Plain host (get >>= f)
  | change {f : World σ → World σ} (hf : ∀ w : World σ, w.Same (f w)) :
    Plain host (modify f : Act σ Unit)
  | report {e : Event} (h : e.isReport = true) : Plain host (emit e)
  | foreign {α : Type} (code : σ → Foreign σ α) : Plain host (host.runForeign code)

namespace Plain

variable {host : Host σ} {a : Act σ α}

theorem triple (ht : host.Tidy) (h : host.Plain a) (ps : List Ref) :
    Triple ps a fun _ => ps := by
  induction h with
  | ret x => exact .ret x
  | bind _ _ iha ihf => exact iha.bind ihf
  | read _ ih => exact .read ih
  | change hf => exact .of_unmoved fun w => (hf w).unmoved
  | report h => exact emit_triple ps (Event.concerns_report h)
  | foreign code => exact ht.runForeign ps code

theorem log (severity : Severity) (text : String) : host.Plain (Act.log severity text) :=
  .report rfl

theorem mapM {γ : Type} {f : γ → Act σ α} (hf : ∀ x, host.Plain (f x)) :
    (l : List γ) → host.Plain (l.mapM f)
  | [] => by rw [List.mapM_nil]; exact .ret _
  | x :: rest => by
    rw [List.mapM_cons]
    exact (hf x).bind fun _ => (mapM hf rest).bind fun _ => .ret _

theorem forM {γ : Type} {f : γ → Act σ Unit} : (l : List γ) → (∀ x ∈ l, host.Plain (f x)) →
    host.Plain (l.forM f)
  | [], _ => .ret ()
  | x :: rest, hf => (hf x List.mem_cons_self).bind fun _ =>
    forM rest fun y hy => hf y (List.mem_cons_of_mem _ hy)

end Plain

variable (host : Host σ)

/-! ## Collecting and finding -/

theorem runRegistration_plain (r : Registration σ) : host.Plain (host.runRegistration r) := by
  unfold runRegistration
  cases r.register with
  | some register => exact .foreign register
  | none => exact (Plain.log _ _).bind fun _ => .ret _

theorem loadStatic_plain (family : ExtensionFamily) : host.Plain (host.loadStatic family) :=
  (Plain.mapM host.runRegistration_plain _).bind fun _ => .ret _

theorem runEntry_plain (entry : RegistrationEntry (Register σ)) :
    host.Plain (host.runEntry entry) := by
  unfold runEntry
  cases entry.register with
  | some register =>
    exact (Plain.foreign register).bind fun _ => (Plain.log _ _).bind fun _ => .ret _
  | none => exact (Plain.log _ _).bind fun _ => .ret _

theorem runRegistering_plain :
    (r : Registering (Register σ)) → host.Plain (host.runRegistering r)
  | .single register => .foreign register
  | .entries entries => (Plain.mapM host.runEntry_plain entries).bind fun _ => .ret _

theorem registerLibrary_plain (family : ExtensionFamily) :
    host.Plain (host.registerLibrary family) := by
  unfold registerLibrary
  refine .read fun w => ?_
  cases Library.registering? w.library family with
  | error e => exact .ret _
  | ok r => exact (host.runRegistering_plain r).bind fun _ => .ret _

theorem registerSource_plain (family : ExtensionFamily) :
    host.Plain (host.registerSource family) := by
  unfold registerSource
  cases host.env.source with
  | none => exact .ret _
  | provider p => exact .foreign _
  | library path =>
    refine (host.registerLibrary_plain family).bind fun r => ?_
    cases r <;> exact .ret _

theorem loadDynamic_plain (family : ExtensionFamily) : host.Plain (host.loadDynamic family) := by
  unfold loadDynamic
  cases host.env.sourceName? with
  | none => exact .ret _
  | some name =>
    refine (host.registerSource_plain family).bind fun ⟨list, r⟩ => ?_
    dsimp only
    split <;> exact (Plain.log _ _).bind fun _ => .ret _

theorem load_plain (family : ExtensionFamily) (static dynamic : Bool) :
    host.Plain (host.load family static dynamic) := by
  have linked := host.loadStatic_plain family
  have loaded := host.loadDynamic_plain family
  unfold load
  cases static <;> cases dynamic
  · exact .ret _
  · exact loaded.bind fun _ => .ret _
  · exact linked.bind fun _ => .ret _
  · exact linked.bind fun _ => loaded.bind fun _ => .ret _

theorem find_plain (q : Query) : host.Plain (host.find q) := by
  have collect : host.Plain (do
      let list ← host.load q.family true true
      emit (.count (.loaded q.type) list.length)
      (mislabelled q.type q.type.shape list).forM fun d => Act.log .warn d.mislabelledMessage
      let selection := q.select? list
      Act.log .debug (q.report selection)
      return selection) :=
    (host.load_plain q.family true true).bind fun _ => (Plain.report rfl).bind fun _ =>
      (Plain.forM _ fun _ _ => Plain.log _ _).bind fun _ => (Plain.log _ _).bind fun _ => .ret _
  unfold find
  refine .bind (.change fun _ => ⟨rfl, rfl, rfl, rfl, rfl, rfl, rfl, rfl⟩) fun _ => ?_
  refine .bind (.report rfl) fun _ => ?_
  split
  · exact (Plain.report rfl).bind fun _ => collect
  · exact collect

/-! ## The bootstrap service -/

theorem connect_plain : host.Plain host.connect := by
  unfold connect
  cases host.env.service with
  | none => exact Plain.log _ _
  | some s => exact .foreign s.connect

theorem disconnect_plain : host.Plain host.disconnect := by
  unfold disconnect
  cases host.env.service with
  | none => exact Plain.log _ _
  | some s => exact .foreign s.disconnect

/-! ## What is read and noted on the way -/

theorem parameterOf_plain (f : FacadeId) : host.Plain (parameterOf f) := .read fun _ => .ret _

theorem blame_plain (name : String) (e : Error) : host.Plain (blame name e) := by
  unfold blame
  split
  · exact .ret _
  · exact (Plain.log _ _).bind fun _ => .ret _

theorem reportFailure_plain (family : String) (threshold : UInt32) (b : Breaker) (e : Error) :
    host.Plain (reportFailure family threshold b e) := by
  unfold reportFailure
  split <;> exact Plain.log _ _

theorem lookUp_plain (id : Int32) : host.Plain (lookUp id) := by
  refine .read fun w => ?_
  split
  · exact .ret _
  · split <;> exact .ret _

theorem status_plain : (r : Except Error Unit) → host.Plain (status r)
  | .ok () => .ret _
  | .error _ => (Plain.log _ _).bind fun _ => .ret _

/-- The start of a dispatcher for callers in C only reports, if its announcement does. -/
theorem begin_plain {announcement : List Event} (h : ∀ e ∈ announcement, e.isReport = true) :
    host.Plain (begin announcement) := by
  refine .read fun w => ?_
  split
  · refine .bind (.change fun _ => ⟨rfl, rfl, rfl, rfl, rfl, rfl, rfl, rfl⟩) fun _ => ?_
    exact Plain.forM _ fun e he => .report (h e he)
  · exact .ret _

end Host

end ImageDispatch
