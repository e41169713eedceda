import ImageDispatch.Proofs.Leases.Requests
import ImageDispatch.Proofs.Lifetime.Entry

/-!
# Entry points in the books

The instance table keeps façades, and is not in the books otherwise.

* `Act.Accounts`: an action between calls is accounted for, and may change the instance table.
* `Host.Fair.enroll_accounted`: the table takes a façade over, or it goes away.
* `Host.Fair.retire`, and the entry points for callers in C.
-/

namespace ImageDispatch

open Act World

variable {σ α β : Type}

namespace World

variable {env : Environment σ} {w : World σ}

/-- The table changes, and keeps façades that are there. -/
theorem Balanced.retable (h : w.Balanced env) {table : InstanceTable FacadeId}
    (ht : ∀ f ∈ table.handles, w.facade? f ≠ none) :
    { w with table : World σ }.Balanced env :=
  ⟨h.books.retable ht, h.connected⟩

theorem Balanced.stored (h : w.Balanced env) {f : FacadeId} (hf : f ∈ w.table.handles) :
    w.facade? f ≠ none :=
  h.books.kept (refersTo_iff.2 (.inr (.inr hf)))

end World

/-- The façade behind an id, with its kind. -/
def World.behind? (w : World σ) (id : Int32) : Option (FacadeId × FacadeKind) :=
  (w.table.get? id).bind fun f => (w.facade? f).map fun facade => (f, facade.kind)

theorem World.behind?_eq_some {w : World σ} {id : Int32} {f : FacadeId} {kind : FacadeKind} :
    w.behind? id = some (f, kind) ↔
      w.table.get? id = some f ∧ ∃ facade, w.facade? f = some facade ∧ facade.kind = kind := by
  unfold World.behind?
  rw [Option.bind_eq_some_iff]
  constructor
  · rintro ⟨g, hg, h⟩
    obtain ⟨facade, hfacade, he⟩ := Option.map_eq_some_iff.1 h
    cases he
    exact ⟨hg, facade, hfacade, rfl⟩
  · rintro ⟨hg, facade, hfacade, rfl⟩
    exact ⟨f, hg, by rw [hfacade]; rfl⟩

theorem Host.lookUp_run (id : Int32) (w : World σ) :
    Host.lookUp id w = ((w.behind? id).elim (.error (.invalidInstance id)) .ok, w) := by
  unfold Host.lookUp World.behind?
  rw [get_run]
  cases w.table.get? id with
  | none => rfl
  | some f =>
    dsimp only [Option.bind_some]
    cases w.facade? f <;> rfl

namespace Act

/-- An action between calls is accounted for (module doc). -/
structure Accounts (env : Environment σ) (a : Act σ α) : Prop where
  triple : Triple [] a fun _ => []
  accounted : ∀ ⦃w : World σ⦄, w.Orderly → w.Accounted env (a w).2

variable {env : Environment σ} {a : Act σ α}

theorem Fair.accounts (h : Fair env [] a fun _ => []) : Accounts env a :=
  ⟨h.triple, fun _ hw => (h.handled hw rfl).toAccounted⟩

namespace Accounts

theorem ret (x : α) : Accounts env (pure x : Act σ α) := (Fair.ret x).accounts

theorem bind {f : α → Act σ β} (ha : Accounts env a) (hf : ∀ x, Accounts env (f x)) :
    Accounts env (a >>= f) :=
  ⟨ha.triple.bind fun x => (hf x).triple, fun _ hw =>
    (ha.accounted hw).trans ((hf _).accounted (ha.triple hw rfl).orderly)⟩

theorem map {f : α → β} (h : Accounts env a) : Accounts env (f <$> a) :=
  ⟨h.triple.map, h.accounted⟩

theorem forM {γ : Type} {f : γ → Act σ Unit} (hf : ∀ x, Accounts env (f x)) :
    (l : List γ) → Accounts env (l.forM f)
  | [] => ret ()
  | x :: rest => (hf x).bind fun _ => forM hf rest

theorem mapM {γ : Type} {f : γ → Act σ β} (hf : ∀ x, Accounts env (f x)) :
    (l : List γ) → Accounts env (l.mapM f)
  | [] => by rw [List.mapM_nil]; exact ret _
  | x :: rest => by
    rw [List.mapM_cons]
    exact (hf x).bind fun _ => (mapM hf rest).bind fun _ => ret _

end Accounts

end Act

namespace Host.Fair

variable {host : Host σ} (hf : host.Fair)

include hf

/-! ## The table -/

/-- If the table is full the façade that the running call has held since `v` goes away. -/
theorem enroll_full {v w : World σ} {f : FacadeId} (hv : v.Orderly)
    (hr : v.Reaches (.facade f :: v.pins) w) (h : v.Handled host.env w) (family : String)
    {e : Error} (hi : w.table.insert f = .error e) :
    (host.enroll f family w).1 = .error e ∧ v.Handled host.env (host.enroll f family w).2 := by
  have hl := h.trans (handled_note w
    (e := .log .error s!"instance table full ({slotCount} slots)") rfl)
  have hrl := log_triple (σ := σ) [.facade f] .error s!"instance table full ({slotCount} slots)"
  unfold Host.enroll
  rw [get_run, hi]
  exact ⟨rfl, hf.unpin_facade hv.pinsLive (hrl.follow hr) hl⟩

omit hf in
theorem enroll_room {w : World σ} {f : FacadeId} (family : String) {id : Int32}
    {table : InstanceTable FacadeId} (hi : w.table.insert f = .ok (id, table)) :
    host.enroll f family w = (.ok id, { w with table, pins := w.pins.erase (.facade f) : World σ }
      |>.note (.gauge .slotsUsed table.used)
      |>.note (.log .debug s!"created {family} instance {InstanceId.repr id}")) := by
  unfold Host.enroll
  rw [get_run, hi]
  rfl

/-- The table takes over the façade that the running call has held since `v`. -/
theorem enroll_accounted {v w : World σ} {f : FacadeId} (hv : v.Orderly)
    (hr : v.Reaches (.facade f :: v.pins) w) (h : v.Handled host.env w) (family : String) :
    v.Accounted host.env (host.enroll f family w).2 := by
  cases hi : w.table.insert f with
  | error e => exact (hf.enroll_full hv hr h family hi).2.toAccounted
  | ok x =>
    obtain ⟨id, table⟩ := x
    rw [enroll_room family hi]
    have he : w.pins.erase (.facade f) = v.pins := by rw [hr.pins_eq]; simp
    have h₁ : v.Accounted host.env { w with table, pins := w.pins.erase (.facade f) } := by
      rw [he]
      refine ⟨h.journal, fun hb hd => ?_⟩
      obtain ⟨hbal, hs⟩ := h.balanced hb hd
      have hout := hb.unpin_facade hv.pinsLive hbal hs hr.evolves hr.pins_eq
      have hthere := there_of_pinned hr.pins_eq hbal
      refine ⟨hout.retable fun g hg => ?_, hs.trans (.of_eq rfl rfl rfl rfl (Nat.le_refl _))⟩
      rcases (InstanceTable.mem_handles_insert hi g).1 hg with rfl | hg
      · exact hthere
      · exact hbal.stored hg
    exact h₁.trans ((handled_note _ rfl).trans (handled_note _ rfl)).toAccounted

/-- A running call lets go of the façade that it has taken out of the table. -/
theorem takeOut_handled {w : World σ} (hw : w.Orderly) {id : Int32} {f : FacadeId}
    {table : InstanceTable FacadeId} (hr : w.table.remove id = .ok (f, table))
    (hthere : w.facade? f ≠ none) (severity : Severity) (text : String) :
    World.Handled host.env { w with table } (host.unpin (.facade f)
      ({ w with table, pins := .facade f :: w.pins : World σ }.note (.gauge .slotsUsed table.used)
        |>.note (.log severity text))).2 := by
  obtain ⟨-, hsub, hold⟩ := InstanceTable.mem_handles_remove hr
  have h₂ : World.Handled host.env { w with table }
      { w with table, pins := .facade f :: w.pins } := pin_facade_handled fun _ => hthere
  have hr₂ : World.Reaches { w with table } (.facade f :: w.pins)
      { w with table, pins := .facade f :: w.pins } :=
    ⟨hw.retire hold, rfl, .of_eq (fun _ => rfl) fun _ => rfl⟩
  have told : Act.Fair host.env [.facade f] (do
      emit (.gauge .slotsUsed table.used)
      log severity text) fun _ => [.facade f] :=
    (emit_fair _ (fun _ => rfl) rfl).bind fun _ => log_fair _ _ _
  have hlive : World.PinsLive { w with table } := fun hm => hw.pinsLive hm
  exact hf.unpin_facade hlive (told.triple.follow hr₂) (told.follow hr₂ h₂)

/-- What becomes of a façade that is taken out of the table: the answer, and the world. -/
theorem retire_outcome (id : Int32) (family : String) {w : World σ} (hw : w.Orderly) :
    ((∀ f kind, w.behind? id = some (f, kind) → kind.family ≠ family) →
      (host.retire id family w).1 = .error (.invalidInstance id) ∧
        w.Handled host.env (host.retire id family w).2) ∧
    ∀ f kind, w.behind? id = some (f, kind) → kind.family = family →
      ∃ table, w.table.remove id = .ok (f, table) ∧ (host.retire id family w).1 = .ok () ∧
        World.Handled host.env { w with table } (host.retire id family w).2 := by
  unfold Host.retire
  rw [bind_run, Host.lookUp_run]
  cases hb : w.behind? id with
  | none => exact ⟨fun _ => ⟨rfl, .refl w⟩, fun f kind h => by cases h⟩
  | some x =>
    obtain ⟨f, kind⟩ := x
    obtain ⟨hg, facade, hfacade, -⟩ := behind?_eq_some.1 hb
    dsimp only [Option.elim_some]
    by_cases hk : kind.family = family
    · refine ⟨fun h => absurd hk (h f kind rfl), fun g kind' h _ => ?_⟩
      cases h
      rw [if_neg (not_not.2 hk), get_run]
      cases hr : w.table.remove id with
      | error e => cases (InstanceTable.remove_error hr).2.symm.trans hg
      | ok x =>
        obtain ⟨f', table⟩ := x
        cases (InstanceTable.get?_of_remove hr).symm.trans hg
        exact ⟨table, rfl, rfl, hf.takeOut_handled hw hr (by simp [hfacade]) _ _⟩
    · rw [if_pos hk]
      exact ⟨fun _ => ⟨rfl, handled_note w rfl⟩,
        fun g kind' h hk' => by cases h; exact absurd hk' hk⟩

theorem retire (id : Int32) (family : String) : Accounts host.env (host.retire id family) := by
  refine ⟨hf.tidy.retire id family, fun w hw => ?_⟩
  obtain ⟨hrefused, htaken⟩ := hf.retire_outcome id family hw
  by_cases h : ∀ f kind, w.behind? id = some (f, kind) → kind.family ≠ family
  · exact (hrefused h).2.toAccounted
  · push Not at h
    obtain ⟨f, kind, hb, hk⟩ := h
    obtain ⟨table, hr, -, h⟩ := htaken f kind hb hk
    -- Nothing is lost from the books: the façade is let go only after that.
    have h₁ : w.Accounted host.env { w with table } :=
      ⟨fun _ he => he, fun hb _ => ⟨hb.retable fun x hx =>
        hb.stored ((InstanceTable.mem_handles_remove hr).2.1 x hx),
        .of_eq rfl rfl rfl rfl (Nat.le_refl _)⟩⟩
    exact h₁.trans h.toAccounted

/-! ## Entry points -/

theorem createOutcome (family : InstanceFamily) (level : Int32) :
    Accounts host.env (host.createOutcome family level) := by
  refine ⟨hf.tidy.createOutcome family level, fun w hw => ?_⟩
  unfold Host.createOutcome
  cases kindFor family level with
  | error e => exact .refl w
  | ok x =>
    obtain ⟨kind, p⟩ := x
    have hm := hf.makeFacade kind
    cases p with
    | none => exact hf.enroll_accounted hw (hm.triple hw rfl) (hm.handled hw rfl) _
    | some p =>
      have set : ∀ f, Act.Fair host.env [.facade f] (discard (Host.setParameter f p) : Act σ Unit)
          fun _ => [.facade f] := fun f => ⟨((setParameter_triple f p).keep [.facade f]).map,
        (setParameter_fair [.facade f] f p).handled⟩
      have hr : w.Reaches ([.facade (host.makeFacade kind w).1] ++ w.pins)
        (host.makeFacade kind w).2 := hm.triple hw rfl
      exact hf.enroll_accounted hw ((set _).triple.follow hr)
        ((set _).follow hr (hm.handled hw rfl)) _

/-- Callers in C start once. -/
theorem begin (settings : Option (String → Option String)) :
    Accounts host.env (Host.begin (opening settings)) :=
  (hf.plain (begin_opening_plain host settings) []).accounts

theorem status (r : Except Error Unit) : Accounts host.env (Host.status r : Act σ Status) :=
  (hf.plain (host.status_plain r) []).accounts

theorem createInstance (settings : Option (String → Option String)) (family : InstanceFamily)
    (level : Int32) (pointer : Option Int32) :
    Accounts host.env (host.createInstance (opening settings) family level pointer) := by
  unfold Host.createInstance
  cases pointer with
  | none => exact .ret _
  | some _ =>
    refine (hf.begin settings).bind fun _ => (hf.createOutcome family level).bind fun r => ?_
    cases r <;> exact (hf.status _).bind fun _ => .ret _

theorem destroyInstance (settings : Option (String → Option String)) (family : InstanceFamily)
    (pointer : Option Int32) :
    Accounts host.env (host.destroyInstance (opening settings) family pointer) := by
  unfold Host.destroyInstance
  cases pointer with
  | none => exact .ret _
  | some id =>
    exact (hf.begin settings).bind fun _ => (hf.retire id _).bind fun r =>
      (hf.status r).bind fun _ => .ret _

theorem processSurfaces (f : FacadeId) (family : InstanceFamily)
    (input output : Option ImageDescriptor) :
    Act.Fair host.env [] (host.processSurfaces f family input output) fun _ => [] := by
  unfold Host.processSurfaces
  split
  · exact .ret _
  · refine (hf.process f _).bind fun r => ?_
    split
    · split
      · split <;> exact .ret _
      · exact .ret _
    · exact .ret _
    · exact .ret _

theorem processOutcome (family : InstanceFamily) (id : Int32)
    (input output : Option ImageDescriptor) :
    Act.Fair host.env [] (host.processOutcome family id input output) fun _ => [] := by
  refine ⟨hf.tidy.processOutcome family id input output, fun w ps hw _ => ?_⟩
  unfold Host.processOutcome
  rw [bind_run, Host.lookUp_run]
  cases hb : w.behind? id with
  | none => exact .refl w
  | some x =>
    obtain ⟨f, kind⟩ := x
    obtain ⟨-, facade, hfacade, -⟩ := behind?_eq_some.1 hb
    dsimp only [Option.elim_some]
    split
    · exact .refl w
    · exact hf.holding hw (by simp [hfacade])
        ((hf.processSurfaces f family input output).keep [.facade f])

theorem processImage (settings : Option (String → Option String)) (family : InstanceFamily)
    (id : Int32) (input output : Option ImageDescriptor) :
    Act.Fair host.env [] (host.processImage (opening settings) family id input output)
      fun _ => [] :=
  (hf.plain (begin_opening_plain host settings) []).bind fun _ =>
    (hf.processOutcome family id input output).bind fun _ =>
      (hf.plain (host.status_plain _) []).bind fun _ => .ret _

end Host.Fair

end ImageDispatch
