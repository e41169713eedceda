import ImageDispatch.Proofs.Leases.Implementations
import ImageDispatch.Proofs.Lifetime.Facades

/-!
# Requests in the books

* `Host.Fair.process`: a façade is held while it works, so what it creates is its own business.
* `Host.Fair.answer`: every request. By induction a dispatcher that answers to any depth is fair
  (`nested_fair`).
-/

namespace ImageDispatch

open Act World

variable {σ α : Type} {env : Environment σ}

theorem setParameter_fair (ps : List Ref) (f : FacadeId) (p : Parameter) :
    Fair env ps (Host.setParameter f p : Act σ Reply) fun _ => ps := by
  refine .keep ⟨setParameter_triple f p, fun w _ _ _ => ?_⟩ ps
  unfold Host.setParameter
  rw [facade?_run]
  cases hfacade : w.facade? f with
  | none => exact .refl w
  | some facade =>
    dsimp only
    split
    · cases h : facade.accept p with
      | error e => exact .refl w
      | ok facade' =>
        rw [Facade.accept_ok h]
        refine handled_change (fun facade' hf => ?_) fun _ facade' hf o ho => .inl ?_ <;>
          cases hfacade.symm.trans hf
        · rfl
        · exact ho
    · exact .refl w

namespace Host.Fair

variable {host : Host σ} (hf : host.Fair)

include hf

/-! ## Work -/

theorem push (o : ObjectId) (object : AlgorithmObject) (p : Parameter) :
    Act.Fair host.env [.object o] (host.push o object p) fun _ => [.object o] := by
  refine (hf.invoke (by simp) (by simp) _ _).bind fun r => ?_
  cases r with
  | ok => exact .ret _
  | error e => exact (hf.plain (host.blame_plain _ _) _).bind fun _ => .ret _

theorem work (o : ObjectId) (object : AlgorithmObject) (job : Job) :
    Act.Fair host.env [.object o] (host.work o object job) fun _ => [.object o] := by
  refine (hf.invoke (by simp) (by simp) _ _).bind fun ⟨r, written⟩ => ?_
  cases r with
  | ok => exact .ret _
  | error e => exact (hf.plain (host.blame_plain _ _) _).bind fun _ => .ret _

/-- An implementation works for the running call, and is let go. -/
theorem employ (o : ObjectId) (p : Option Parameter) (job : Job) :
    Act.Fair host.env [.object o] (host.employ o p job) fun _ => [] := by
  refine ⟨hf.tidy.employ o p job, fun w ps hw hp => ?_⟩
  have hlive : w.stage? o = some .live :=
    hw.live_of_kept (refersTo_iff.2 (.inr (.inl (by simp [hp]))))
  obtain ⟨object, ho, -⟩ := Option.map_eq_some_iff.1 hlive
  have last (r : Except Error Unit × Job) : Act.Fair host.env [.object o] (do
      host.unpin (.object o)
      return r) fun _ => [] := Act.Fair.bind (hf.unpinObject o) fun _ => .ret r
  have worked := (hf.work o object job).bind last
  unfold Host.employ
  rw [get_run, ho]
  cases p with
  | some p =>
    refine Act.Fair.handled (show Act.Fair host.env [.object o] _ fun _ => [] from
      (hf.push o object p).bind fun pushed => ?_) hw hp
    cases pushed with
    | ok => exact worked
    | error e => exact last _
  | none => exact worked.handled hw hp

/-! ## The calls by kind -/

theorem runConverter (f : FacadeId) (op : Operation) (key : ConversionKey) (job : Job) :
    Act.Fair host.env [.facade f] (host.runConverter f op key job) fun _ => [.facade f] := by
  refine (hf.resolve f .converter op _ _).bind fun r => ?_
  cases r with
  | error e => exact .ret _
  | ok o =>
    exact (hf.plain (host.parameterOf_plain f) _).bind fun _ => (hf.employ o _ job).frame _

theorem runMetadata (f : FacadeId) (buffer : Surface) :
    Act.Fair host.env [.facade f] (host.runMetadata f buffer) fun _ => [.facade f] := by
  refine (hf.plain (host.parameterOf_plain f) _).bind fun p => ?_
  refine (hf.resolve f .metadata .main _ _).bind fun r => ?_
  cases r with
  | error e => exact .ret _
  | ok o => exact (hf.employ o p _).frame _

theorem runHdr (f : FacadeId) (buffer : Surface) :
    Act.Fair host.env [.facade f] (host.runHdr f buffer) fun _ => [.facade f] := by
  refine (hf.resolve f .hdr .main _ _).bind fun r => ?_
  cases r with
  | error e => exact .ret _
  | ok o => exact (hf.plain (host.parameterOf_plain f) _).bind fun _ => (hf.employ o _ _).frame _

theorem runContrast (f : FacadeId) (kind : ContrastKind) (job : Job) :
    Act.Fair host.env [.facade f] (host.runContrast f kind job) fun _ => [.facade f] := by
  refine (hf.resolveContrast f kind).bind fun r => ?_
  cases r with
  | error e => exact .ret _
  | ok o =>
    exact (hf.plain (host.parameterOf_plain f) _).bind fun _ => (hf.employ o _ job).frame _

theorem attemptLevel (f : FacadeId) (p : DetailParameter) (level : DetailLevel) (job : Job) :
    Act.Fair host.env [.facade f] (host.attemptLevel f p level job) fun _ => [.facade f] := by
  refine (hf.resolve f .detail .main _ _).bind fun r => ?_
  cases r with
  | error e => exact .ret _
  | ok o => exact (hf.employ o _ job).frame _

theorem descend (f : FacadeId) (p : DetailParameter) (target : DetailLevel) :
    (levels : List DetailLevel) → (first : Option Error) → (job : Job) →
      Act.Fair host.env [.facade f] (host.descend f p target levels first job) fun _ =>
        [.facade f]
  | [], first, job => .ret _
  | level :: rest, first, job => by
    rw [Host.descend]
    refine (hf.attemptLevel f p level job).bind fun x => ?_
    obtain ⟨r, job⟩ := x
    cases r with
    | ok =>
      dsimp only
      split
      · exact (log_fair _ _ _).bind fun _ => .ret _
      · exact .ret _
    | error e =>
      have next : Act.Fair host.env [.facade f] (do
          Act.log .debug
            s!"{FacadeKind.detail.family} level {level.name} unavailable: {e.message}"
          host.descend f p target rest (first.or (if e.isNotFound then none else some e)) job)
          fun _ => [.facade f] := (log_fair _ _ _).bind fun _ => descend f p target rest _ job
      dsimp only
      split
      · exact (count_fair _ _).bind fun _ => next
      · exact next

theorem runDetail (f : FacadeId) (video : Bool) (input output : Surface) :
    Act.Fair host.env [.facade f] (host.runDetail f video input output) fun _ =>
      [.facade f] := by
  refine (hf.plain (host.parameterOf_plain f) _).bind fun p => ?_
  dsimp only
  split
  · exact hf.attemptLevel f _ .video _
  · split
    · refine (log_fair _ _ _).bind fun _ => ?_
      split <;> exact .ret _
    · exact hf.descend f _ _ _ none _

/-! ## Whole calls -/

theorem dispatch (f : FacadeId) (kind : FacadeKind) (task : Task) :
    Act.Fair host.env [.facade f] (host.dispatch f kind task) fun _ => [.facade f] := by
  cases task with
  | convert input output => exact hf.runConverter f .main _ _
  | compose sdr gainmap image => exact hf.runConverter f .compose _ _
  | decompose image sdr gainmap => exact hf.runConverter f .decompose _ _
  | generate buffer => exact hf.runMetadata f buffer
  | detail input output => exact hf.runDetail f _ input output
  | hdr buffer => exact hf.runHdr f buffer
  | contrast algorithm input output => exact hf.runContrast f algorithm _

theorem carryOut (f : FacadeId) (kind : FacadeKind) (task : Task) :
    Act.Fair host.env [.facade f] (host.carryOut f kind task) fun _ => [.facade f] := by
  have noted {a : Act σ (Except Error Unit × Job)} {e : Event} (he : e.isReport = true)
      (ha : Act.Fair host.env [.facade f] a fun _ => [.facade f]) :
      Act.Fair host.env [.facade f] (do emit e; a) fun _ => [.facade f] :=
    (hf.plain (.report he) _).bind fun _ => ha
  unfold Host.carryOut
  dsimp only
  cases task.job.validate with
  | error e =>
    split
    · exact noted rfl (.ret _)
    · exact .ret _
  | ok =>
    split
    · exact noted rfl (hf.dispatch f kind task)
    · exact hf.dispatch f kind task

omit hf in
/-- A running call takes hold of a façade that is there. -/
theorem pin_facade_handled {w : World σ} {f : FacadeId}
    (hw : w.Balanced host.env → w.facade? f ≠ none) :
    w.Handled host.env (pin (.facade f) w).2 :=
  ⟨⟨fun _ => id, fun h _ => ⟨⟨h.books.pin_facade (hw h), h.connected⟩,
    .of_eq rfl rfl rfl rfl (Nat.le_refl _)⟩⟩, rfl⟩

/-- A façade that is there is held for an action. -/
theorem holding {a : Act σ α} {f : FacadeId} {w : World σ} (hw : w.Orderly)
    (hfacade : w.facade? f ≠ none)
    (ha : Act.Fair host.env [.facade f] a fun _ => [.facade f]) :
    w.Handled host.env ((do
      pin (.facade f)
      let r ← a
      host.unpin (.facade f)
      return r) w).2 := by
  have h₁ : w.Handled host.env (pin (.facade f) w).2 := pin_facade_handled fun _ => hfacade
  have hr : w.Reaches ([.facade f] ++ w.pins) (pin (.facade f) w).2 := pin_facade_triple f hw rfl
  exact hf.unpin_facade hw.pinsLive (ha.triple.follow hr) (ha.follow hr h₁)

theorem process (f : FacadeId) (task : Task) :
    Act.Fair host.env [] (host.process f task) fun _ => [] := by
  refine ⟨hf.tidy.process f task, fun w ps hw _ => ?_⟩
  unfold Host.process
  rw [facade?_run]
  cases hfacade : w.facade? f with
  | none => exact .refl w
  | some facade =>
    dsimp only
    split
    · exact hf.holding hw (by simp [hfacade]) (hf.carryOut f facade.kind task)
    · exact .refl w

/-! ## Holders outside -/

omit hf in
/-- Clients hold a thing that is no lease and is not created by a façade once more. -/
theorem hold_handled {v w : World σ} {r : Ref} (h : v.Handled host.env w) (hr : r ≠ .lease)
    (hf : v.Balanced host.env → ¬w.Disturbed → ∀ f, r = .facade f → w.facade? f ≠ none)
    (ho : v.Balanced host.env → ¬w.Disturbed → ∀ f o, r = .object o →
      .adopted f o ∉ w.journal) :
    v.Handled host.env { w with held := r :: w.held } := by
  refine ⟨⟨h.journal, fun hb hd => ?_⟩, h.table⟩
  obtain ⟨hbal, hs⟩ := h.balanced hb hd
  refine ⟨⟨hbal.books.rehold (fun f hm => ?_) (fun f o ha hm => ?_) ?_, hbal.connected⟩,
    hs.trans (.of_eq rfl rfl rfl rfl (Nat.le_refl _))⟩
  · rcases List.mem_cons.1 hm with hm | hm
    · exact hf hb hd f hm.symm
    · exact hbal.books.kept (refersTo_iff.2 (.inl hm))
  · rcases List.mem_cons.1 hm with hm | hm
    · exact ho hb hd f o hm.symm ha
    · exact hbal.books.unheld ha hm
  · rw [List.count_cons_of_ne hr]

omit hf in
theorem hold (r : Ref) : Act.Fair host.env [] (Host.hold r : Act σ Reply) fun _ => [] := by
  refine ⟨hold_triple r, fun w ps _ _ => ?_⟩
  show w.Handled _ ((if w.held.contains r ∧ r ≠ .lease then _ else _ : Act σ Reply) w).2
  by_cases h : w.held.contains r ∧ r ≠ .lease
  · rw [if_pos h]
    have hm : r ∈ w.held := List.contains_iff_mem.1 h.1
    exact hold_handled (.refl w) h.2
      (fun hb _ f he => hb.books.kept (refersTo_iff.2 (.inl (he ▸ hm))))
      fun hb _ f o he ha => hb.books.unheld ha (he ▸ hm)
  · rw [if_neg h]
    exact .refl w

omit hf in
/-- A client takes over a new object. -/
theorem handOver_object {v w : World σ} {o : ObjectId} (h : v.Handled host.env w)
    (hn : v.Balanced host.env → ¬w.Disturbed → v.Newborn w o) :
    v.Handled host.env (handOver (.object o) w).2 := by
  have hh := hold_handled h (r := .object o) (by simp) (by simp) fun hb hd f o' he => by
    cases he; exact (hn hb hd).adopted f
  refine ⟨⟨hh.journal, fun hb hd => ?_⟩, hh.table⟩
  obtain ⟨hbal, hs⟩ := hh.balanced hb hd
  exact ⟨⟨hbal.books.unpin_object o, hbal.connected⟩,
    hs.trans (.of_eq rfl rfl rfl rfl (Nat.le_refl _))⟩

omit hf in
/-- A client takes over the façade that the running call has held since `v`. -/
theorem handOver_facade {v w : World σ} {f : FacadeId} (hv : v.Orderly)
    (hr : v.Reaches (.facade f :: v.pins) w) (h : v.Handled host.env w) :
    v.Handled host.env (handOver (.facade f) w).2 := by
  have he : w.pins.erase (.facade f) = v.pins := by rw [hr.pins_eq]; simp
  have hh := hold_handled h (r := .facade f) (by simp)
    (fun hb hd g hg => by cases hg; exact there_of_pinned hr.pins_eq (h.balanced hb hd).1) (by simp)
  refine ⟨⟨hh.journal, fun hb hd => ?_⟩, hh.table⟩
  obtain ⟨hbal, hs⟩ := hh.balanced hb hd
  have hpins := hb.unpin_facade hv.pinsLive hbal hs
    (hr.evolves.trans (.of_eq (fun _ => rfl) fun _ => rfl)) hr.pins_eq
  rw [← he] at hpins
  exact ⟨hpins, hs.trans (.of_eq rfl rfl rfl rfl (Nat.le_refl _))⟩

omit hf in
/-- A client lets go of a thing that is no lease. -/
theorem unhold_handled (w : World σ) {r : Ref} (hr : r ≠ .lease) :
    w.Handled host.env { w with held := w.held.erase r } := by
  refine ⟨⟨fun _ => id, fun h _ => ⟨⟨h.books.rehold (fun f hm => ?_) (fun f o ha hm => ?_) ?_,
    h.connected⟩, .of_eq rfl rfl rfl rfl (Nat.le_refl _)⟩⟩, rfl⟩
  · exact h.books.kept (refersTo_iff.2 (.inl (List.mem_of_mem_erase hm)))
  · exact h.books.unheld ha (List.mem_of_mem_erase hm)
  · rw [List.count_erase_of_ne hr.symm]

/-- A client gives its lease back. -/
theorem dropLease_handled {w : World σ} (hw : w.Orderly) (hm : .lease ∈ w.held) :
    w.Handled host.env (host.giveBack { w with held := w.held.erase .lease }).2 := by
  have hw₁ : World.Orderly { w with held := w.held.erase .lease } :=
    (hw.unhold .lease).settled (by simp) (by simp)
  obtain ⟨hj, ht⟩ := hf.giveBack_grows hw₁
  refine ⟨⟨hj, fun hb hd => ?_⟩, ht⟩
  have hpos : 0 < w.held.count .lease := List.count_pos_iff.2 hm
  -- The user is there until the lease has been given back.
  have hb₁ : World.Books host.env 1 { w with held := w.held.erase .lease } := by
    refine hb.books.rehold (fun f hm => ?_) (fun f o ha hm => ?_) ?_
    · exact hb.books.kept (refersTo_iff.2 (.inl (List.mem_of_mem_erase hm)))
    · exact hb.books.unheld ha (List.mem_of_mem_erase hm)
    · rw [List.count_erase_self]
      omega
  have hr := hf.giveBack_books hw₁ hb₁ hd
  have hs : w.Steady { w with held := w.held.erase .lease } :=
    .of_eq rfl rfl rfl rfl (Nat.le_refl _)
  exact ⟨hr.balanced hb.connected, hs.trans hr.steady⟩

/-- What has lost its last holder goes, when a client has let go of it. -/
theorem drop (r : Ref) : Act.Fair host.env [] (host.drop r) fun _ => [] := by
  refine ⟨hf.tidy.drop r, fun w ps hw hp => ?_⟩
  unfold Host.drop
  rw [get_run]
  split
  · rename_i hm
    have hm : r ∈ w.held := List.contains_iff_mem.1 hm
    cases r with
    | object o =>
      refine hf.settleObject (unhold_handled w (by simp)) (hw.unhold _) fun hb _ f ha => ?_
      exact absurd hm (hb.books.unheld ha)
    | facade f => exact (unhold_handled w (by simp)).trans (hf.settleFacade (hw.unhold _))
    | lease => exact hf.dropLease_handled hw hm
  · exact .refl w

/-! ## Calls past façades -/

theorem callDirectly (o : ObjectId) (token : Token) (call : DirectCall) :
    Act.Fair host.env [.object o] (host.callDirectly o token call) fun _ => [.object o] := by
  cases call <;> exact (hf.invoke (by simp) (by simp) _ _).bind fun _ => .ret _

/-- An algorithm that a client holds was not created by a façade. -/
theorem direct (o : ObjectId) (call : DirectCall) :
    Act.Fair host.env [] (host.direct o call) fun _ => [] := by
  refine ⟨hf.tidy.direct o call, fun w ps hw hp => ?_⟩
  unfold Host.direct
  rw [get_run]
  cases w.objects[o]? with
  | none => exact .refl w
  | some object =>
    dsimp only
    split
    · rename_i hheld
      have hm : .object o ∈ w.held := List.contains_iff_mem.1 hheld
      have h₁ : w.Handled host.env (pin (.object o) w).2 :=
        Handled.pin_object (.refl w) fun hb _ f ha => absurd hm (hb.books.unheld ha)
      have hr : w.Reaches ([.object o] ++ w.pins) (pin (.object o) w).2 :=
        pin_reaches ⟨hw, rfl, .refl w⟩ (hw.live_of_kept (refersTo_iff.2 (.inl hm)))
      exact ((hf.callDirectly o object.token call).bind fun reply =>
        (hf.unpinObject o).bind fun _ => .ret reply).follow hr h₁
    · exact .refl w

/-! ## Users without a lease -/

/-- A client counts a user, and notes it. -/
theorem countUser_handled {w : World σ} (hw : w.Orderly) :
    w.Handled host.env ((host.increase w).2.note (.tallied true)) := by
  obtain ⟨hj, ht⟩ := hf.increase_grows hw
  refine ⟨⟨fun _ he => .tail _ (hj he), fun hb hd => ?_⟩, ht⟩
  have hr := hf.increase_books hw hb.books (Accounted.not_disturbed (fun _ => .tail _) hd)
  have hn : (host.increase w).2.Calm ((host.increase w).2.note (.tallied true)) :=
    .note (by simp) (by simp)
  have hr' : w.Recounted host.env 0 ((host.increase w).2.note (.tallied true)) :=
    ⟨hr.books.tally, hr.calm.trans hn, hr.idle, hr.counting, hr.size,
      fun hm => hr.connected ((List.mem_cons.1 hm).resolve_left (by simp))⟩
  exact ⟨hr'.balanced hb.connected, hr'.steady⟩

/-- A client that counts a user less on its own upsets the books. -/
theorem discountUser_handled {w : World σ} (hw : w.Orderly) :
    w.Handled host.env (host.decrease (w.note (.tallied false))).2 := by
  have hw₁ : (w.note (.tallied false)).Orderly := hw.same rfl rfl rfl rfl rfl
  obtain ⟨hj, ht⟩ := hf.decrease_grows hw₁
  exact ⟨accounted_disturbed (fun _ he => hj (.tail _ he)) (.inr (hj List.mem_cons_self)), ht⟩

/-! ## Every request -/

theorem answer (r : Request) : Act.Fair host.env [] (host.answer r) fun _ => [] := by
  cases r with
  | facade kind =>
    refine ⟨hf.tidy.answer _, fun w ps hw hp => ?_⟩
    exact handOver_facade hw (hf.tidy.makeFacade kind hw rfl) ((hf.makeFacade kind).handled hw rfl)
  | lease => exact hf.takeLease.bind fun _ => .ret _
  | hold r => exact hold r
  | drop r => exact hf.drop r
  | set f p => exact setParameter_fair [] f p
  | process f task => exact hf.process f task
  | find q => exact (hf.plain (host.find_plain q) _).bind fun _ => .ret _
  | create q =>
    refine ⟨hf.tidy.answer _, fun w ps hw hp => ?_⟩
    obtain ⟨h, hn⟩ := hf.create_newborn q hw
    show w.Handled _ ((host.create q >>= fun _ => _ : Act σ Reply) w).2
    rw [bind_run]
    generalize host.create q w = x at h hn ⊢
    obtain ⟨r, u⟩ := x
    cases r with
    | ok o => exact handOver_object h fun hb hd => hn hb hd o rfl
    | error e => exact h
  | direct o call => exact hf.direct o call
  | load family static dynamic =>
    exact (hf.plain (host.load_plain family static dynamic) _).bind fun _ => .ret _
  | increase => exact ⟨hf.tidy.answer _, fun _ _ hw _ => hf.countUser_handled hw⟩
  | decrease => exact ⟨hf.tidy.answer _, fun _ _ hw _ => hf.discountUser_handled hw⟩

end Host.Fair

/-- A dispatcher that answers requests from within is fair, to any depth. Its answers run on the
dispatcher of the next smaller depth. -/
theorem Host.nested_fair (env : Environment σ) : (depth : Nat) → (Host.nested env depth).Fair
  | 0 => fun _ => .ret _
  | depth + 1 => fun r => by
    have h := (nested_fair env depth).answer r
    rwa [nested_env] at h

end ImageDispatch
