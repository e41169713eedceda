import ImageDispatch.Dispatch.Answer
import ImageDispatch.Proofs.Lifetime.Implementations

/-!
# Triples of requests

* `Tidy.employ`: an implementation that the running call holds works, and is let go.
* `Tidy.process`: a whole call of a façade.
* `Tidy.answer`: every request. By induction a dispatcher that answers to any depth is tidy
  (`nested_tidy`).
-/

namespace ImageDispatch

open Act World

variable {σ α : Type}

theorem Facade.accept_ok {facade facade' : Facade} {p : Parameter}
    (h : facade.accept p = .ok facade') : facade' = { facade with parameter := some p } := by
  unfold Facade.accept at h
  cases hc : Facade.check facade.kind p <;> rw [hc] at h <;> cases h
  rfl

/-- What a façade takes over has passed its check. -/
theorem Facade.check_of_accept {facade facade' : Facade} {p : Parameter}
    (h : facade.accept p = .ok facade') : Facade.check facade.kind p = .ok () := by
  unfold Facade.accept at h
  cases hc : Facade.check facade.kind p with
  | ok => rfl
  | error e => rw [hc] at h; cases h

/-- A parameter does not change what a façade holds. -/
theorem setParameter_triple (f : FacadeId) (p : Parameter) :
    Triple [] (Host.setParameter f p : Act σ Reply) fun _ => [] := by
  intro w ps hw hp
  unfold Host.setParameter
  rw [facade?_run]
  cases hf : w.facade? f with
  | none => exact ⟨hw, hp, .refl w⟩
  | some facade =>
    dsimp only
    split
    · cases h : facade.accept p with
      | error e => exact ⟨hw, hp, .refl w⟩
      | ok facade' =>
        rw [Facade.accept_ok h]
        refine ⟨?_, hp, .of_eq (fun _ => rfl) fun _ => rfl⟩
        refine hw.change (.inl rfl) ?_ ?_ ?_ <;> rintro _ hf' <;> cases hf.symm.trans hf'
        · exact fun op => hw.keyed hf op
        · exact fun o ho => hw.live_of_kept (refersTo_iff.2 (.inr (.inr ⟨f, facade, hf, ho⟩)))
        · exact fun o ho _ => ho
    · exact ⟨hw, hp, .refl w⟩

namespace Host.Tidy

variable {host : Host σ} (ht : host.Tidy)

include ht

/-! ## Work -/

theorem push (o : ObjectId) (object : AlgorithmObject) (p : Parameter) :
    Triple [.object o] (host.push o object p) fun _ => [.object o] := by
  refine (ht.invoke (by simp) (by simp) _ _).bind fun r => ?_
  cases r with
  | ok => exact .ret _
  | error e => exact ((host.blame_plain _ _).triple ht _).bind fun _ => .ret _

theorem work (o : ObjectId) (object : AlgorithmObject) (job : Job) :
    Triple [.object o] (host.work o object job) fun _ => [.object o] := by
  refine (ht.invoke (by simp) (by simp) _ _).bind fun ⟨r, written⟩ => ?_
  cases r with
  | ok => exact .ret _
  | error e => exact ((host.blame_plain _ _).triple ht _).bind fun _ => .ret _

/-- An implementation works for the running call, and is let go. -/
theorem employ (o : ObjectId) (p : Option Parameter) (job : Job) :
    Triple [.object o] (host.employ o p job) fun _ => [] := by
  intro w ps hw hp
  have hlive : w.stage? o = some .live :=
    hw.live_of_kept (refersTo_iff.2 (.inr (.inl (by simp [hp]))))
  obtain ⟨object, ho, -⟩ := Option.map_eq_some_iff.1 hlive
  have last (r : Except Error Unit × Job) : Triple [.object o] (do
      host.unpin (.object o)
      return r) fun _ => [] := (ht.unpin _).bind fun _ => .ret r
  have worked := (ht.work o object job).bind last
  unfold Host.employ
  rw [get_run, ho]
  cases p with
  | some p =>
    refine reaches_bind [.object o] (fun _ => []) (ht.push o object p hw hp) fun pushed => ?_
    cases pushed with
    | ok => exact worked
    | error e => exact last _
  | none => exact worked hw hp

/-! ## The calls by kind -/

theorem runConverter (f : FacadeId) (op : Operation) (key : ConversionKey) (job : Job) :
    Triple [] (host.runConverter f op key job) fun _ => [] := by
  refine (ht.resolve f .converter op _ _).bind fun r => ?_
  cases r with
  | error e => exact .ret _
  | ok o => exact ((host.parameterOf_plain f).triple ht _).bind fun _ => ht.employ o _ job

theorem runMetadata (f : FacadeId) (buffer : Surface) :
    Triple [] (host.runMetadata f buffer) fun _ => [] := by
  refine ((host.parameterOf_plain f).triple ht []).bind fun p => ?_
  refine (ht.resolve f .metadata .main _ _).bind fun r => ?_
  cases r with
  | error e => exact .ret _
  | ok o => exact ht.employ o p _

theorem runHdr (f : FacadeId) (buffer : Surface) :
    Triple [] (host.runHdr f buffer) fun _ => [] := by
  refine (ht.resolve f .hdr .main _ _).bind fun r => ?_
  cases r with
  | error e => exact .ret _
  | ok o => exact ((host.parameterOf_plain f).triple ht _).bind fun _ => ht.employ o _ _

theorem runContrast (f : FacadeId) (kind : ContrastKind) (job : Job) :
    Triple [] (host.runContrast f kind job) fun _ => [] := by
  refine (ht.resolveContrast f kind).bind fun r => ?_
  cases r with
  | error e => exact .ret _
  | ok o => exact ((host.parameterOf_plain f).triple ht _).bind fun _ => ht.employ o _ job

theorem attemptLevel (f : FacadeId) (p : DetailParameter) (level : DetailLevel) (job : Job) :
    Triple [] (host.attemptLevel f p level job) fun _ => [] := by
  refine (ht.resolve f .detail .main _ _).bind fun r => ?_
  cases r with
  | error e => exact .ret _
  | ok o => exact ht.employ o _ job

/-- Each attempt lets go of its implementation before the next one begins. -/
theorem descend (f : FacadeId) (p : DetailParameter) (target : DetailLevel) :
    (levels : List DetailLevel) → (first : Option Error) → (job : Job) →
      Triple [] (host.descend f p target levels first job) fun _ => []
  | [], first, job => .ret _
  | level :: rest, first, job => by
    rw [Host.descend]
    refine (ht.attemptLevel f p level job).bind fun ⟨r, job⟩ => ?_
    cases r with
    | ok =>
      dsimp only
      split
      · exact (log_triple [] _ _).bind fun _ => .ret _
      · exact .ret _
    | error e =>
      have next : Triple [] (do
          log .debug s!"{FacadeKind.detail.family} level {level.name} unavailable: {e.message}"
          host.descend f p target rest (first.or (if e.isNotFound then none else some e)) job)
          fun _ => [] := (log_triple [] _ _).bind fun _ => descend f p target rest _ job
      dsimp only
      split
      · exact (count_triple [] _).bind fun _ => next
      · exact next

theorem runDetail (f : FacadeId) (video : Bool) (input output : Surface) :
    Triple [] (host.runDetail f video input output) fun _ => [] := by
  refine ((host.parameterOf_plain f).triple ht []).bind fun p => ?_
  dsimp only
  split
  · exact ht.attemptLevel f _ .video _
  · split
    · refine (log_triple [] _ _).bind fun _ => ?_
      split <;> exact .ret _
    · exact ht.descend f _ _ _ none _

/-! ## Whole calls -/

theorem dispatch (f : FacadeId) (kind : FacadeKind) (task : Task) :
    Triple [] (host.dispatch f kind task) fun _ => [] := by
  cases task with
  | convert input output => exact ht.runConverter f .main _ _
  | compose sdr gainmap image => exact ht.runConverter f .compose _ _
  | decompose image sdr gainmap => exact ht.runConverter f .decompose _ _
  | generate buffer => exact ht.runMetadata f buffer
  | detail input output => exact ht.runDetail f _ input output
  | hdr buffer => exact ht.runHdr f buffer
  | contrast algorithm input output => exact ht.runContrast f algorithm _

theorem carryOut (f : FacadeId) (kind : FacadeKind) (task : Task) :
    Triple [] (host.carryOut f kind task) fun _ => [] := by
  unfold Host.carryOut
  dsimp only
  cases task.job.validate with
  | error e =>
    split
    · exact (emit_triple [] fun _ => rfl).bind fun _ => .ret _
    · exact .ret _
  | ok =>
    split
    · exact (emit_triple [] fun _ => rfl).bind fun _ => ht.dispatch f kind task
    · exact ht.dispatch f kind task

/-- A façade stays while it works. -/
theorem process (f : FacadeId) (task : Task) :
    Triple [] (host.process f task) fun _ => [] := by
  refine .read fun w => ?_
  split
  · exact .ret _
  · split
    · refine (pin_facade_triple f).bind fun _ => ?_
      refine ((ht.carryOut f _ task).keep [.facade f]).bind fun ⟨r, job⟩ => ?_
      exact (ht.unpin (.facade f)).bind fun _ => .ret _
    · exact .ret _

/-! ## Requests -/

theorem callDirectly (o : ObjectId) (token : Token) (call : DirectCall) :
    Triple [.object o] (host.callDirectly o token call) fun _ => [.object o] := by
  cases call <;> exact (ht.invoke (by simp) (by simp) _ _).bind fun _ => .ret _

/-- An algorithm that a client holds stays while it is called. -/
theorem direct (o : ObjectId) (call : DirectCall) :
    Triple [] (host.direct o call) fun _ => [] := by
  intro w ps hw hp
  unfold Host.direct
  rw [get_run]
  cases w.objects[o]? with
  | none => exact ⟨hw, hp, .refl w⟩
  | some object =>
    dsimp only
    split
    · rename_i hheld
      have hlive : w.stage? o = some .live :=
        hw.live_of_kept (refersTo_iff.2 (.inl (List.contains_iff_mem.1 hheld)))
      rw [bind_run]
      exact ((ht.callDirectly o object.token call).bind fun reply =>
        (ht.unpin (.object o)).bind fun _ => .ret reply).follow
        (pin_reaches ⟨hw, hp, .refl w⟩ hlive)
    · exact ⟨hw, hp, .refl w⟩

/-- Every request leaves the holds of running calls as they are. -/
theorem answer (r : Request) : Triple [] (host.answer r) fun _ => [] := by
  cases r with
  | facade kind =>
    exact (ht.makeFacade kind).bind fun f => (Host.handOver_triple _).bind fun _ => .ret _
  | lease => exact ht.takeLease.bind fun _ => .ret _
  | hold r => exact Host.hold_triple r
  | drop r => exact ht.drop r
  | set f p => exact setParameter_triple f p
  | process f task => exact ht.process f task
  | find q => exact ((host.find_plain q).triple ht []).bind fun _ => .ret _
  | create q =>
    refine (ht.create q).bind fun r => ?_
    cases r with
    | ok o => exact (Host.handOver_triple _).bind fun _ => .ret _
    | error e => exact .ret _
  | direct o call => exact ht.direct o call
  | load family static dynamic =>
    exact ((host.load_plain family static dynamic).triple ht []).bind fun _ => .ret _
  | increase => exact ht.increase.bind fun _ => (emit_triple [] fun _ => rfl).bind fun _ => .ret _
  | decrease => exact (emit_triple [] fun _ => rfl).bind fun _ => ht.decrease.bind fun _ => .ret _

end Host.Tidy

/-- A dispatcher that answers requests from within is tidy, to any depth. Its answers run on the
dispatcher of the next smaller depth. -/
theorem Host.nested_tidy (env : Environment σ) :
    (depth : Nat) → (Host.nested env depth).Tidy
  | 0 => fun _ => .ret _
  | depth + 1 => fun r => (nested_tidy env depth).answer r

end ImageDispatch
