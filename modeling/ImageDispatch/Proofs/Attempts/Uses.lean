import ImageDispatch.Proofs.Attempts.Provenance
import ImageDispatch.Proofs.Attempts.Seclusion

/-!
# How façades use algorithms

A façade pushes its parameter into whatever implementation serves a call, just before that works.

* `Pushed`: a stretch of the journal in which that is so. `Host.Secluded.employ_uses`: one use of an
  algorithm.
* `World.Equipped`: a client holds a façade, which has accepted a parameter or none. That is so
  while the dispatcher works (`Equipped.moves`).
* `Host.Serves`: the attempts of a call obtain the object. No other one is used, whatever the
  attempts come to (`Host.Secluded.process_uses`).
-/

namespace ImageDispatch

open Act World

variable {σ : Type}

/-! ## Uses in the journal -/

/-- A stretch of the journal, with the last event first. The algorithms that are used are those that
`who` names, each with what there is to be pushed into it. If there is something, then it was pushed
with success just before the algorithm works. -/
inductive Pushed (who : ObjectId → Option Parameter → Prop) : List Event → Prop
  | nil : Pushed who []
  | idle {e : Event} {new : List Event} (he : e.isUse = false) (h : Pushed who new) :
    Pushed who (e :: new)
  | push {o : ObjectId} {p : Parameter} {new : List Event} (hw : who o (some p))
    (h : Pushed who new) : Pushed who (.began o (.set p) :: new)
  | work {o : ObjectId} {p : Option Parameter} {new : List Event} (hw : who o p)
    (hp : ∀ p', p = some p' → [.ended o (.set p') true, .began o (.set p')] <+: new)
    (h : Pushed who new) : Pushed who (.began o .work :: new)

namespace Pushed

variable {who who' : ObjectId → Option Parameter → Prop} {new new' : List Event}

theorem mono (h : Pushed who new) (hw : ∀ {o p}, who o p → who' o p) : Pushed who' new := by
  induction h with
  | nil => exact .nil
  | idle he _ ih => exact .idle he ih
  | push hp _ ih => exact .push (hw hp) ih
  | work hp hpushed _ ih => exact .work (hw hp) hpushed ih

theorem append (h' : Pushed who new') (h : Pushed who new) : Pushed who (new' ++ new) := by
  induction h' with
  | nil => exact h
  | idle he _ ih => exact .idle he ih
  | push hp _ ih => exact .push hp ih
  | work hp hpushed _ ih =>
    exact .work hp (fun p' he => (hpushed p' he).trans (List.prefix_append _ _)) ih

theorem of_unused (h : ∀ e ∈ new, e.isUse = false) : Pushed who new := by
  induction new with
  | nil => exact .nil
  | cons e rest ih =>
    exact .idle (h e List.mem_cons_self) (ih fun e' he => h e' (List.mem_cons_of_mem _ he))

/-- Before an algorithm works, what there is to be pushed was pushed into it. -/
theorem worked (h : Pushed who new) {o : ObjectId} {later earlier : List Event}
    (he : new = later ++ .began o .work :: earlier) : ∃ p, who o p ∧
      ∀ p', p = some p' → [.ended o (.set p') true, .began o (.set p')] <+: earlier := by
  induction h generalizing later with
  | nil => simp at he
  | idle hidle _ ih =>
    rcases List.cons_eq_append_iff.1 he with ⟨-, hcons⟩ | ⟨later', rfl, hrest⟩
    · cases hcons; cases hidle
    · exact ih hrest
  | push _ _ ih =>
    rcases List.cons_eq_append_iff.1 he with ⟨-, hcons⟩ | ⟨later', rfl, hrest⟩
    · cases hcons
    · exact ih hrest
  | work hw hp _ ih =>
    rcases List.cons_eq_append_iff.1 he with ⟨-, hcons⟩ | ⟨later', rfl, hrest⟩
    · cases hcons; exact ⟨_, hw, hp⟩
    · exact ih hrest

/-- Nothing else is pushed. -/
theorem of_mem_set (h : Pushed who new) {o : ObjectId} {p : Parameter}
    (hm : .began o (.set p) ∈ new) : who o (some p) := by
  induction h with
  | nil => cases hm
  | idle hidle _ ih =>
    rcases List.mem_cons.1 hm with rfl | hm
    · cases hidle
    · exact ih hm
  | push hw _ ih =>
    rcases List.mem_cons.1 hm with he | hm
    · cases he; exact hw
    · exact ih hm
  | work _ _ _ ih =>
    rcases List.mem_cons.1 hm with he | hm
    · cases he
    · exact ih hm

end Pushed

namespace World

/-- What is noted on the way from one world to the other (`Pushed`). -/
def Uses (who : ObjectId → Option Parameter → Prop) (w w' : World σ) : Prop :=
  ∃ new, w'.journal = new ++ w.journal ∧ Pushed who new

variable {who who' : ObjectId → Option Parameter → Prop} {w w₁ w₂ : World σ}

theorem Unused.uses (h : w.Unused w₁) : w.Uses who w₁ :=
  have ⟨new, hj, hnew⟩ := h
  ⟨new, hj, .of_unused hnew⟩

namespace Uses

theorem trans (h₁ : w.Uses who w₁) (h₂ : w₁.Uses who w₂) : w.Uses who w₂ := by
  obtain ⟨new₁, hj₁, hnew₁⟩ := h₁
  obtain ⟨new₂, hj₂, hnew₂⟩ := h₂
  exact ⟨new₂ ++ new₁, by rw [hj₂, hj₁, List.append_assoc], hnew₂.append hnew₁⟩

theorem mono (h : w.Uses who w₁) (hw : ∀ {o p}, who o p → who' o p) : w.Uses who' w₁ :=
  have ⟨new, hj, hnew⟩ := h
  ⟨new, hj, hnew.mono hw⟩

end Uses

end World

/-! ## One use -/

namespace Host.Secluded

variable {host : Host σ} (hs : host.Secluded) {w : World σ}

include hs

/-- A push is noted, and then at most a report of its failure. -/
theorem push_run (o : ObjectId) (object : AlgorithmObject) (p : Parameter) (w : World σ) :
    ∃ ok, ((w.note (.began o (.set p))).note (.ended o (.set p) ok)).Unused
        (host.push o object p w).2 ∧
      ((host.push o object p w).1 = .ok () → (host.push o object p w).2.journal =
        .ended o (.set p) true :: .began o (.set p) :: w.journal) := by
  obtain ⟨memory, x, hrun⟩ := hs.invoke_run o (.set p) Except.isOk
    (host.env.code.set object.token p) w
  unfold push
  rw [bind_of_run hrun]
  cases x with
  | ok => exact ⟨true, .of_eq rfl, fun _ => rfl⟩
  | error e =>
    have hblame := (hs.plain (host.blame_plain object.info.name e)).unused { w with
      memory
      journal := .ended o (.set p) false :: .began o (.set p) :: w.journal }
    exact ⟨false, hblame, nofun⟩

theorem work_run (o : ObjectId) (object : AlgorithmObject) (job : Job) (w : World σ) :
    ∃ ok, ((w.note (.began o .work)).note (.ended o .work ok)).Unused
      (host.work o object job w).2 := by
  obtain ⟨memory, ⟨r, written⟩, hrun⟩ := hs.invoke_run o .work (fun answer => answer.1.isOk)
    (host.env.code.work object.token job) w
  unfold work
  rw [bind_of_run hrun]
  cases r with
  | ok => exact ⟨true, .of_eq rfl⟩
  | error e =>
    have hblame := (hs.plain (host.blame_plain object.info.name e)).unused { w with
      memory
      journal := .ended o .work false :: .began o .work :: w.journal }
    exact ⟨false, hblame⟩

/-- An algorithm works after the parameter was pushed into it, if there is one. -/
theorem employ_uses (o : ObjectId) (p : Option Parameter) (job : Job) (w : World σ) :
    w.Uses (fun o' p' => o' = o ∧ p' = p) (host.employ o p job w).2 := by
  have letGo (v : World σ) (r : Except Error Unit × Job) :
      v.Unused ((do host.unpin (.object o); return r : Act σ _) v).2 :=
    (hs.unpin_object o).unused v
  unfold employ
  rw [get_run]
  cases w.objects[o]? with
  | none => exact (Unused.refl w).uses
  | some object =>
    cases p with
    | none =>
      obtain ⟨ok, hwork⟩ := hs.work_run o object job w
      have hused : w.Uses (fun o' p' => o' = o ∧ p' = none)
          ((w.note (.began o .work)).note (.ended o .work ok)) :=
        ⟨[.ended o .work ok, .began o .work], rfl,
          .idle rfl (.work ⟨rfl, rfl⟩ nofun .nil)⟩
      exact hused.trans (hwork.trans (letGo _ _)).uses
    | some p =>
      obtain ⟨ok, hpush, hset⟩ := hs.push_run o object p w
      dsimp only
      rw [bind_run]
      cases hr : host.push o object p w with
      | mk r w₁ =>
        rw [hr] at hpush hset
        cases r with
        | error e =>
          have hused : w.Uses (fun o' p' => o' = o ∧ p' = some p)
              ((w.note (.began o (.set p))).note (.ended o (.set p) ok)) :=
            ⟨[.ended o (.set p) ok, .began o (.set p)], rfl, .idle rfl (.push ⟨rfl, rfl⟩ .nil)⟩
          exact hused.trans (hpush.trans (letGo _ _)).uses
        | ok =>
          obtain ⟨ok', hwork⟩ := hs.work_run o object job w₁
          -- The push is all that is noted before the work begins.
          have hused : w.Uses (fun o' p' => o' = o ∧ p' = some p)
              ((w₁.note (.began o .work)).note (.ended o .work ok')) := by
            refine ⟨[.ended o .work ok', .began o .work, .ended o (.set p) true,
              .began o (.set p)], ?_, ?_⟩
            · exact congrArg (fun j => .ended o .work ok' :: .began o .work :: j) (hset rfl)
            · refine .idle rfl (.work ⟨rfl, rfl⟩ ?_ (.idle rfl (.push ⟨rfl, rfl⟩ .nil)))
              rintro p' ⟨⟩
              exact List.prefix_rfl
          exact hused.trans (hwork.trans (letGo _ _)).uses

end Host.Secluded

/-! ## Façades that clients use -/

/-- The parameter that counts after a use of a façade, if `P` did before. -/
def FacadeUse.accepted (P : Option Parameter) : FacadeUse × Reply → Option Parameter
  | (.set p, .outcome (.ok ())) => some p
  | _ => P

/-- The parameter that was accepted last in some uses of a new façade, with the replies to them. -/
def lastAccepted (uses : List FacadeUse) (replies : List Reply) : Option Parameter :=
  (uses.zip replies).foldl FacadeUse.accepted none

/-- A client holds the façade, which is of the kind. The parameter that it accepted last is `P`. -/
structure World.Equipped (w : World σ) (f : FacadeId) (kind : FacadeKind) (P : Option Parameter) :
    Prop where
  upheld : w.Upheld
  held : .facade f ∈ w.held
  there : ∃ facade, w.facade? f = some facade ∧ facade.kind = kind ∧ facade.parameter = P
  fit : ∀ p, P = some p → Facade.takes kind p = true ∧ Facade.check kind p = .ok ()

namespace World.Equipped

variable {w w' : World σ} {f : FacadeId} {kind : FacadeKind} {P : Option Parameter}

/-- Whatever a dispatcher does that answers no request of code of others, the façade stays. -/
theorem moves (h : w.Equipped f kind P) (hm : w.Moves false w') : w'.Equipped f kind P := by
  obtain ⟨facade, hf, hk, hP⟩ := h.there
  have hupheld := hm.upheld h.upheld
  have hheld : .facade f ∈ w'.held := by rw [hm.held rfl]; exact h.held
  obtain ⟨facade', hf'⟩ := Option.ne_none_iff_exists'.1
    (hupheld f (refersTo_iff.2 (.inl hheld)))
  obtain ⟨hkind, hparameter⟩ := hm.facade hf hf'
  exact ⟨hupheld, hheld, ⟨facade', hf', hkind.trans hk, (hparameter rfl).trans hP⟩, h.fit⟩

theorem parameterOf_run (h : w.Equipped f kind P) : Host.parameterOf f w = (P, w) := by
  obtain ⟨facade, hf, -, hP⟩ := h.there
  unfold Host.parameterOf
  rw [facade?_run, hf, ← hP]
  rfl

theorem parameterFor_run (h : w.Equipped f kind P) (kind' : FacadeKind) (q : Query) :
    Host.parameterFor f kind' P q w = (kind'.pushed P q, w) := by
  cases q with
  | generate | detail => rfl
  | _ => exact h.parameterOf_run

/-- A parameter is stored if it is accepted, and otherwise the last one stays. Nothing is noted. -/
theorem setParameter (h : w.Equipped f kind P) (p : Parameter) :
    (Host.setParameter f p w).2.Equipped f kind
        (FacadeUse.accepted P (.set p, (Host.setParameter f p w).1)) ∧
      (Host.setParameter f p w).2.journal = w.journal := by
  obtain ⟨facade, hf, hk, hP⟩ := h.there
  unfold Host.setParameter
  rw [facade?_run, hf]
  dsimp only
  split
  next htakes =>
    cases ha : facade.accept p with
    | error e => exact ⟨h, rfl⟩
    | ok facade' =>
      have hthere : (modifyFacade f (fun _ => facade') w).2.facade? f = some facade' :=
        facade?_modify_self hf _
      have hnew := Facade.accept_ok ha
      have hmove : w.Move true (modifyFacade f (fun _ => facade') w).2 := by
        refine .change f (fun facade₀ h₀ => ?_) (fun hfree => by cases hfree) (.inl trivial)
        cases hf.symm.trans h₀
        rw [hnew]
      refine ⟨⟨hmove.upheld h.upheld, h.held,
        ⟨facade', hthere, by rw [hnew]; exact hk, by rw [hnew]; rfl⟩, ?_⟩, rfl⟩
      rintro _ ⟨⟩
      exact ⟨hk ▸ htakes, hk ▸ Facade.check_of_accept ha⟩
  · exact ⟨h, rfl⟩

end World.Equipped

/-! ## Calls -/

namespace Host

/-- An attempt obtains the object, which the façade has under the key of the query then. -/
def Gets (host : Host σ) (f : FacadeId) (a : Attempt σ) (o : ObjectId) : Prop :=
  ∃ w, host.obtain f a.query a.world = (.ok o, w) ∧ w.Stocks f a.query.operation a.query.key o

/-- One of the attempts obtains the object, and `p` is what the façade pushes for its query. -/
def Serves (host : Host σ) (f : FacadeId) (kind : FacadeKind) (P : Option Parameter)
    (tries : List (Attempt σ)) (o : ObjectId) (p : Option Parameter) : Prop :=
  ∃ a ∈ tries, host.Gets f a o ∧ p = kind.pushed P a.query

end Host

/-- There may be more attempts. -/
theorem World.Uses.of_subset {host : Host σ} {f : FacadeId} {kind : FacadeKind}
    {P : Option Parameter} {tries tries' : List (Attempt σ)} {w w' : World σ}
    (h : w.Uses (host.Serves f kind P tries) w') (hsub : tries ⊆ tries') :
    w.Uses (host.Serves f kind P tries') w' :=
  h.mono fun ⟨a, ha, hgets⟩ => ⟨a, hsub ha, hgets⟩

namespace Host

variable {host : Host σ} {f : FacadeId} {kind : FacadeKind} {P : Option Parameter}

namespace Secluded

variable (hs : host.Secluded) {w : World σ}

include hs

/-- The implementation that an attempt obtains is used, and no other one. -/
theorem attempt_uses (a : Attempt σ) (h : a.world.Equipped f kind P) (kind' : FacadeKind) :
    a.world.Uses (host.Serves f kind' P [a]) (host.outcome f kind' P a).2 := by
  have hprovides := hs.obtain_provides (f := f) a.query a.world
  have hequipped : (host.obtain f a.query a.world).2.Equipped f kind P :=
    h.moves (hs.moving.obtain a.query trivial a.world)
  unfold outcome attempt
  rw [bind_run]
  cases hob : host.obtain f a.query a.world with
  | mk r w =>
    rw [hob] at hprovides hequipped
    cases r with
    | error e => exact hprovides.unused.uses
    | ok o =>
      unfold employAny
      dsimp only
      rw [bind_of_run (hequipped.parameterFor_run kind' a.query)]
      refine hprovides.unused.uses.trans ((hs.employ_uses o _ a.job w).mono ?_)
      rintro o' p' ⟨rfl, rfl⟩
      exact ⟨a, List.mem_cons_self, ⟨w, hob, hprovides.stocks o' rfl⟩, rfl⟩

/-- What is used on the way down the ladder are the implementations that its attempts obtain. -/
theorem descend_uses (h : w.Equipped f kind P) (target : DetailLevel) (levels : List DetailLevel)
    (first : Option Error) (job : Job) :
    w.Uses (host.Serves f .detail P (host.attempts f .detail P (levels.map .detail) job w))
      (host.descend f (detailParameter false P) target levels first job w).2 := by
  induction levels generalizing first job w with
  | nil => exact (Unused.refl w).uses
  | cons level rest ih =>
    have hfirst := hs.attempt_uses ⟨.detail level, job, w⟩ h .detail
    have hequipped : (host.attempt f .detail P (.detail level) job w).2.Equipped f kind P :=
      h.moves (hs.moving.attempt .detail P _ job trivial w)
    rw [List.map_cons]
    cases hx : host.attempt f .detail P (.detail level) job w with
    | mk answer w' =>
      obtain ⟨r, job'⟩ := answer
      rw [outcome, hx] at hfirst
      rw [hx] at hequipped
      cases r with
      | ok =>
        obtain ⟨reports, hdescend, hreports⟩ := descend_cons_ok target rest first hx
        rw [attempts_cons_ok hx, hdescend]
        have hunused : w'.Unused { w' with journal := reports ++ w'.journal } :=
          ⟨reports, rfl, fun e he => Event.isUse_report (hreports e he)⟩
        exact hfirst.trans hunused.uses
      | error e =>
        have hrest := ih (hequipped.moves (shortfall_made trivial (.detail level) e w'))
          (first.or (if e.isNotFound then none else some e)) job'
        rw [attempts_cons_error hx, descend_cons_error target rest first hx]
        refine (hfirst.of_subset ?_).trans
          (((shortfall_aloof (.detail level) e).unused w').uses.trans (hrest.of_subset ?_))
        · exact fun a ha => List.mem_singleton.1 ha ▸ List.mem_cons_self
        · exact List.subset_cons_self _ _

/-- What is used in the work of a façade are the implementations that its attempts obtain. -/
theorem dispatch_uses (h : w.Equipped f kind P) {task : Task} (hd : kind.does task = true) :
    w.Uses (host.Serves f kind P (host.attempts f kind P (kind.queries P task) task.job w))
      (host.dispatch f kind task w).2 := by
  have hP : (w.facade? f).bind Facade.parameter = P := congrArg Prod.fst h.parameterOf_run
  by_cases hk : kind = .detail
  · subst hk
    cases task with
    | detail input output =>
      cases hc : input.sameShape output with
      | true =>
        have hcopied : w.Unused (host.dispatch f .detail (.detail input output) w).2 := by
          obtain ⟨e, hcopy, he, -⟩ := dispatch_copy hc
          rw [hcopy]
          exact .note (Event.isUse_report he)
        exact hcopied.uses
      | false =>
        have hcopy : (Task.detail input output).isCopy = false := hc
        rw [dispatch_ladder hc hP, FacadeKind.queries_of_not_copy hcopy]
        exact hs.descend_uses h _ _ none _
    | _ => cases hd
  · rw [dispatch_eq_attempt hd hk hP, FacadeKind.queries_of_ne hk, attempts_singleton]
    exact hs.attempt_uses ⟨task.query P, task.job, w⟩ h kind

omit hs in
theorem openCall_moves (h : w.Equipped f kind P) (kind' : FacadeKind) (task : Task) :
    w.Moves false (host.openCall f kind' task w).2 := by
  unfold openCall
  refine .head (.pin (r := .facade f) (.inr (refersTo_iff.2 (.inl h.held)))) ?_
  split
  · exact .single (.note trivial)
  · exact .refl

omit hs in
theorem openCall_unused (kind : FacadeKind) (task : Task) (w : World σ) :
    w.Unused (host.openCall f kind task w).2 := by
  rw [openCall_run]
  refine ⟨host.callSpan kind task, rfl, fun e he => ?_⟩
  unfold callSpan at he
  split at he
  · rw [List.mem_singleton.1 he]; rfl
  · cases he

omit hs in
/-- A façade that a client holds stays when a call ends. -/
theorem unpin_facade_unused (h : w.Equipped f kind P) :
    w.Unused (host.unpin (.facade f) w).2 := by
  obtain ⟨facade, hf, -⟩ := h.there
  have hkept : (host.settleFacade f { w with pins := w.pins.erase (.facade f) }).2 =
    { w with pins := w.pins.erase (.facade f) } :=
      settleFacade_kept hf (refersTo_iff.2 (.inl h.held))
  show w.Unused (host.settleFacade f { w with pins := w.pins.erase (.facade f) }).2
  rw [hkept]
  exact .of_eq rfl

/-- What is used in a call of a façade are the implementations that its attempts obtain. -/
theorem process_uses (h : w.Equipped f kind P) {task : Task} (hd : kind.does task = true) :
    w.Uses (host.Serves f kind P (host.attempts f kind P (kind.queries P task) task.job
      (host.openCall f kind task w).2)) (host.process f task w).2 := by
  obtain ⟨facade, hf, rfl, -⟩ := h.there
  have hopened : (host.openCall f facade.kind task w).2.Equipped f facade.kind P :=
    h.moves (openCall_moves h facade.kind task)
  have hopen : w.Unused (host.openCall f facade.kind task w).2 :=
    openCall_unused facade.kind task w
  cases hv : task.job.validate with
  | error e =>
    rw [process_invalid hf hd hv]
    exact (hopen.trans (unpin_facade_unused hopened)).uses
  | ok =>
    rw [process_valid hf hd hv]
    have hended := hopened.moves (hs.moving.dispatch (f := f) trivial trivial facade.kind task _)
    exact hopen.uses.trans ((hs.dispatch_uses hopened hd).trans (unpin_facade_unused hended).uses)

end Secluded

end Host

end ImageDispatch
