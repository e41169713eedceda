import ImageDispatch.Proofs.Leases.Fair
import ImageDispatch.Proofs.Lifetime.Release

/-!
# Users of the vendor library

* `World.Locked es`: what a call does that changes the number of users, while it does so. The code
  of the source that runs meanwhile may come back, but not to the number of users.
* `Host.Fair.increase_books`, `Host.Fair.decrease_books`: a user more, whose lease is not noted
  yet, and a user less, whose lease has been given back. Each call of the source is due.
* `Host.Fair.takeLease`: a lease of a client.
-/

namespace ImageDispatch

open Act World

variable {σ : Type}

/-! ## Under the lock -/

namespace World

/-- While the number of users is being changed `w'` comes from `w`, and `es` is what happened to
the library. -/
structure Locked (env : Environment σ) (es : List Event) (w w' : World σ) : Prop where
  balanced : w'.Balanced env
  counting : w'.counting = true
  calm : w.Calm w'
  frozen : w.Frozen es w'

variable {env : Environment σ} {w w' w₁ w₂ w₃ : World σ} {es es' : List Event}

theorem Locked.refl (hb : w.Balanced env) (hc : w.counting = true) : w.Locked env [] w :=
  ⟨hb, hc, CalmBut.refl w, .refl w⟩

theorem Locked.trans (h₁ : w₁.Locked env es w₂) (h₂ : w₂.Locked env es' w₃) :
    w₁.Locked env (es' ++ es) w₃ :=
  ⟨h₂.balanced, h₂.counting, h₁.calm.trans h₂.calm, h₁.frozen.trans h₂.frozen⟩

theorem Accounted.locked (h : w.Accounted env w') (hb : w.Balanced env) (hc : w.counting = true)
    (hd : ¬w'.Disturbed) : w.Locked env [] w' := by
  obtain ⟨hb', hs⟩ := h.balanced hb hd
  exact ⟨hb', hs.counting.trans hc, hs.toCalmBut, hs.frozen hc⟩

/-- A call of the source is noted. -/
theorem Locked.note (hb : w.Balanced env) (hc : w.counting = true) {e : Event}
    (he : e.isSourceCall = true) (hdue : e.Due w.journal) : w.Locked env [e] (w.note e) := by
  have hm : e.isMark = true ∧ e.isLibrary = true ∧
      ∀ f, e ≠ .connected f ∧ e ≠ .disconnected f := by
    cases e with
    | opened | closed => exact ⟨rfl, rfl, fun f => by simp⟩
    | _ => cases he
  obtain ⟨hm, hl, hne⟩ := hm
  refine ⟨⟨hb.books.mark hm (fun _ => hc) hdue fun f h => absurd h (hne f).2, fun h => ?_⟩, hc,
    CalmBut.note_of_isMark hm fun f => (hne f).2, rfl, rfl, List.filter_cons_of_pos hl,
    fun h => (List.mem_cons.1 h).resolve_left (Ne.symm (hne _).1)⟩
  cases h.symm.trans hc

/-- The number of users changed from `w` to `w'`, and `m` users have no lease. -/
structure Recounted (env : Environment σ) (m : Nat) (w w' : World σ) : Prop where
  books : w'.Books env m
  calm : w.Calm w'
  idle : w.counting = false
  counting : w'.counting = false
  size : w'.facades.size = w.facades.size
  connected : ∀ {f}, .connected f ∈ w'.journal → .connected f ∈ w.journal

theorem Recounted.steady {m : Nat} (h : w.Recounted env m w') : w.Steady w' :=
  ⟨h.calm, h.counting.trans h.idle.symm, fun hc => by cases h.idle.symm.trans hc⟩

theorem Recounted.balanced (h : w.Recounted env 0 w')
    (hc : w.counting = false → ∀ {f}, .connected f ∈ w.journal → f < w.facades.size) :
    w'.Balanced env := by
  refine ⟨h.books, fun _ f hm => ?_⟩
  rw [h.size]
  exact hc h.idle (h.connected hm)

/-- A call that changes the number of users notes it, and lets others do so. -/
theorem Locked.recounted {n m k i : Nat} (hc : w.counting = false)
    (h : { w with instances := k, counting := true : World σ }.Locked env es w')
    (hi : i + n = w'.instances + m) (hn : w'.Books env n)
    (hl : env.hasSource = true → LibraryLog i
      (.gauge .vendorInstances i :: (es ++ w.journal.filter Event.isLibrary))) :
    w.Recounted env m { w'.note (.gauge .vendorInstances i) with
      instances := i
      counting := false } := by
  have hq := hn.mark (e := .gauge .vendorInstances i) rfl (fun _ => h.counting) trivial (by simp)
  refine ⟨hq.recount (fun hs _ => ?_) hi, ?_, hc, rfl, h.frozen.size, fun hm => ?_⟩
  · have := hl hs
    rwa [← h.frozen.library] at this
  · have h₁ : w.Calm { w with instances := k, counting := true } :=
      CalmBut.of_eq rfl rfl (Nat.le_refl _)
    have h₂ : w'.Calm (w'.note (.gauge .vendorInstances i)) :=
      CalmBut.note_of_isMark rfl (by simp)
    exact ((h₁.trans h.calm).trans h₂).trans (CalmBut.of_eq rfl rfl (Nat.le_refl _))
  · exact h.frozen.connected ((List.mem_cons.1 hm).resolve_left (by simp))

end World

namespace Host.Fair

variable {host : Host σ} (hf : host.Fair)

include hf

theorem openSource_locked {w : World σ} (hw : w.Orderly) (hb : w.Balanced host.env)
    (hc : w.counting = true) (hd : ¬(host.openSource w).2.Disturbed) :
    ∃ es, w.Locked host.env es (host.openSource w).2 ∧
      (host.env.hasSource = true → ∃ ok, es = [.opened ok]) := by
  revert hd
  unfold Host.openSource Environment.hasSource Environment.sourceName?
  cases host.env.source with
  | none => exact fun _ => ⟨_, .refl hb hc, by simp⟩
  | provider p =>
    intro hd
    have hr := ((hf.runForeign [] p.openUp).handled hw rfl).toAccounted
    have hl := hr.locked hb hc (Accounted.not_disturbed (fun _ => List.mem_cons_of_mem _) hd)
    exact ⟨_, hl.trans (.note hl.balanced hl.counting rfl trivial), fun _ => ⟨_, rfl⟩⟩
  | library path =>
    have opened : ∀ {v : World σ} (ok : Bool), w.Locked host.env [] v → ∃ es,
        w.Locked host.env es (v.note (.opened ok)) ∧ (true = true → ∃ ok, es = [.opened ok]) :=
      fun ok hl => ⟨_, hl.trans (.note hl.balanced hl.counting rfl trivial), fun _ => ⟨_, rfl⟩⟩
    dsimp only
    rw [get_run]
    split
    · exact fun _ => opened true (.refl hb hc)
    · cases host.env.loader path w.memory with
      | error reason => exact fun _ => opened false (.refl hb hc)
      | ok library =>
        intro hd
        have h : w.Handled host.env { w.note (.log .info
            s!"opened vendor extension library {path}") with library := some library } :=
          (handled_note w rfl).trans (handled_same ⟨rfl, rfl, rfl, rfl, rfl, rfl, rfl, rfl⟩)
        exact opened true (h.toAccounted.locked hb hc fun hd' =>
          hd (hd'.imp (List.mem_cons_of_mem _) (List.mem_cons_of_mem _)))

theorem closeSource_locked {w : World σ} (hw : w.Orderly) (hb : w.Balanced host.env)
    (hc : w.counting = true) (hdue : Event.Due w.journal .closed)
    (hd : ¬(host.closeSource w).2.Disturbed) :
    ∃ es, w.Locked host.env es (host.closeSource w).2 ∧
      (host.env.hasSource = true → es = [.closed]) := by
  have closed := Locked.note hb hc (e := .closed) rfl hdue
  revert hd
  unfold Host.closeSource Environment.hasSource Environment.sourceName?
  cases host.env.source with
  | none => exact fun _ => ⟨_, .refl hb hc, by simp⟩
  | provider p =>
    intro hd
    have hr := (hf.runForeign [] p.close).handled (w := w.note .closed)
      (hw.same rfl rfl rfl rfl rfl) rfl
    exact ⟨_, closed.trans (hr.toAccounted.locked closed.balanced closed.counting hd), fun _ => rfl⟩
  | library path =>
    have h₁ : (w.note .closed).Handled host.env { w.note .closed with library := none } :=
      handled_same ⟨rfl, rfl, rfl, rfl, rfl, rfl, rfl, rfl⟩
    have h₂ := (h₁.trans (handled_note _
      (e := .log .info s!"closed vendor extension library {path}") rfl)).toAccounted
    dsimp only
    rw [bind_run, get_run]
    split
    · exact fun hd => ⟨_, closed.trans (h₂.locked closed.balanced closed.counting hd), fun _ => rfl⟩
    · exact fun _ => ⟨_, closed, fun _ => rfl⟩

omit hf in
theorem exclusively_run (change : Act σ Unit) (w : World σ) :
    (Host.exclusively change w).2 = if w.counting then w.note .stalled else
      { (change { w with counting := true }).2 with counting := false } := by
  unfold Host.exclusively
  rw [get_run]
  split <;> rfl

/-- One user more, who has no lease yet. -/
theorem increase_books {w : World σ} (hw : w.Orderly) (hb : w.Books host.env 0)
    (hd : ¬(host.increase w).2.Disturbed) : w.Recounted host.env 1 (host.increase w).2 := by
  revert hd
  unfold Host.increase
  rw [exclusively_run]
  by_cases hc : w.counting = true
  · rw [if_pos hc]
    exact fun hd => absurd (.inl List.mem_cons_self) hd
  rw [if_neg hc]
  have hc : w.counting = false := by simpa using hc
  have hw₁ : World.Orderly { w with counting := true } := hw.same rfl rfl rfl rfl rfl
  have hb₁ : World.Balanced host.env { w with counting := true } :=
    ⟨hb.recount (by simp) rfl, by simp⟩
  -- Only the first user has the source opened, whether it opens or not.
  have count : ∀ {v : World σ} {es : List Event},
      World.Locked host.env es { w with counting := true } v →
      (host.env.hasSource = true → LibraryLog (w.instances + 1) (.gauge .vendorInstances
        (w.instances + 1) :: (es ++ w.journal.filter Event.isLibrary))) →
      w.Recounted host.env 1 { v.note (.gauge .vendorInstances (v.instances + 1)) with
        instances := v.instances + 1
        counting := false } := by
    intro v es hl hlog
    rw [hl.frozen.instances]
    exact hl.recounted hc (by rw [hl.frozen.instances]) hl.balanced.books hlog
  rw [get_run]
  split
  · rename_i h₀
    have h₀ : w.instances = 0 := h₀
    have first : ∀ {es}, (host.env.hasSource = true → ∃ ok, es = [.opened ok]) →
        (host.env.hasSource = true → LibraryLog (w.instances + 1) (.gauge .vendorInstances
          (w.instances + 1) :: (es ++ w.journal.filter Event.isLibrary))) := by
      intro es he hs
      obtain ⟨ok, rfl⟩ := he hs
      have := hb.log hs hc
      rw [h₀] at this ⊢
      exact .first this ok
    rw [bind_run]
    intro hd
    cases hr : (host.openSource { w with counting := true }).1 with
    | ok =>
      rw [hr] at hd
      obtain ⟨es, hl, he⟩ := hf.openSource_locked hw₁ hb₁ rfl
        (Accounted.not_disturbed (fun _ => List.mem_cons_of_mem _) hd)
      exact count hl (first he)
    | error e =>
      rw [hr] at hd
      have hd' := Accounted.not_disturbed (w := (host.openSource { w with counting := true }).2)
        (fun _ hm => List.mem_cons_of_mem _ (List.mem_cons_of_mem _ hm)) hd
      obtain ⟨es, hl, he⟩ := hf.openSource_locked hw₁ hb₁ rfl hd'
      have hq := (handled_note _ (e := .log .warn
        s!"dynamic extensions unavailable: {e.message}") rfl).toAccounted.locked hl.balanced
        hl.counting (Accounted.not_disturbed (fun _ hm => List.mem_cons_of_mem _ hm) hd)
      exact count (hl.trans hq) (first he)
  · intro hd
    refine count (.refl hb₁ rfl) fun hs => ?_
    have := hb.log hs hc
    obtain ⟨k, hk⟩ := Nat.exists_eq_succ_of_ne_zero (show w.instances ≠ 0 from ‹_›)
    rw [hk] at this ⊢
    exact .more this

omit hf in
/-- When nobody uses the library any more, everything that façades created has been released. -/
theorem closed_due {w : World σ} (hb : w.Books host.env 0) (h₀ : w.instances = 0) :
    Event.Due w.journal .closed := by
  have gone : ∀ f kind, .founded f kind ∈ w.journal → .dissolved f ∈ w.journal :=
    fun f kind => hb.regular.all_dissolved (by have := hb.counted; omega)
  refine ⟨gone, fun f o ha => ?_⟩
  obtain ⟨kind, hfounded⟩ := hb.regular.founded_of_adopted ha
  exact hb.regular.emptied (gone f kind hfounded) o ha

/-- One user less, who has given the lease back. -/
theorem decrease_books {w : World σ} (hw : w.Orderly) (hb : w.Books host.env 1)
    (hd : ¬(host.decrease w).2.Disturbed) : w.Recounted host.env 0 (host.decrease w).2 := by
  revert hd
  unfold Host.decrease
  rw [exclusively_run]
  by_cases hc : w.counting = true
  · rw [if_pos hc]
    exact fun hd => absurd (.inl List.mem_cons_self) hd
  rw [if_neg hc]
  have hc : w.counting = false := by simpa using hc
  -- A user without a lease is a user.
  have hpos : w.instances ≠ 0 := by
    have := hb.counted
    have := hb.regular.length_dissolvedIds_le
    omega
  obtain ⟨k, hk⟩ := Nat.exists_eq_succ_of_ne_zero hpos
  have hw₁ : World.Orderly { w with instances := k, counting := true } :=
    hw.same rfl rfl rfl rfl rfl
  have hb₁ : World.Books host.env 0 { w with instances := k, counting := true } :=
    hb.recount (by simp) (by omega)
  have hb₁ : World.Balanced host.env { w with instances := k, counting := true } :=
    ⟨hb₁, by simp⟩
  have hlog := fun hs => hb.log hs hc
  rw [hk] at hlog
  have count : ∀ {v : World σ} {es : List Event},
      World.Locked host.env es { w with instances := k, counting := true } v →
      (host.env.hasSource = true → LibraryLog k
        (.gauge .vendorInstances k :: (es ++ w.journal.filter Event.isLibrary))) →
      w.Recounted host.env 0 { v.note (.gauge .vendorInstances v.instances) with
        counting := false } := by
    intro v es hl hlog
    have hv : v.instances = k := hl.frozen.instances
    subst hv
    exact hl.recounted hc rfl hl.balanced.books hlog
  rw [get_run, if_neg hpos]
  rw [bind_run, show (modify (fun w : World σ => { w with instances := w.instances - 1 }) :
    Act σ Unit) { w with counting := true } = ((), { w with instances := k, counting := true })
    by rw [show k = w.instances - 1 by omega]; rfl]
  rw [get_run]
  split
  · rename_i h₀
    have h₀ : k = 0 := h₀
    subst h₀
    intro hd
    obtain ⟨es, hl, he⟩ := hf.closeSource_locked hw₁ hb₁ rfl (closed_due hb₁.books rfl)
      (Accounted.not_disturbed (fun _ => List.mem_cons_of_mem _) hd)
    refine count hl fun hs => ?_
    rw [he hs]
    exact .last (hlog hs)
  · rename_i h₀
    intro hd
    refine count (.refl hb₁ rfl) fun hs => ?_
    obtain ⟨k', rfl⟩ := Nat.exists_eq_succ_of_ne_zero (show k ≠ 0 from h₀)
    exact .fewer (hlog hs)

/-! ## Whatever happens -/

theorem openSource_grows {w : World σ} (hw : w.Orderly) :
    w.journal ⊆ (host.openSource w).2.journal ∧ (host.openSource w).2.table = w.table := by
  unfold Host.openSource
  cases host.env.source with
  | none => exact ⟨fun _ => id, rfl⟩
  | provider p =>
    have hr := hf.runForeign [] p.openUp
    exact ⟨fun _ he => List.mem_cons_of_mem _ ((hr.handled hw rfl).journal he),
      (hr.handled hw rfl).table⟩
  | library path =>
    dsimp only
    rw [get_run]
    split
    · exact ⟨fun _ => List.mem_cons_of_mem _, rfl⟩
    · cases host.env.loader path w.memory with
      | error reason => exact ⟨fun _ => List.mem_cons_of_mem _, rfl⟩
      | ok library => exact ⟨fun _ he => List.mem_cons_of_mem _ (List.mem_cons_of_mem _ he), rfl⟩

theorem closeSource_grows {w : World σ} (hw : w.Orderly) :
    w.journal ⊆ (host.closeSource w).2.journal ∧ (host.closeSource w).2.table = w.table := by
  unfold Host.closeSource
  cases host.env.source with
  | none => exact ⟨fun _ => id, rfl⟩
  | provider p =>
    have hr := hf.runForeign [] p.close
    have hw₁ : (w.note .closed).Orderly := hw.same rfl rfl rfl rfl rfl
    have ha := hr.handled hw₁ rfl
    exact ⟨fun _ he => ha.journal (List.mem_cons_of_mem _ he), ha.table⟩
  | library path =>
    dsimp only
    rw [bind_run, get_run]
    split
    · exact ⟨fun _ he => List.mem_cons_of_mem _ (List.mem_cons_of_mem _ he), rfl⟩
    · exact ⟨fun _ => List.mem_cons_of_mem _, rfl⟩

theorem increase_grows {w : World σ} (hw : w.Orderly) :
    w.journal ⊆ (host.increase w).2.journal ∧ (host.increase w).2.table = w.table := by
  unfold Host.increase
  rw [exclusively_run]
  split
  · exact ⟨fun _ => List.mem_cons_of_mem _, rfl⟩
  · obtain ⟨hj, ht⟩ := hf.openSource_grows (w := { w with counting := true })
      (hw.same rfl rfl rfl rfl rfl)
    rw [get_run]
    split
    · rw [bind_run]
      cases (host.openSource { w with counting := true }).1 with
      | ok => exact ⟨fun _ he => List.mem_cons_of_mem _ (hj he), ht⟩
      | error e =>
        exact ⟨fun _ he => List.mem_cons_of_mem _ (List.mem_cons_of_mem _ (hj he)), ht⟩
    · exact ⟨fun _ => List.mem_cons_of_mem _, rfl⟩

theorem decrease_grows {w : World σ} (hw : w.Orderly) :
    w.journal ⊆ (host.decrease w).2.journal ∧ (host.decrease w).2.table = w.table := by
  unfold Host.decrease
  rw [exclusively_run]
  split
  · exact ⟨fun _ => List.mem_cons_of_mem _, rfl⟩
  · obtain ⟨hj, ht⟩ := hf.closeSource_grows
      (w := { w with instances := w.instances - 1, counting := true })
      (hw.same rfl rfl rfl rfl rfl)
    rw [get_run]
    split
    · exact ⟨fun _ => List.mem_cons_of_mem _, rfl⟩
    · rw [bind_run, get_run]
      split
      · exact ⟨fun _ he => List.mem_cons_of_mem _ (hj he), ht⟩
      · exact ⟨fun _ => List.mem_cons_of_mem _, rfl⟩

/-! ## Leases of clients -/

theorem giveBack_books {w : World σ} (hw : w.Orderly) (hb : w.Books host.env 1)
    (hd : ¬(host.giveBack w).2.Disturbed) : w.Recounted host.env 0 (host.giveBack w).2 := by
  have hw₁ : (w.note .returned).Orderly := hw.same rfl rfl rfl rfl rfl
  have hb₁ := hb.mark (e := .returned) rfl (by simp [Event.isLibrary]) trivial (by simp)
  have h := hf.decrease_books hw₁ hb₁ hd
  exact ⟨h.books, .trans (CalmBut.note_of_isMark rfl (by simp)) h.calm, h.idle, h.counting, h.size,
    fun hm => (List.mem_cons.1 (h.connected hm)).resolve_left (by simp)⟩

theorem giveBack_grows {w : World σ} (hw : w.Orderly) :
    w.journal ⊆ (host.giveBack w).2.journal ∧ (host.giveBack w).2.table = w.table := by
  obtain ⟨hj, ht⟩ := hf.decrease_grows (w := w.note .returned) (hw.same rfl rfl rfl rfl rfl)
  exact ⟨fun _ he => hj (List.mem_cons_of_mem _ he), ht⟩

theorem takeLease : Act.Fair host.env [] host.takeLease fun _ => [] := by
  refine ⟨hf.tidy.takeLease, fun w ps hw hp => ?_⟩
  obtain ⟨hj, ht⟩ := hf.increase_grows hw
  refine ⟨⟨fun _ he => List.mem_cons_of_mem _ (hj he), fun hb hd => ?_⟩, ht⟩
  have h := hf.increase_books hw hb.books
    (Accounted.not_disturbed (fun _ => List.mem_cons_of_mem _) hd)
  have hl := h.books.mark (e := .leased) rfl (by simp [Event.isLibrary]) trivial (by simp)
  have hr : w.Recounted host.env 0 (host.takeLease w).2 := by
    refine ⟨hl.rehold (fun f hm => ?_) (fun f o ha hm => ?_) ?_, ?_, h.idle, h.counting, h.size,
      fun hm => h.connected ((List.mem_cons.1 hm).resolve_left (by simp))⟩
    · exact hl.kept (refersTo_iff.2 (.inl ((List.mem_cons.1 hm).resolve_left (by simp))))
    · exact hl.unheld ha ((List.mem_cons.1 hm).resolve_left (by simp))
    · rw [List.count_cons_self, Nat.zero_add, Nat.add_comm]
      rfl
    · have hq : (host.increase w).2.Calm ((host.increase w).2.note .leased) :=
        CalmBut.note_of_isMark rfl (by simp)
      exact (h.calm.trans hq).trans (CalmBut.of_eq rfl rfl (Nat.le_refl _))
  exact ⟨hr.balanced hb.connected, hr.steady⟩

end Host.Fair

end ImageDispatch
