import ImageDispatch.Proofs.Leases.Books

/-!
# Actions that keep the books

* `World.Balanced`: the books of a world in which every user has a lease.
* `World.Steady`: what a whole action leaves alone. Nothing happens to a façade that is gone, none
  is left half gone, and what a façade creates is new (`World.Calm`). While the source opens or
  closes, nothing changes that has to do with users.
* `World.Accounted`: an action leads from a balanced world to a balanced world, and is steady,
  unless a call waits for itself or a client counts a user less on its own (`World.Disturbed`).
* `Act.Fair before a after`: `a` is accounted for where it has its triple, and leaves the instance
  table alone (`World.Handled`). The rules are those of triples.
* `Host.Fair`: the dispatcher answers each request of code of others fairly.
-/

namespace ImageDispatch

namespace World

variable {σ : Type}

/-- Every user of the vendor library has a lease, and the bootstrap service was told of façades
that were made only, unless one is being made now. -/
structure Balanced (env : Environment σ) (w : World σ) : Prop where
  books : w.Books env 0
  connected : w.counting = false → ∀ {f}, .connected f ∈ w.journal → f < w.facades.size

/-- A call has waited for itself, or a client has counted a user less on its own. -/
def Disturbed (w : World σ) : Prop := .stalled ∈ w.journal ∨ .tallied false ∈ w.journal

/-- What stays while the source opens or closes, but for the events `es` of the library. -/
structure Frozen (es : List Event) (w w' : World σ) : Prop where
  instances : w'.instances = w.instances
  size : w'.facades.size = w.facades.size
  library : w'.journal.filter Event.isLibrary = es ++ w.journal.filter Event.isLibrary
  connected : ∀ {f}, .connected f ∈ w'.journal → .connected f ∈ w.journal

/-- A façade that is gone stays so, and nothing more is said of it. -/
structure StaysGone (f : FacadeId) (w w' : World σ) : Prop where
  facade : w'.facade? f = none
  disconnected : .disconnected f ∈ w'.journal → .disconnected f ∈ w.journal
  dissolved : .dissolved f ∈ w'.journal → .dissolved f ∈ w.journal
  adopted : ∀ {o}, .adopted f o ∈ w'.journal → .adopted f o ∈ w.journal

/-- What a change leaves alone, if `x` is the façade that it takes apart. -/
structure CalmBut (x : Option FacadeId) (w w' : World σ) : Prop where
  journal : w.journal ⊆ w'.journal
  objects : w.objects.size ≤ w'.objects.size
  facades : w.facades.size ≤ w'.facades.size
  gone : ∀ {f}, x ≠ some f → f < w.facades.size → w.facade? f = none → StaysGone f w w'
  left : ∀ {f}, x ≠ some f → f < w'.facades.size → w'.facade? f = none →
    (f < w.facades.size ∧ w.facade? f = none) ∨ .dissolved f ∈ w'.journal
  adopted : ∀ {f o}, .adopted f o ∈ w'.journal → .adopted f o ∈ w.journal ∨ w.objects.size ≤ o

/-- What a change leaves alone that takes no façade apart, or takes it apart altogether. -/
abbrev Calm (w w' : World σ) : Prop := CalmBut none w w'

/-- What a whole action leaves alone (module doc). -/
structure Steady (w w' : World σ) : Prop extends Calm w w' where
  counting : w'.counting = w.counting
  frozen : w.counting = true → w.Frozen [] w'

/-- An action is accounted for (module doc). -/
structure Accounted (env : Environment σ) (w w' : World σ) : Prop where
  journal : w.journal ⊆ w'.journal
  balanced : w.Balanced env → ¬w'.Disturbed → w'.Balanced env ∧ w.Steady w'

/-- An action is accounted for, and the instance table is not its business. -/
structure Handled (env : Environment σ) (w w' : World σ) : Prop extends Accounted env w w' where
  table : w'.table = w.table

variable {env : Environment σ} {w w₁ w₂ w₃ w' : World σ}

theorem Frozen.refl (w : World σ) : w.Frozen [] w := ⟨rfl, rfl, rfl, id⟩

theorem Frozen.trans {es es' : List Event} (h₁ : w₁.Frozen es w₂) (h₂ : w₂.Frozen es' w₃) :
    w₁.Frozen (es' ++ es) w₃ :=
  ⟨h₂.instances.trans h₁.instances, h₂.size.trans h₁.size,
    by rw [h₂.library, h₁.library, List.append_assoc],
    fun h => h₁.connected (h₂.connected h)⟩

/-- An event that is not about users. -/
theorem Frozen.note {e : Event} (hl : e.isLibrary = false) (hc : ∀ f, e ≠ .connected f) :
    w.Frozen [] (w.note e) :=
  ⟨rfl, rfl, List.filter_cons_of_neg (by simp [hl]),
    fun hm => (List.mem_cons.1 hm).resolve_left (Ne.symm (hc _))⟩

theorem StaysGone.trans {f : FacadeId} (h₁ : StaysGone f w₁ w₂) (h₂ : StaysGone f w₂ w₃) :
    StaysGone f w₁ w₃ :=
  ⟨h₂.facade, fun h => h₁.disconnected (h₂.disconnected h),
    fun h => h₁.dissolved (h₂.dissolved h), fun h => h₁.adopted (h₂.adopted h)⟩

namespace CalmBut

variable {x : Option FacadeId}

theorem refl (w : World σ) : w.CalmBut x w :=
  ⟨fun _ => id, Nat.le_refl _, Nat.le_refl _, fun _ _ hf => ⟨hf, id, id, id⟩,
    fun _ hlt hf => .inl ⟨hlt, hf⟩, .inl⟩

theorem trans (h₁ : w₁.CalmBut x w₂) (h₂ : w₂.CalmBut x w₃) : w₁.CalmBut x w₃ where
  journal := fun _ he => h₂.journal (h₁.journal he)
  objects := Nat.le_trans h₁.objects h₂.objects
  facades := Nat.le_trans h₁.facades h₂.facades
  gone := fun hx hlt hf =>
    have hg := h₁.gone hx hlt hf
    hg.trans (h₂.gone hx (Nat.lt_of_lt_of_le hlt h₁.facades) hg.facade)
  left := fun hx hlt hf => by
    rcases h₂.left hx hlt hf with ⟨hlt, hf⟩ | hd
    · exact (h₁.left hx hlt hf).imp_right fun hd => h₂.journal hd
    · exact .inr hd
  adopted := fun ha => by
    rcases h₂.adopted ha with ha | hle
    · exact h₁.adopted ha
    · exact .inr (Nat.le_trans h₁.objects hle)

/-- Where no façade is taken apart no exception is needed. -/
theorem but (h : w.Calm w') (x : Option FacadeId) : w.CalmBut x w' :=
  ⟨h.journal, h.objects, h.facades, fun _ => h.gone (by simp), fun _ => h.left (by simp),
    h.adopted⟩

/-- A façade that was there, and has given its lease back, is no exception. -/
theorem whole {f : FacadeId} (h : w.CalmBut (some f) w') (hf : w.facade? f ≠ none)
    (hd : .dissolved f ∈ w'.journal) : w.Calm w' := by
  refine ⟨h.journal, h.objects, h.facades, fun {g} _ hlt hg => ?_, fun {g} _ hlt hg => ?_,
    h.adopted⟩
  · exact h.gone (fun he => hf (by cases he; exact hg)) hlt hg
  · by_cases he : f = g
    · exact .inr (he ▸ hd)
    · exact h.left (by simpa using he) hlt hg

/-- A change that has nothing to do with façades. -/
theorem of_eq (hj : w'.journal = w.journal) (hf : w'.facades = w.facades)
    (ho : w.objects.size ≤ w'.objects.size) : w.CalmBut x w' := by
  have hf' : ∀ f, w'.facade? f = w.facade? f := by intro f; unfold facade?; rw [hf]
  exact ⟨by rw [hj]; exact fun _ => id, ho, by rw [hf],
    fun _ _ hg => ⟨by rw [hf']; exact hg, by rw [hj]; exact id, by rw [hj]; exact id,
      by rw [hj]; exact id⟩,
    fun _ hlt hg => .inl ⟨by rwa [← hf], by rwa [← hf']⟩, fun ha => .inl (by rwa [← hj])⟩

/-- An event that says nothing of façades that are gone, and creates nothing. -/
theorem note {e : Event}
    (hg : ∀ f, x ≠ some f → f < w.facades.size → w.facade? f = none →
      e ≠ .disconnected f ∧ e ≠ .dissolved f)
    (ha : ∀ f o, e ≠ .adopted f o) : w.CalmBut x (w.note e) where
  journal := fun _ => List.mem_cons_of_mem e
  objects := Nat.le_refl _
  facades := Nat.le_refl _
  gone := fun hx hlt hf => ⟨hf,
    fun hm => (List.mem_cons.1 hm).resolve_left (Ne.symm (hg _ hx hlt hf).1),
    fun hm => (List.mem_cons.1 hm).resolve_left (Ne.symm (hg _ hx hlt hf).2),
    fun hm => (List.mem_cons.1 hm).resolve_left (Ne.symm (ha _ _))⟩
  left := fun _ hlt hf => .inl ⟨hlt, hf⟩
  adopted := fun hm => .inl ((List.mem_cons.1 hm).resolve_left (Ne.symm (ha _ _)))

/-- An event that no façade has a part in. -/
theorem note_of_isMark {e : Event} (hm : e.isMark = true) (hd : ∀ f, e ≠ .disconnected f) :
    w.CalmBut x (w.note e) :=
  note (fun f _ _ _ => ⟨hd f, by rintro rfl; cases hm⟩) (by rintro f o rfl; cases hm)

end CalmBut

namespace Steady

theorem refl (w : World σ) : w.Steady w := ⟨CalmBut.refl w, rfl, fun _ => .refl w⟩

theorem trans (h₁ : w₁.Steady w₂) (h₂ : w₂.Steady w₃) : w₁.Steady w₃ :=
  ⟨h₁.toCalmBut.trans h₂.toCalmBut, h₂.counting.trans h₁.counting,
    fun hc => (h₁.frozen hc).trans (h₂.frozen (h₁.counting.trans hc))⟩

/-- A change that has to do with neither façades nor users. -/
theorem of_eq (hj : w'.journal = w.journal) (hf : w'.facades = w.facades)
    (hi : w'.instances = w.instances) (hc : w'.counting = w.counting)
    (ho : w.objects.size ≤ w'.objects.size) : w.Steady w' :=
  ⟨CalmBut.of_eq hj hf ho, hc, fun _ => ⟨hi, by rw [hf], by rw [hj]; rfl, by rw [hj]; exact id⟩⟩

theorem note {e : Event} (h : w.Calm (w.note e)) (hl : e.isLibrary = false)
    (hc : ∀ f, e ≠ .connected f) : w.Steady (w.note e) :=
  ⟨h, rfl, fun _ => .note hl hc⟩

/-- A change of a façade that is there. -/
theorem change (w : World σ) (f : FacadeId) (change : Facade → Facade) :
    w.Steady { w with facades := w.facades.modify f (Option.map change) } := by
  have hnone : ∀ g, World.facade? { w with
      facades := w.facades.modify f (Option.map change) } g = none ↔ w.facade? g = none := by
    intro g
    rw [facade?_modify]
    split
    · rename_i he; rw [he, Option.map_eq_none_iff]
    · rfl
  have hsize : (w.facades.modify f (Option.map change)).size = w.facades.size :=
    Array.size_modify
  exact ⟨⟨fun _ => id, Nat.le_refl _, hsize.symm.le,
    fun _ _ hg => ⟨(hnone _).2 hg, id, id, id⟩,
    fun _ hlt hg => .inl ⟨hlt.trans_eq hsize, (hnone _).1 hg⟩, .inl⟩, rfl,
    fun _ => ⟨rfl, hsize, rfl, id⟩⟩

end Steady

/-- What a façade has created, and what was there before, the façade had created before. -/
theorem CalmBut.adopted_of_old {x : Option FacadeId} (h : w.CalmBut x w') {f : FacadeId}
    {o : ObjectId} (ha : .adopted f o ∈ w'.journal) (ho : w.stage? o ≠ none) :
    .adopted f o ∈ w.journal := by
  refine (h.adopted ha).resolve_right fun hle => ho ?_
  simp [stage?, Array.getElem?_eq_none hle]

namespace Accounted

theorem refl (w : World σ) : w.Accounted env w :=
  ⟨fun _ => id, fun h _ => ⟨h, .refl w⟩⟩

theorem not_disturbed (hs : w.journal ⊆ w'.journal) (h : ¬w'.Disturbed) : ¬w.Disturbed :=
  fun hd => h (hd.imp (@hs _) (@hs _))

theorem trans (h₁ : w₁.Accounted env w₂) (h₂ : w₂.Accounted env w₃) : w₁.Accounted env w₃ := by
  refine ⟨fun _ he => h₂.journal (h₁.journal he), fun hb hd => ?_⟩
  obtain ⟨hb₂, hs₁⟩ := h₁.balanced hb (not_disturbed h₂.journal hd)
  obtain ⟨hb₃, hs₂⟩ := h₂.balanced hb₂ hd
  exact ⟨hb₃, hs₁.trans hs₂⟩

end Accounted

theorem Handled.refl (w : World σ) : w.Handled env w := ⟨.refl w, rfl⟩

theorem Handled.trans (h₁ : w₁.Handled env w₂) (h₂ : w₂.Handled env w₃) : w₁.Handled env w₃ :=
  ⟨h₁.toAccounted.trans h₂.toAccounted, h₂.table.trans h₁.table⟩

end World

/-- The event does not touch the books at all. -/
def Event.isQuiet : Event → Bool
  | .connected _ | .disconnected _ | .sought _ | .closed => false
  | e => e.isMark && !e.isLibrary

theorem Event.isQuiet_report {e : Event} (h : e.isReport = true) : e.isQuiet = true := by
  cases e with
  | log | span | count => rfl
  | gauge g => cases g <;> first | rfl | cases h
  | _ => cases h

theorem Event.quiet_spec {e : Event} (he : e.isQuiet = true) :
    e.isMark = true ∧ e.isLibrary = false ∧ (∀ t, e.Due t) ∧
      ∀ f, e ≠ .connected f ∧ e ≠ .disconnected f := by
  have hb : (e.isMark && !e.isLibrary) = true := by
    cases e <;> first | exact he | cases he
  rw [Bool.and_eq_true, Bool.not_eq_true'] at hb
  refine ⟨hb.1, hb.2, fun t => ?_, fun f => ?_⟩
  · cases e <;> trivial
  · constructor <;> rintro rfl <;> cases he

namespace World

variable {σ : Type} {env : Environment σ} {w w' : World σ}

/-- An event that is due, and does not change who has a lease or an implementation. -/
theorem Balanced.mark (h : w.Balanced env) {e : Event} (hm : e.isMark = true)
    (hl : e.isLibrary = false) (hc : ∀ f, e ≠ .connected f) (hdue : e.Due w.journal)
    (hd : ∀ f, e = .disconnected f → w.facade? f = none) : (w.note e).Balanced env :=
  ⟨h.books.mark hm (by simp [hl]) hdue hd, fun hu _ hf =>
    h.connected hu ((List.mem_cons.1 hf).resolve_left (Ne.symm (hc _)))⟩

theorem handled_note (w : World σ) {e : Event} (he : e.isQuiet = true) :
    w.Handled env (w.note e) := by
  obtain ⟨hm, hl, hdue, hne⟩ := e.quiet_spec he
  refine ⟨⟨fun _ => List.mem_cons_of_mem e, fun h _ => ⟨?_, ?_⟩⟩, rfl⟩
  · exact h.mark hm hl (fun f => (hne f).1) (hdue _) fun f hf => absurd hf (hne f).2
  · exact .note (CalmBut.note_of_isMark hm fun f => (hne f).2) hl fun f => (hne f).1

theorem handled_same (hs : w.Same w') : w.Handled env w' := by
  refine ⟨⟨by rw [hs.journal]; exact fun _ => id, fun h _ => ⟨⟨h.books.same hs, ?_⟩, ?_⟩⟩, hs.table⟩
  · rw [hs.counting, hs.journal, hs.facades]
    exact h.connected
  · exact .of_eq hs.journal hs.facades hs.instances hs.counting (by rw [hs.objects])

/-- Where a call waits for itself nothing has to be accounted for any more. -/
theorem accounted_disturbed (hs : w.journal ⊆ w'.journal) (h : w'.Disturbed) :
    w.Accounted env w' := ⟨hs, fun _ hd => absurd h hd⟩

end World

namespace Act

open World

variable {σ α β : Type} {env : Environment σ}

/-- The action is accounted for where it has its triple (module doc). -/
structure Fair (env : Environment σ) (before : List Ref) (a : Act σ α)
    (after : α → List Ref) : Prop where
  triple : Triple before a after
  handled : ∀ ⦃w : World σ⦄ ⦃ps : List Ref⦄, w.Orderly → w.pins = before ++ ps →
    w.Handled env (a w).2

namespace Fair

variable {ps qs rs : List Ref} {a : Act σ α} {after : α → List Ref}

/-- An action that runs after others. -/
theorem follow {v w : World σ} (ha : Fair env ps a after) (h : v.Reaches (ps ++ qs) w)
    (hv : v.Handled env w) : v.Handled env (a w).2 :=
  hv.trans (ha.handled h.orderly h.pins_eq)

theorem ret_of {x : α} (after : α → List Ref) (h : after x = ps) :
    Fair env ps (pure x : Act σ α) after :=
  ⟨.ret_of after h, fun w _ _ _ => .refl w⟩

theorem ret (x : α) : Fair env ps (pure x : Act σ α) fun _ => ps := .ret_of _ rfl

theorem bind {f : α → Act σ β} {last : β → List Ref} (ha : Fair env ps a after)
    (hf : ∀ x, Fair env (after x) (f x) last) : Fair env ps (a >>= f) last :=
  ⟨ha.triple.bind fun x => (hf x).triple,
    fun w _ hw hp => (hf (a w).1).follow (ha.triple hw hp) (ha.handled hw hp)⟩

/-- What calls further out hold stays as it is. -/
theorem frame (h : Fair env ps a after) (qs : List Ref) :
    Fair env (ps ++ qs) a fun x => after x ++ qs :=
  ⟨h.triple.frame qs, fun _ _ hw hp => h.handled hw (hp.trans (List.append_assoc _ _ _))⟩

/-- An action that leaves the holds of running calls as they are may be used in any place. -/
theorem keep (h : Fair env [] a fun _ => []) (ps : List Ref) : Fair env ps a fun _ => ps :=
  h.frame ps

theorem of_same (h : ∀ w : World σ, w.Same (a w).2) : Fair env ps a fun _ => ps :=
  ⟨.of_unmoved fun w => (h w).unmoved, fun w _ _ _ => handled_same (h w)⟩

/-- A read of the state, where what is read does not matter. -/
theorem read {f : World σ → Act σ α} (h : ∀ w, Fair env ps (f w) after) :
    Fair env ps (get >>= f) after :=
  ⟨.read fun w => (h w).triple, fun w _ hw hp => (h w).handled hw hp⟩

end Fair

/-- What is accounted for in every world may come last. -/
theorem handled_bind {v w : World σ} {a : Act σ α} {f : α → Act σ β}
    (h : v.Handled env (a w).2) (hf : ∀ x w, World.Handled env w (f x w).2) :
    v.Handled env ((a >>= f) w).2 :=
  h.trans (hf _ _)

/-! ## Reports -/

theorem emit_fair (ps : List Ref) {e : Event} (hc : ∀ o, e.concerns o = false)
    (hq : e.isQuiet = true) : Fair env ps (emit e : Act σ Unit) fun _ => ps :=
  ⟨emit_triple ps hc, fun w _ _ _ => handled_note w hq⟩

theorem log_fair (ps : List Ref) (severity : Severity) (text : String) :
    Fair env ps (log severity text : Act σ Unit) fun _ => ps :=
  emit_fair ps (fun _ => rfl) rfl

theorem count_fair (ps : List Ref) (counter : Counter) :
    Fair env ps (count counter : Act σ Unit) fun _ => ps :=
  emit_fair ps (fun _ => rfl) rfl

end Act

/-! ## Code of others -/

open Act World

variable {σ α : Type}

/-- The dispatcher answers each request of code of others fairly. -/
def Host.Fair (host : Host σ) : Prop :=
  ∀ r, Act.Fair host.env [] (host.serve r) fun _ => []

theorem Foreign.run_fair {env : Environment σ} {serve : Request → Act σ Reply}
    (hs : ∀ r, Act.Fair env [] (serve r) fun _ => []) (code : Foreign σ α) :
    Act.Fair env [] (code.run serve) fun _ => [] := by
  -- As for triples: the memory is not in the books, and each reply is fair.
  induction code with
  | done memory x =>
    exact (Act.Fair.of_same fun _ => ⟨rfl, rfl, rfl, rfl, rfl, rfl, rfl, rfl⟩).bind
      fun _ => .ret x
  | ask memory request resume ih =>
    refine (Act.Fair.of_same fun _ => ⟨rfl, rfl, rfl, rfl, rfl, rfl, rfl, rfl⟩).bind
      fun _ => ?_
    exact (hs request).bind fun reply => .read fun w => ih w.memory reply

namespace Host.Fair

variable {host : Host σ} (hf : host.Fair)

include hf

theorem tidy : host.Tidy := fun r => (hf r).triple

theorem runForeign (ps : List Ref) (code : σ → Foreign σ α) :
    Act.Fair host.env ps (host.runForeign code) fun _ => ps :=
  .keep (.read fun w => Foreign.run_fair hf (code w.memory)) ps

/-- A call of an object is accounted for, whoever holds it. -/
theorem invoke_handled {w : World σ} (hw : w.Orderly) (o : ObjectId) (m : Method)
    (succeeded : α → Bool) (code : σ → Foreign σ α) :
    w.Handled host.env (host.invoke o m succeeded code w).2 := by
  have hw₁ : (w.note (.began o m)).Orderly := hw.same rfl rfl rfl rfl rfl
  exact ((handled_note w rfl).trans ((hf.runForeign [] code).handled hw₁ rfl)).trans
    (handled_note _ rfl)

/-- A call of an object that the caller holds. -/
theorem invoke {o : ObjectId} {m : Method} (hi : m ≠ .init) (hd : m ≠ .deinit)
    (succeeded : α → Bool) (code : σ → Foreign σ α) :
    Act.Fair host.env [.object o] (host.invoke o m succeeded code) fun _ => [.object o] :=
  ⟨hf.tidy.invoke hi hd succeeded code, fun _ _ hw _ => hf.invoke_handled hw o m succeeded code⟩

/-- What only reports and lets code of others run is fair. -/
theorem plain {a : Act σ α} (h : host.Plain a) (ps : List Ref) :
    Act.Fair host.env ps a fun _ => ps := by
  induction h with
  | ret x => exact .ret x
  | bind _ _ iha ihf => exact iha.bind ihf
  | read _ ih => exact .read ih
  | change hs => exact .of_same hs
  | report h => exact emit_fair ps (Event.concerns_report h) (Event.isQuiet_report h)
  | foreign code => exact hf.runForeign ps code

end Host.Fair

end ImageDispatch
