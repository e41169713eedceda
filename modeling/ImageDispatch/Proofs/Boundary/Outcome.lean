import ImageDispatch.Proofs.Instance.PartialMap
import ImageDispatch.Proofs.Leases.Entry

/-!
# What callers in C are answered

* `Host.Fair.createInstance_created`: an instance is created if its level is known and the table has
  room. The id is new, and leads to a façade of the family.
* `Host.Fair.destroyInstance_destroyed`: an instance is destroyed if the id leads to a façade of the
  family.
* `Host.Fair.processImage_processed`: only such an id lets a façade work. The table stays as it is.

What is said of the table holds whatever the code of others does.
-/

namespace ImageDispatch

open Act World

variable {σ : Type}

/-! ## Families -/

namespace InstanceFamily

/-- The family has façades of the kind. -/
def has : InstanceFamily → FacadeKind → Bool
  | converter, .converter | metadata, .metadata | detail, .detail | detail, .videoDetail
  | hdr, .hdr => true
  | _, _ => false

/-- The level makes sense for the family: only the detail enhancers have levels. -/
def knowsLevel : InstanceFamily → Int32 → Bool
  | detail, level => (DetailLevel.ofRaw? level.toInt).isSome
  | _, _ => true

/-- A family is told by its name. -/
theorem has_eq_true (family : InstanceFamily) (kind : FacadeKind) :
    family.has kind = true ↔ kind.family = family.name := by
  cases family <;> cases kind <;> decide

end InstanceFamily

theorem kindFor_unknown {family : InstanceFamily} {level : Int32}
    (h : family.knowsLevel level = false) :
    ∃ e : Error, Host.kindFor family level = .error e ∧ e.status = .invalidVal := by
  cases family with
  | detail =>
    have hnone : DetailLevel.ofRaw? level.toInt = none := by
      simpa [InstanceFamily.knowsLevel] using h
    exact ⟨_, by rw [Host.kindFor, hnone], rfl⟩
  | _ => cases h

theorem kindFor_known {family : InstanceFamily} {level : Int32}
    (h : family.knowsLevel level = true) :
    ∃ kind p, Host.kindFor family level = .ok (kind, p) ∧ family.has kind = true := by
  cases family with
  | detail =>
    obtain ⟨l, hl⟩ := Option.isSome_iff_exists.1 h
    refine ⟨if l = .video then .videoDetail else .detail, some (.detail { level := l }),
      by rw [Host.kindFor, hl], ?_⟩
    split <;> rfl
  | _ => exact ⟨_, none, rfl, rfl⟩

/-! ## Reports -/

/-- Nothing has happened but that something was noted. -/
structure World.Told (w w' : World σ) : Prop where
  journal : w.journal ⊆ w'.journal
  objects : w'.objects = w.objects
  facades : w'.facades = w.facades
  held : w'.held = w.held
  instances : w'.instances = w.instances
  table : w'.table = w.table

namespace World.Told

variable {w w₁ w₂ w' : World σ}

theorem refl (w : World σ) : w.Told w := ⟨fun _ => id, rfl, rfl, rfl, rfl, rfl⟩

theorem trans (h₁ : w.Told w₁) (h₂ : w₁.Told w₂) : w.Told w₂ :=
  ⟨fun _ he => h₂.journal (h₁.journal he), h₂.objects.trans h₁.objects,
    h₂.facades.trans h₁.facades, h₂.held.trans h₁.held, h₂.instances.trans h₁.instances,
    h₂.table.trans h₁.table⟩

theorem facade? (h : w.Told w') (f : FacadeId) : w'.facade? f = w.facade? f := by
  rw [World.facade?, World.facade?, h.facades]

theorem behind? (h : w.Told w') (id : Int32) : w'.behind? id = w.behind? id := by
  rw [World.behind?, World.behind?, h.table, show w'.facade? = w.facade? from funext h.facade?]

end World.Told

theorem emit_told (e : Event) (w : World σ) : w.Told (emit e w).2 :=
  ⟨fun _ => .tail _, rfl, rfl, rfl, rfl, rfl⟩

theorem forM_emit_told : (es : List Event) → (w : World σ) →
    w.Told ((es.forM emit : Act σ Unit) w).2
  | [], w => .refl w
  | e :: es, w => (emit_told e w).trans (forM_emit_told es _)

theorem begin_told (announcement : List Event) (w : World σ) :
    w.Told (Host.begin announcement w).2 := by
  unfold Host.begin
  rw [get_run]
  split
  · have hs : w.Told { w with started := true } :=
      ⟨fun _ => id, rfl, rfl, rfl, rfl, rfl⟩
    exact hs.trans (forM_emit_told announcement _)
  · exact .refl w

/-- The status code tells the outcome, and nothing else happens. -/
theorem status_told (r : Except Error Unit) (w : World σ) :
    (Host.status r w).1 = Status.ofOutcome r ∧ w.Told (Host.status r w).2 := by
  cases r with
  | ok => exact ⟨rfl, .refl w⟩
  | error e => exact ⟨rfl, emit_told _ w⟩

/-! ## A façade is made -/

/-- A parameter leaves a façade where it is. -/
theorem setParameter_there (f : FacadeId) (p : Parameter) {w : World σ} {facade : Facade}
    (h : w.facade? f = some facade) : ∃ facade',
      (Host.setParameter f p w).2.facade? f = some facade' ∧ facade'.kind = facade.kind := by
  unfold Host.setParameter
  rw [facade?_run, h]
  dsimp only
  split
  · cases ha : facade.accept p with
    | error e => exact ⟨facade, h, rfl⟩
    | ok facade' =>
      exact ⟨facade', facade?_modify_self h fun _ => facade', by rw [Facade.accept_ok ha]⟩
  · exact ⟨facade, h, rfl⟩

/-- A façade that was made is there, and has not done anything. -/
theorem makeFacade_new (host : Host σ) (kind : FacadeKind) (w : World σ) :
    (host.makeFacade kind w).2.facade? (host.makeFacade kind w).1 =
      some (.new kind host.env.config.cachePolicy) := by
  have entered : ∀ v : World σ, (host.enter kind v).2.facade? (host.enter kind v).1 =
      some (.new kind host.env.config.cachePolicy) :=
    fun v => (facade?_push _ _ _ _).trans (if_pos rfl)
  unfold Host.makeFacade
  split
  · exact entered _
  · exact entered w

theorem makeFacade_there (host : Host σ) (kind : FacadeKind) (w : World σ) : ∃ facade,
    (host.makeFacade kind w).2.facade? (host.makeFacade kind w).1 = some facade ∧
      facade.kind = kind := ⟨_, makeFacade_new host kind w, rfl⟩

namespace Host.Fair

variable {host : Host σ} (hf : host.Fair)

include hf

/-- A façade that the running call has held since `w` is stored, or goes away if the table is
full. -/
theorem enroll_outcome {w v : World σ} {f : FacadeId} (family : String) (hw : w.Orderly)
    (hr : w.Reaches (.facade f :: w.pins) v) (h : w.Handled host.env v) :
    (w.table.insert f = .error .instanceTableFull ∧
        (host.enroll f family v).1 = .error .instanceTableFull ∧
        (host.enroll f family v).2.table = w.table) ∨
      ∃ id, w.table.insert f = .ok (id, (host.enroll f family v).2.table) ∧
        (host.enroll f family v).1 = .ok id ∧
        (host.enroll f family v).2.facades = v.facades ∧
        v.journal ⊆ (host.enroll f family v).2.journal := by
  cases hi : v.table.insert f with
  | error e =>
    obtain ⟨hr, hh⟩ := hf.enroll_full hw hr h family hi
    rw [h.table] at hi
    cases (InstanceTable.insert_error hi).1
    exact .inl ⟨hi, hr, hh.table⟩
  | ok x =>
    obtain ⟨id, table⟩ := x
    rw [enroll_room family hi]
    rw [h.table] at hi
    exact .inr ⟨id, hi, rfl, rfl, fun _ he => .tail _ (.tail _ he)⟩

/-- A façade of the family is made, if the level is known. It is stored, or goes away if the table
is full. -/
theorem createOutcome_known {family : InstanceFamily} {level : Int32}
    (hk : family.knowsLevel level = true) {w : World σ} (hw : w.Orderly) :
    ∃ f, (w.table.insert f = .error .instanceTableFull ∧
        (host.createOutcome family level w).1 = .error .instanceTableFull ∧
        (host.createOutcome family level w).2.table = w.table) ∨
      ∃ id facade, w.table.insert f = .ok (id, (host.createOutcome family level w).2.table) ∧
        (host.createOutcome family level w).1 = .ok id ∧
        (host.createOutcome family level w).2.facade? f = some facade ∧
        family.has facade.kind = true ∧
        (w.Balanced host.env → ¬(host.createOutcome family level w).2.Disturbed →
          w.facades.size ≤ f) := by
  obtain ⟨kind, p, hkind, hhas⟩ := kindFor_known hk
  have hm := hf.makeFacade kind
  have hr : w.Reaches (.facade (host.makeFacade kind w).1 :: w.pins) (host.makeFacade kind w).2 :=
    hm.triple hw rfl
  have hh := hm.handled hw rfl
  have hfresh := fun hb => hf.makeFacade_entered kind hw hb
  obtain ⟨facade, hthere, hfkind⟩ := makeFacade_there host kind w
  -- Its parameter may be set before it is stored.
  obtain ⟨v, facade', hrun, hr', hh', hthere', hfkind', hj⟩ : ∃ v facade',
      host.createOutcome family level w =
        host.enroll (host.makeFacade kind w).1 family.name v ∧
      w.Reaches (.facade (host.makeFacade kind w).1 :: w.pins) v ∧ w.Handled host.env v ∧
      v.facade? (host.makeFacade kind w).1 = some facade' ∧ facade'.kind = kind ∧
      (host.makeFacade kind w).2.journal ⊆ v.journal := by
    unfold Host.createOutcome
    rw [hkind]
    cases p with
    | none => exact ⟨_, facade, rfl, hr, hh, hthere, hfkind, fun _ => id⟩
    | some p =>
      obtain ⟨facade', hthere', hfkind'⟩ := setParameter_there _ p hthere
      have set : Act.Fair host.env [.facade (host.makeFacade kind w).1]
          (Host.setParameter (host.makeFacade kind w).1 p) _ := setParameter_fair _ _ p
      exact ⟨_, facade', rfl, set.triple.follow hr, set.follow hr hh, hthere',
        hfkind'.trans hfkind, (set.handled hr.orderly hr.pins_eq).journal⟩
  refine ⟨(host.makeFacade kind w).1, ?_⟩
  rw [hrun]
  refine (hf.enroll_outcome family.name hw hr' hh').imp_right ?_
  rintro ⟨id, hi, hid, hfacades, hj'⟩
  refine ⟨id, facade', hi, hid, ?_, hfkind' ▸ hhas, fun hb hd => ?_⟩
  · rw [World.facade?, hfacades]
    exact hthere'
  · exact (hfresh hb (Accounted.not_disturbed (fun _ he => hj' (hj he)) hd)).fresh

omit hf in
/-- A level that is not known leaves everything as it is. -/
theorem createOutcome_unknown {family : InstanceFamily} {level : Int32}
    (hk : family.knowsLevel level = false) (w : World σ) :
    ∃ e, host.createOutcome family level w = (.error e, w) ∧ e.status = .invalidVal := by
  obtain ⟨e, hkind, he⟩ := kindFor_unknown hk
  refine ⟨e, ?_, he⟩
  unfold Host.createOutcome
  rw [hkind]
  rfl

end Host.Fair

/-! ## Entry points -/

/-- What a caller in C gets that creates an instance: the status, the number behind the pointer and
the world afterwards. -/
structure Created (env : Environment σ) (family : InstanceFamily) (level : Int32) (w : World σ)
    (status : Status) (id : Int32) (w' : World σ) : Prop where
  /-- An unknown level is invalid. -/
  unknown : family.knowsLevel level = false →
    status = .invalidVal ∧ id = -1 ∧ w'.table = w.table
  /-- There is no room for an instance if the table is full. -/
  full : family.knowsLevel level = true → w.table.handles.length = slotCount →
    status = .noMemory ∧ id = -1 ∧ w'.table = w.table
  /-- Otherwise the id is new, and leads to a new façade of the family. -/
  stored : family.knowsLevel level = true → w.table.handles.length ≠ slotCount →
    status = .ok ∧ ∃ f kind, w.table.insert f = .ok (id, w'.table) ∧
      w'.behind? id = some (f, kind) ∧ family.has kind = true ∧
      (w.Balanced env → ¬w'.Disturbed → w.facades.size ≤ f)

/-- What a caller in C gets that destroys an instance. -/
structure Destroyed (family : InstanceFamily) (id : Int32) (w : World σ) (status : Status)
    (id' : Int32) (w' : World σ) : Prop where
  /-- An id that does not lead to a façade of the family is invalid, and stays. -/
  refused : (∀ f kind, w.behind? id = some (f, kind) → family.has kind = false) →
    status = .invalidVal ∧ id' = id ∧ w'.table = w.table
  taken : ∀ f kind, w.behind? id = some (f, kind) → family.has kind = true →
    status = .ok ∧ id' = -1 ∧ w.table.remove id = .ok (f, w'.table)

/-- What a caller in C gets that lets an instance work. -/
structure Processed (family : InstanceFamily) (id : Int32) (output : Option ImageDescriptor)
    (w : World σ) (status : Status) (output' : Option ImageDescriptor) (w' : World σ) : Prop where
  /-- An id that does not lead to a façade of the family is invalid, and nothing happens. -/
  refused : (∀ f kind, w.behind? id = some (f, kind) → family.has kind = false) →
    status = .invalidVal ∧ output' = output ∧ w.Told w'
  table : w'.table = w.table

namespace Host.Fair

variable {host : Host σ} (hf : host.Fair)

include hf

omit hf in
/-- An instance is created after callers in C have started. The id tells whether that went well. -/
theorem createInstance_run (announcement : List Event) (family : InstanceFamily)
    (level number : Int32) (w : World σ) : ∃ w',
      (host.createOutcome family level (Host.begin announcement w).2).2.Told w' ∧
      host.createInstance announcement family level (some number) w =
        ((Status.ofOutcome (host.createOutcome family level (Host.begin announcement w).2).1,
          some ((host.createOutcome family level
            (Host.begin announcement w).2).1.toOption.getD (-1))), w') := by
  unfold Host.createInstance
  dsimp only
  rw [bind_run, bind_run]
  generalize host.createOutcome family level (Host.begin announcement w).2 = x
  obtain ⟨r, u⟩ := x
  cases r with
  | ok id => exact ⟨u, .refl u, rfl⟩
  | error e => exact ⟨_, (status_told (.error e) u).2, rfl⟩

theorem createInstance_created (settings : Option (String → Option String))
    (family : InstanceFamily) (level number : Int32) {w : World σ} (hw : w.Orderly) :
    ∃ status id w', host.createInstance (opening settings) family level (some number) w =
      ((status, some id), w') ∧ Created host.env family level w status id w' := by
  obtain ⟨w', htold, hrun⟩ : ∃ w', _ ∧ host.createInstance (opening settings) family level
      (some number) w = _ := createInstance_run (opening settings) family level number w
  refine ⟨_, _, w', hrun, ?_⟩
  have hb := begin_told (opening settings) w
  have hacc := hf.begin settings
  have hu := (hacc.triple hw rfl).orderly
  have ha := hacc.accounted hw
  generalize (Host.begin (opening settings) w).2 = u at htold hb hu ha
  have hj := ((hf.createOutcome family level).accounted hu).journal
  cases hk : family.knowsLevel level with
  | false =>
    obtain ⟨e, he, hs⟩ := createOutcome_unknown hk u
    rw [he] at htold ⊢
    exact ⟨fun _ => ⟨hs, rfl, htold.table.trans hb.table⟩,
      fun h => absurd (hk.symm.trans h) (by simp), fun h => absurd (hk.symm.trans h) (by simp)⟩
  | true =>
    obtain ⟨f, ⟨hi, hr, ht⟩ | ⟨id, facade, hi, hr, hthere, hhas, hfresh⟩⟩ :=
      hf.createOutcome_known hk hu
    all_goals
      rw [hb.table] at hi
      rw [hr]
    · have hfull := InstanceTable.full_of_insert hi
      exact ⟨fun h => absurd (hk.symm.trans h) (by simp),
        fun _ _ => ⟨rfl, rfl, htold.table.trans (ht.trans hb.table)⟩,
        fun _ hroom => absurd hfull hroom⟩
    · have hroom := InstanceTable.room_of_insert hi
      refine ⟨fun h => absurd (hk.symm.trans h) (by simp), fun _ hfull => absurd hfull hroom,
        fun _ _ => ⟨rfl, f, facade.kind, ?_, ?_, hhas, fun hbal hd => ?_⟩⟩
      · rw [htold.table]
        exact hi
      · rw [htold.behind?]
        exact behind?_eq_some.2 ⟨(InstanceTable.get?_insert hi id).trans (if_pos rfl), facade,
          hthere, rfl⟩
      · have hd' := Accounted.not_disturbed htold.journal hd
        rw [← hb.facades]
        exact hfresh (ha.balanced hbal (Accounted.not_disturbed hj hd')).1 hd'

/-- An instance is destroyed after callers in C have started. -/
theorem destroyInstance_destroyed (settings : Option (String → Option String))
    (family : InstanceFamily) (id : Int32) {w : World σ} (hw : w.Orderly) :
    ∃ status id' w', host.destroyInstance (opening settings) family (some id) w =
      ((status, some id'), w') ∧ Destroyed family id w status id' w' := by
  have hb := begin_told (opening settings) w
  have hu := ((hf.begin settings).triple hw rfl).orderly
  unfold Host.destroyInstance
  dsimp only
  rw [bind_run]
  generalize (Host.begin (opening settings) w).2 = u at hb hu
  obtain ⟨hrefused, htaken⟩ := hf.retire_outcome id family.name hu
  rw [bind_run]
  generalize host.retire id family.name u = x at hrefused htaken
  obtain ⟨r, v⟩ := x
  obtain ⟨hs, htold⟩ := status_told r v
  refine ⟨_, _, _, rfl, ?_, ?_⟩
  · intro h
    obtain ⟨hr, hh⟩ := hrefused fun f kind hbehind hk => by
      rw [hb.behind?] at hbehind
      cases (h f kind hbehind).symm.trans ((family.has_eq_true kind).2 hk)
    cases hr
    exact ⟨hs, rfl, htold.table.trans (hh.table.trans hb.table)⟩
  · intro f kind hbehind hk
    obtain ⟨table, ht, hr, hh⟩ := htaken f kind (by rw [hb.behind?]; exact hbehind)
      ((family.has_eq_true kind).1 hk)
    cases hr
    refine ⟨hs, rfl, ?_⟩
    rw [← hb.table, ht]
    exact congrArg _ (congrArg _ (htold.table.trans hh.table).symm)

theorem processImage_processed (settings : Option (String → Option String))
    (family : InstanceFamily) (id : Int32) (input output : Option ImageDescriptor) {w : World σ}
    (hw : w.Orderly) :
    Processed family id output w (host.processImage (opening settings) family id input output w).1.1
      (host.processImage (opening settings) family id input output w).1.2
      (host.processImage (opening settings) family id input output w).2 := by
  refine ⟨fun h => ?_, ((hf.processImage settings family id input output).handled hw rfl).table⟩
  have hb := begin_told (opening settings) w
  have hrun : host.processOutcome family id input output (Host.begin (opening settings) w).2 =
      ((.error (.invalidInstance id), output), (Host.begin (opening settings) w).2) := by
    unfold Host.processOutcome
    rw [bind_run, Host.lookUp_run, hb.behind?]
    cases hbehind : w.behind? id with
    | none => rfl
    | some x =>
      obtain ⟨f, kind⟩ := x
      have hk : kind.family ≠ family.name := fun hk => by
        cases (h f kind hbehind).symm.trans ((family.has_eq_true kind).2 hk)
      dsimp only [Option.elim_some]
      rw [if_pos hk]
      rfl
  obtain ⟨hs, htold⟩ :=
    status_told (.error (.invalidInstance id)) (Host.begin (opening settings) w).2
  unfold Host.processImage
  rw [bind_run, bind_run, hrun]
  exact ⟨hs, rfl, hb.trans htold⟩

end Host.Fair

end ImageDispatch
