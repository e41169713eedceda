import ImageDispatch.Proofs.Boundary.Outcome
import ImageDispatch.Proofs.Leases.Run

/-!
# Runs of callers in C

* `BoundaryCall.table_cases`: a call leaves the instance table alone, stores a new façade, or takes
  one out.
* `World.Shelved`: the table counts its handles, and no façade is stored twice. Calls keep this.
* `World.InStep`: the table, the users of the vendor library and the connections to the bootstrap
  service tell the same, if only the table holds façades (`World.Rest.inStep`).
* `boundary_inStep`: this is so after every run of callers in C, and what the next call does.
-/

namespace ImageDispatch

open Act World

variable {σ : Type} {env : Environment σ}

/-! ## Calls -/

/-- A call of a caller in C. -/
inductive BoundaryCall
  | create (family : InstanceFamily) (level : Int32) (pointer : Option Int32)
  | process (family : InstanceFamily) (id : Int32) (input output : Option ImageDescriptor)
  | destroy (family : InstanceFamily) (pointer : Option Int32)

namespace BoundaryCall

/-- Makes the call, and answers with its status code. -/
def take (host : Host σ) (settings : Option (String → Option String)) :
    BoundaryCall → Act σ Status
  | create family level pointer =>
    Prod.fst <$> host.createInstance (opening settings) family level pointer
  | process family id input output =>
    Prod.fst <$> host.processImage (opening settings) family id input output
  | destroy family pointer => Prod.fst <$> host.destroyInstance (opening settings) family pointer

/-- The call with this status code has created an instance. -/
def creates : BoundaryCall → Status → Bool
  | create .., status => status.isOk
  | _, _ => false

/-- The call with this status code has destroyed an instance. -/
def destroys : BoundaryCall → Status → Bool
  | destroy .., status => status.isOk
  | _, _ => false

end BoundaryCall

/-- The status codes of calls to a dispatcher that is new, and the world after them. The dispatcher
answers requests from within to a depth. -/
def World.afterCalls (env : Environment σ) (depth : Nat)
    (settings : Option (String → Option String)) (memory : σ) (calls : List BoundaryCall) :
    List Status × World σ :=
  (calls.mapM fun call : BoundaryCall => call.take (Host.nested env depth) settings) { memory }

namespace BoundaryCall

variable {host : Host σ} (hf : host.Fair)

include hf

theorem accounts (settings : Option (String → Option String)) (call : BoundaryCall) :
    Accounts host.env (call.take host settings) := by
  cases call with
  | create family level pointer => exact (hf.createInstance settings family level pointer).map
  | process family id input output =>
    exact (hf.processImage settings family id input output).accounts.map
  | destroy family pointer => exact (hf.destroyInstance settings family pointer).map

/-- What a call does to the table. -/
theorem table_cases (settings : Option (String → Option String)) (call : BoundaryCall) {w : World σ}
    (hw : w.Orderly) :
    (call.creates (call.take host settings w).1 = false ∧
        call.destroys (call.take host settings w).1 = false ∧
        (call.take host settings w).2.table = w.table) ∨
      (call.creates (call.take host settings w).1 = true ∧
        call.destroys (call.take host settings w).1 = false ∧
        ∃ f id, w.table.insert f = .ok (id, (call.take host settings w).2.table) ∧
          (w.Balanced host.env → ¬(call.take host settings w).2.Disturbed →
            w.facades.size ≤ f)) ∨
      (call.creates (call.take host settings w).1 = false ∧
        call.destroys (call.take host settings w).1 = true ∧
        ∃ id f, w.table.remove id = .ok (f, (call.take host settings w).2.table)) := by
  cases call with
  | create family level pointer =>
    cases pointer with
    | none => exact .inl ⟨rfl, rfl, rfl⟩
    | some number =>
      obtain ⟨status, id, w', hrun, h⟩ := hf.createInstance_created settings family level number hw
      have htake : (create family level (some number)).take host settings w = (status, w') :=
        Act.map_of_run hrun
      rw [htake]
      cases hk : family.knowsLevel level with
      | false =>
        obtain ⟨rfl, -, ht⟩ := h.unknown hk
        exact .inl ⟨rfl, rfl, ht⟩
      | true =>
        by_cases hfull : w.table.handles.length = slotCount
        · obtain ⟨rfl, -, ht⟩ := h.full hk hfull
          exact .inl ⟨rfl, rfl, ht⟩
        · obtain ⟨rfl, f, kind, hi, -, -, hfresh⟩ := h.stored hk hfull
          exact .inr (.inl ⟨rfl, rfl, f, id, hi, hfresh⟩)
  | process family id input output =>
    exact .inl ⟨rfl, rfl, (hf.processImage_processed settings family id input output hw).table⟩
  | destroy family pointer =>
    cases pointer with
    | none => exact .inl ⟨rfl, rfl, rfl⟩
    | some id =>
      obtain ⟨status, id', w', hrun, h⟩ := hf.destroyInstance_destroyed settings family id hw
      have htake : (destroy family (some id)).take host settings w = (status, w') :=
        Act.map_of_run hrun
      rw [htake]
      by_cases hk : ∀ f kind, w.behind? id = some (f, kind) → family.has kind = false
      · obtain ⟨rfl, -, ht⟩ := h.refused hk
        exact .inl ⟨rfl, rfl, ht⟩
      · push Not at hk
        obtain ⟨f, kind, hb, hk⟩ := hk
        obtain ⟨rfl, -, ht⟩ := h.taken f kind hb (by simpa using hk)
        exact .inr (.inr ⟨rfl, rfl, id, f, ht⟩)

end BoundaryCall

/-! ## The table -/

/-- The table counts its handles, and no façade is stored twice (module doc). -/
structure InstanceTable.Shelved (t : InstanceTable FacadeId) : Prop where
  used : t.used = t.handles.length
  inj : ∀ {id id' f}, t.get? id = some f → t.get? id' = some f → id = id'

namespace InstanceTable.Shelved

variable {t t' : InstanceTable FacadeId} {f : FacadeId} {id : Int32}

theorem empty : Shelved .empty where
  used := by rw [handles_empty]; rfl
  inj h _ := by
    have hm := mem_handles_iff_get?.2 ⟨_, h⟩
    rw [handles_empty] at hm
    cases hm

theorem insert (h : t.Shelved) (hi : t.insert f = .ok (id, t')) (hf : f ∉ t.handles) :
    t'.Shelved := by
  obtain ⟨-, -, -, -, -, hused⟩ := insert_ok hi
  have hget := get?_insert hi
  have old : ∀ {id' g}, t'.get? id' = some g → id' ≠ id → t.get? id' = some g := by
    intro id' g hg hne
    rwa [hget, if_neg hne] at hg
  have new : ∀ {g}, t'.get? id = some g → g = f := by
    intro g hg
    rw [hget, if_pos rfl] at hg
    exact (Option.some.inj hg).symm
  refine ⟨by rw [hused, length_handles_insert hi, h.used], fun {x y g} hx hy => ?_⟩
  by_cases hxi : x = id <;> by_cases hyi : y = id
  · rw [hxi, hyi]
  · cases new (hxi ▸ hx)
    exact absurd (mem_handles_iff_get?.2 ⟨_, old hy hyi⟩) hf
  · cases new (hyi ▸ hy)
    exact absurd (mem_handles_iff_get?.2 ⟨_, old hx hxi⟩) hf
  · exact h.inj (old hx hxi) (old hy hyi)

theorem remove (h : t.Shelved) (hr : t.remove id = .ok (f, t')) : t'.Shelved := by
  obtain ⟨-, -, -, -, -, hused⟩ := remove_ok hr
  have hlen := length_handles_remove hr
  have old : ∀ {id' g}, t'.get? id' = some g → t.get? id' = some g := by
    intro id' g hg
    rw [get?_remove hr] at hg
    split at hg
    · cases hg
    · exact hg
  exact ⟨by rw [hused, h.used]; omega, fun hx hy => h.inj (old hx) (old hy)⟩

end InstanceTable.Shelved

/-! ## Runs -/

namespace BoundaryCall

variable {host : Host σ} (hf : host.Fair)

include hf

/-- A call keeps a table in which no façade is stored twice, and an instance more or less is what
its status tells. -/
theorem shelved_take (settings : Option (String → Option String)) (call : BoundaryCall)
    {w : World σ} (h : w.Rest host.env) (hs : w.table.Shelved)
    (hd : ¬(call.take host settings w).2.Disturbed) :
    (call.take host settings w).2.table.Shelved ∧
      (call.take host settings w).2.table.handles.length +
          (call.destroys (call.take host settings w).1).toNat =
        w.table.handles.length + (call.creates (call.take host settings w).1).toNat := by
  rcases call.table_cases hf settings h.orderly with
    ⟨hc, hx, ht⟩ | ⟨hc, hx, f, id, hi, hfresh⟩ | ⟨hc, hx, id, f, hr⟩ <;> rw [hc, hx]
  · rw [ht]
    exact ⟨hs, rfl⟩
  · have hnew : f ∉ w.table.handles := fun hm => by
      obtain ⟨facade, hfacade⟩ := Option.ne_none_iff_exists'.1 (h.balanced.stored hm)
      have hlt := h.balanced.books.known (h.balanced.books.standing hfacade).founded
      exact absurd (hfresh h.balanced hd) (Nat.not_le.2 hlt)
    exact ⟨hs.insert hi hnew, InstanceTable.length_handles_insert hi⟩
  · exact ⟨hs.remove hr, InstanceTable.length_handles_remove hr⟩

/-- What holds after calls that start in a world between calls. -/
theorem shelved_run (settings : Option (String → Option String)) :
    (calls : List BoundaryCall) → {w : World σ} → w.Rest host.env → w.table.Shelved →
      ¬(calls.mapM (fun call => call.take host settings) w).2.Disturbed →
      (calls.mapM (fun call => call.take host settings) w).2.Rest host.env ∧
        (calls.mapM (fun call => call.take host settings) w).2.table.Shelved ∧
        (calls.mapM (fun call => call.take host settings) w).2.table.handles.length +
            (calls.zip (calls.mapM (fun call => call.take host settings) w).1).countP
              (fun x => x.1.destroys x.2) =
          w.table.handles.length +
            (calls.zip (calls.mapM (fun call => call.take host settings) w).1).countP
              (fun x => x.1.creates x.2)
  | [], w, h, hs, hd => ⟨h, hs, rfl⟩
  | call :: calls, w, h, hs, hd => by
    have hacc := call.accounts hf settings
    have ha := hacc.accounted h.orderly
    have hr := hacc.triple h.orderly h.pins
    have hrun : (call :: calls).mapM (fun call => call.take host settings) w =
        ((call.take host settings w).1 ::
          (calls.mapM (fun call => call.take host settings) (call.take host settings w).2).1,
        (calls.mapM (fun call => call.take host settings) (call.take host settings w).2).2) := by
      rw [List.mapM_cons]
      rfl
    have hrest := Accounts.mapM (fun call : BoundaryCall => call.accounts hf settings) calls
    rw [hrun] at hd ⊢
    have hd₁ := Accounted.not_disturbed (hrest.accounted hr.orderly).journal hd
    have h₁ := h.accounted hr ha hd₁
    obtain ⟨hs₁, hcount⟩ := call.shelved_take hf settings h hs hd₁
    obtain ⟨h₂, hs₂, hcount₂⟩ := shelved_run settings calls h₁ hs₁ hd
    refine ⟨h₂, hs₂, ?_⟩
    rw [List.zip_cons_cons, List.countP_cons, List.countP_cons]
    generalize call.creates (call.take host settings w).1 = c at hcount ⊢
    generalize call.destroys (call.take host settings w).1 = d at hcount ⊢
    cases c <;> cases d <;> simp at hcount ⊢ <;> omega

end BoundaryCall

/-! ## The books in step -/

/-- Nothing but the table holds façades, and nobody else uses the vendor library. -/
structure World.Unshared (w : World σ) : Prop where
  held : ∀ r ∈ w.held, ∃ o, r = .object o
  counted : .tallied true ∉ w.journal

/-- The id leads to a detail enhancer or to an HDR enhancer. -/
def World.isEnhancer (w : World σ) (id : Int32) : Bool :=
  (w.behind? id).any fun x => InstanceFamily.detail.has x.2 || InstanceFamily.hdr.has x.2

/-- The table, the users of the vendor library and the connections to the bootstrap service tell
the same. -/
structure World.InStep (w : World σ) : Prop where
  /-- The live entries are those whose id leads to a façade. -/
  live : ∀ id, id ∈ w.table.ids ↔ (w.behind? id).isSome = true
  nodup : w.table.ids.Nodup
  used : w.table.used = w.table.ids.length
  instances : w.instances = w.table.ids.length
  connections : (connectedIds w.journal).length =
    (disconnectedIds w.journal).length + (w.table.ids.filter w.isEnhancer).length

theorem usesService_iff (kind : FacadeKind) : kind.usesService =
    (InstanceFamily.detail.has kind || InstanceFamily.hdr.has kind) := by
  cases kind <;> rfl

namespace World.Rest

variable {w w' : World σ} (h : w.Rest env)

include h

theorem behind?_stored {id : Int32} {f : FacadeId} (hf : w.table.get? id = some f) :
    ∃ facade, w.facade? f = some facade ∧ w.behind? id = some (f, facade.kind) := by
  have hm := InstanceTable.mem_handles_iff_get?.2 ⟨_, hf⟩
  obtain ⟨facade, hfacade⟩ := Option.ne_none_iff_exists'.1 (h.balanced.stored hm)
  exact ⟨facade, hfacade, behind?_eq_some.2 ⟨hf, facade, hfacade, rfl⟩⟩

theorem isEnhancer_stored {id : Int32} {f : FacadeId} (hf : w.table.get? id = some f) :
    w.isEnhancer id = w.isServed f := by
  obtain ⟨facade, hfacade, hb⟩ := h.behind?_stored hf
  rw [isEnhancer, hb, isServed, hfacade]
  exact (usesService_iff facade.kind).symm

/-- If only the table holds façades, those that are there are those in the table, each once. -/
theorem stored_perm (hs : w.table.Shelved) (hu : w.Unshared) :
    (w.table.ids.filterMap w.table.get?).Perm w.living := by
  have hnodup : (w.table.ids.filterMap w.table.get?).Nodup :=
    w.table.nodup_ids.filterMap fun id id' f hf hf' => hs.inj hf hf'
  refine (List.perm_ext_iff_of_nodup hnodup w.nodup_living).2 fun f => ?_
  rw [mem_living, List.mem_filterMap]
  constructor
  · rintro ⟨id, -, hf⟩
    obtain ⟨facade, hfacade, -⟩ := h.behind?_stored hf
    exact ⟨facade, hfacade⟩
  · rintro ⟨facade, hfacade⟩
    rcases refersTo_iff.1 (h.orderly.facade_kept hfacade (by simp)) with hr | hr | hr
    · obtain ⟨o, ho⟩ := hu.held _ hr
      cases ho
    · rw [h.pins] at hr; cases hr
    · obtain ⟨id, hid⟩ := InstanceTable.mem_handles_iff_get?.1 hr
      exact ⟨id, InstanceTable.mem_ids.2 (by rw [hid]; rfl), hid⟩

theorem inStep (hs : w.table.Shelved) (hu : w.Unshared) : w.InStep := by
  have hperm := h.stored_perm hs hu
  have hids : ∀ id ∈ w.table.ids, ∃ f, w.table.get? id = some f := fun id hid =>
    Option.isSome_iff_exists.1 (InstanceTable.mem_ids.1 hid)
  have hlen : w.living.length = w.table.ids.length := by
    rw [← hperm.length_eq, List.length_filterMap_eq_countP, List.countP_eq_length]
    exact fun id hid => InstanceTable.mem_ids.1 hid
  constructor
  case live =>
    intro id
    rw [InstanceTable.mem_ids]
    constructor
    · intro hid
      obtain ⟨f, hf⟩ := Option.isSome_iff_exists.1 hid
      obtain ⟨facade, -, hb⟩ := h.behind?_stored hf
      rw [hb]; rfl
    · intro hid
      obtain ⟨⟨f, kind⟩, hb⟩ := Option.isSome_iff_exists.1 hid
      rw [(behind?_eq_some.1 hb).1]; rfl
  case nodup => exact w.table.nodup_ids
  case used => rw [hs.used, InstanceTable.length_ids]
  case instances =>
    have hleases : w.held.count .lease = 0 := List.count_eq_zero.2 fun hm => by
      obtain ⟨o, ho⟩ := hu.held _ hm
      cases ho
    rw [h.instances_eq, hleases, List.count_eq_zero.2 hu.counted, hlen,
      Nat.add_zero]
  case connections =>
    have hserved : (w.living.filter w.isServed).length =
        (w.table.ids.filter w.isEnhancer).length := by
      rw [← (hperm.filter _).length_eq, ← List.countP_eq_length_filter, List.countP_filterMap,
        ← List.countP_eq_length_filter]
      refine List.countP_congr fun id hid => ?_
      obtain ⟨f, hf⟩ := hids id hid
      rw [h.isEnhancer_stored hf, hf]
      rfl
    have := h.connectedIds_perm.length_eq
    rw [List.length_append] at this
    omega

/-- A façade that stays in the table stays of its kind. -/
theorem isEnhancer_stays (h' : w'.Rest env) (hj : w.journal ⊆ w'.journal)
    (ht : w'.table = w.table) {id : Int32} (hid : id ∈ w.table.ids) :
    w'.isEnhancer id = w.isEnhancer id := by
  obtain ⟨f, hf⟩ := Option.isSome_iff_exists.1 (InstanceTable.mem_ids.1 hid)
  obtain ⟨facade, hfacade, hb⟩ := h.behind?_stored hf
  obtain ⟨facade', hfacade', hb'⟩ := h'.behind?_stored (ht ▸ hf)
  have hk := h'.balanced.books.regular.kind_inj
    (hj (h.balanced.books.standing hfacade).founded)
    (h'.balanced.books.standing hfacade').founded
  rw [isEnhancer, isEnhancer, hb, hb', hk]

end World.Rest

/-! ## The next call -/

/-- The creation of an instance in a world where the books are in step. -/
structure World.Creates (family : InstanceFamily) (level : Int32) (w : World σ) (status : Status)
    (id : Int32) (w' : World σ) : Prop where
  unknown : family.knowsLevel level = false → status = .invalidVal
  full : family.knowsLevel level = true → w.table.used = slotCount → status = .noMemory
  /-- The id is new and not negative, and leads to a façade of the family. -/
  stored : family.knowsLevel level = true → w.table.used ≠ slotCount →
    status = .ok ∧ 0 ≤ id ∧ w.table.get? id = none ∧
      (∃ f kind, w'.behind? id = some (f, kind) ∧ family.has kind = true) ∧
      w'.table.used = w.table.used + 1 ∧ ∀ id' ≠ id, w'.table.get? id' = w.table.get? id'
  /-- A failure leaves the books as they are. -/
  failed : status ≠ .ok → id = -1 ∧ w'.table = w.table ∧
    (¬w'.Disturbed → w'.Unshared → w'.instances = w.instances ∧
      (connectedIds w'.journal).length + (disconnectedIds w.journal).length =
        (connectedIds w.journal).length + (disconnectedIds w'.journal).length)

/-- The destruction of an instance in a world where the books are in step. -/
structure World.Destroys (family : InstanceFamily) (id : Int32) (w : World σ) (status : Status)
    (id' : Int32) (w' : World σ) : Prop where
  refused : (∀ f kind, w.behind? id = some (f, kind) → family.has kind = false) →
    status = .invalidVal ∧ id' = id ∧ w'.table = w.table
  taken : ∀ f kind, w.behind? id = some (f, kind) → family.has kind = true →
    status = .ok ∧ id' = -1 ∧ w'.table.used + 1 = w.table.used ∧
      ∀ x, w'.table.get? x = if x = id then none else w.table.get? x

/-- What the next call of a caller in C does. -/
structure World.Next (host : Host σ) (settings : Option (String → Option String)) (w : World σ) :
    Prop where
  createNull : ∀ family level,
    host.createInstance (opening settings) family level none w = ((.invalidVal, none), w)
  destroyNull : ∀ family,
    host.destroyInstance (opening settings) family none w = ((.invalidVal, none), w)
  create : ∀ family level number, ∃ status id w',
    host.createInstance (opening settings) family level (some number) w =
      ((status, some id), w') ∧ w.Creates family level status id w'
  destroy : ∀ family id, ∃ status id' w',
    host.destroyInstance (opening settings) family (some id) w = ((status, some id'), w') ∧
      w.Destroys family id status id' w'
  process : ∀ family id input output, Processed family id output w
    (host.processImage (opening settings) family id input output w).1.1
    (host.processImage (opening settings) family id input output w).1.2
    (host.processImage (opening settings) family id input output w).2

namespace World.Rest

variable {host : Host σ} {w w' : World σ}

/-- Where the table stays as it is, so do the users and the connections. -/
theorem unchanged (h : w.Rest env) (hs : w.table.Shelved) (hu : w.Unshared) (h' : w'.Rest env)
    (hj : w.journal ⊆ w'.journal) (ht : w'.table = w.table) (hu' : w'.Unshared) :
    w'.instances = w.instances ∧
      (connectedIds w'.journal).length + (disconnectedIds w.journal).length =
        (connectedIds w.journal).length + (disconnectedIds w'.journal).length := by
  have hin := h.inStep hs hu
  have hin' := h'.inStep (ht ▸ hs) hu'
  have henhancers : w'.table.ids.filter w'.isEnhancer = w.table.ids.filter w.isEnhancer := by
    rw [ht]
    exact List.filter_congr fun id hid => h.isEnhancer_stays h' hj ht hid
  have hc := hin.connections
  have hc' := hin'.connections
  rw [henhancers] at hc'
  refine ⟨?_, by omega⟩
  rw [hin'.instances, ht, hin.instances]

/-- What the next call does where the books are in step. -/
theorem next (hf : host.Fair) (settings : Option (String → Option String)) (h : w.Rest host.env)
    (hs : w.table.Shelved) (hu : w.Unshared) : w.Next host settings := by
  have hmap := InstanceTable.isMap_of_used hs.used
  constructor
  case createNull => exact fun _ _ => rfl
  case destroyNull => exact fun _ => rfl
  case create =>
    intro family level number
    obtain ⟨status, id, w', hrun, hc⟩ :=
      hf.createInstance_created settings family level number h.orderly
    have hacc := hf.createInstance settings family level (some number)
    have hr := hacc.triple h.orderly h.pins
    have ha := hacc.accounted h.orderly
    rw [hrun] at hr ha
    have same := fun (ht : w'.table = w.table) (hd : ¬w'.Disturbed) (hu' : w'.Unshared) =>
      h.unchanged hs hu (h.accounted hr ha hd) ha.journal ht hu'
    refine ⟨status, id, w', hrun, fun hk => (hc.unknown hk).1,
      fun hk hfull => (hc.full hk (hs.used ▸ hfull)).1, fun hk hroom => ?_, fun hfail => ?_⟩
    · obtain ⟨hstatus, f, kind, hi, hb, hhas, -⟩ := hc.stored hk (hs.used ▸ hroom)
      obtain ⟨id', i, t', hadd, -, -, hpos, hnone, hused, hget⟩ := hmap.stores f (hs.used ▸ hroom)
      rw [InstanceTable.add_ok hi] at hadd
      cases hadd
      exact ⟨hstatus, hpos, hnone, ⟨f, kind, hb, hhas⟩, hused,
        fun x hx => (hget x).trans (if_neg hx)⟩
    · cases hk : family.knowsLevel level with
      | false =>
        obtain ⟨-, hid, ht⟩ := hc.unknown hk
        exact ⟨hid, ht, same ht⟩
      | true =>
        by_cases hfull : w.table.handles.length = slotCount
        · obtain ⟨-, hid, ht⟩ := hc.full hk hfull
          exact ⟨hid, ht, same ht⟩
        · exact absurd (hc.stored hk hfull).1 hfail
  case destroy =>
    intro family id
    obtain ⟨status, id', w', hrun, hd⟩ := hf.destroyInstance_destroyed settings family id h.orderly
    refine ⟨status, id', w', hrun, hd.refused, fun f kind hb hk => ?_⟩
    obtain ⟨hs', hid, hr⟩ := hd.taken f kind hb hk
    obtain ⟨t', ht', hused, hget⟩ := hmap.removes id f (behind?_eq_some.1 hb).1
    rw [InstanceTable.takeBack_ok hr] at ht'
    cases ht'
    exact ⟨hs', hid, hused, hget⟩
  case process =>
    exact fun family id input output =>
      hf.processImage_processed settings family id input output h.orderly

end World.Rest

/-- After every run of callers in C, with code of others that does as it likes, the instances in the
table are the users of the vendor library, they are as many as were created and not destroyed, and
the bootstrap service is connected for the detail and HDR enhancers among them. The next call does
what its status tells. Nothing but the table holds façades then, and no call waits for itself. -/
theorem boundary_inStep (env : Environment σ) (depth : Nat)
    (settings : Option (String → Option String)) (memory : σ) (calls : List BoundaryCall)
    (hd : ¬(World.afterCalls env depth settings memory calls).2.Disturbed)
    (hu : (World.afterCalls env depth settings memory calls).2.Unshared) :
    let r := World.afterCalls env depth settings memory calls
    r.2.InStep ∧
      r.2.table.used + (calls.zip r.1).countP (fun x => x.1.destroys x.2) =
        (calls.zip r.1).countP (fun x => x.1.creates x.2) ∧
      r.2.Next (Host.nested env depth) settings := by
  intro r
  have hf := Host.nested_fair env depth
  have h₀ : World.Rest (Host.nested env depth).env { memory := memory } := by
    rw [Host.nested_env]
    exact rest_start memory
  obtain ⟨h, hs, hcount⟩ := BoundaryCall.shelved_run hf settings calls h₀ .empty hd
  refine ⟨h.inStep hs hu, ?_, h.next hf settings hs hu⟩
  rw [show r.2.table.used = r.2.table.handles.length from hs.used]
  exact hcount.trans (by rw [InstanceTable.handles_empty]; exact Nat.zero_add _)

/-- A detail enhancer is not destroyed as an HDR enhancer, and one of an unknown level is not
created. -/
theorem boundary_inStep_refused :
    let calls := [.create .detail 2 (some 7), .destroy .hdr (some 0), .create .detail 77 (some 5),
      .create .hdr 0 (some 3)]
    let r := World.afterCalls (.linked []) 1 none () calls
    r.1 = [.ok, .invalidVal, .invalidVal, .ok] ∧ r.2.InStep ∧ r.2.table.used = 2 := by
  intro calls r
  have hr : r.1 = [.ok, .invalidVal, .invalidVal, .ok] := by decide +kernel
  have hheld : r.2.held = [] := by decide +kernel
  obtain ⟨hin, hcount, -⟩ := boundary_inStep (.linked []) 1 none () calls
    (not_or.2 ⟨by decide +kernel, by decide +kernel⟩)
    ⟨by rw [show World.held _ = [] from hheld]; nofun, by decide +kernel⟩
  rw [show (World.afterCalls (.linked []) 1 none () calls).1 = _ from hr] at hcount
  exact ⟨hr, hin, hcount⟩

end ImageDispatch
