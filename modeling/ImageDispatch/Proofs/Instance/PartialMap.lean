import ImageDispatch.Proofs.Instance.Slots

/-!
# The instance table is a map from ids to handles

* `TableUse`, `TableRun`: a run of a table, with whatever ids callers give, and the ids that it
  gave out.
* `TableRun.Tracks`: the invariant. The table counts its handles, and remembers the slot of the id
  that it gave out last.
* `InstanceTable.IsMap`: a table behaves as a map of at most 1024 ids, and `TableRun.isMap`: after
  every run it does.
-/

namespace ImageDispatch

/-- A use of a table. -/
inductive TableUse (α : Type)
  | insert (handle : α)
  | get (id : Int32)
  | remove (id : Int32)

/-- What a run has come to. -/
structure TableRun (α : Type) where
  table : InstanceTable α
  /-- The ids that were given out, the last first. -/
  given : List Int32

namespace InstanceTable

variable {α : Type} {t : InstanceTable α}

/-- What it means that a table is a map from ids to handles. `recent` is the slot of the id that it
gave out last. -/
structure IsMap (t : InstanceTable α) (recent : SlotIndex) : Prop where
  /-- A full table takes no handle, and stays as it is. -/
  full : ∀ handle, t.handles.length = slotCount →
    t.add handle = (.error .instanceTableFull, t)
  /-- Another one gives out a new id, that of the next free slot. The id answers with the handle
  then, and the others answer as before. -/
  stores : ∀ handle, t.handles.length ≠ slotCount → ∃ id i t',
    t.add handle = (.ok id, t') ∧ (InstanceId.place? id).map Prod.fst = some i ∧
      t.FirstFreeAfter recent i ∧ 0 ≤ id ∧ t.get? id = none ∧ t'.used = t.used + 1 ∧
      ∀ id', t'.get? id' = if id' = id then some handle else t.get? id'
  /-- An id that answers is removed, and the id of the caller is reset. -/
  removes : ∀ id handle, t.get? id = some handle → ∃ t',
    t.takeBack id = (.ok handle, -1, t') ∧ t'.used + 1 = t.used ∧
      ∀ id', t'.get? id' = if id' = id then none else t.get? id'
  /-- For one that does not answer, nothing happens. -/
  refuses : ∀ id, t.get? id = none → t.takeBack id = (.error (.invalidInstance id), id, t)
  /-- The size is the number of ids that answer. -/
  counts : ∃ ids : List Int32, ids.Nodup ∧ (∀ id, id ∈ ids ↔ (t.get? id).isSome = true) ∧
    t.used = ids.length
  /-- It is also the number of handles. -/
  stored : t.used = t.handles.length
  bounded : t.used ≤ slotCount
  /-- Whatever an id is, the slot that it leads to is there. -/
  inside : ∀ id i g, InstanceId.place? id = some (i, g) → i.val < t.slots.toList.length

/-- A table that counts its handles is a map. -/
theorem isMap_of_used (hused : t.used = t.handles.length) : t.IsMap t.last where
  full handle h := by
    cases hi : t.insert handle with
    | error e => exact add_error hi
    | ok r =>
      obtain ⟨i, ⟨hfree, -⟩, -⟩ := insert_ok hi
      rw [length_handles_eq.1 h i] at hfree
      cases hfree
  stores handle h := by
    cases hi : t.insert handle with
    | error e => exact absurd (length_handles_eq.2 (insert_error hi).2) h
    | ok r =>
      obtain ⟨id, t'⟩ := r
      obtain ⟨i, hfree, rfl, -, -, hadd⟩ := insert_ok hi
      refine ⟨_, i, t', add_ok hi, by rw [idAt, InstanceId.place?_compose]; rfl, hfree,
        compose_nonneg _ _, ?_, hadd, get?_insert hi⟩
      rw [get?_idAt, isFree_eq_true.1 hfree.1]
  removes id handle h := by
    cases hr : t.remove id with
    | error e =>
      rw [(remove_error hr).2] at h
      cases h
    | ok r =>
      obtain ⟨handle', t'⟩ := r
      obtain ⟨i, rfl, hi, -, -, hsub⟩ := remove_ok hr
      rw [get?_idAt, hi] at h
      cases h
      have hpos := handles_pos hi
      exact ⟨t', takeBack_ok hr, by omega, get?_remove hr⟩
  refuses id h := by
    cases hr : t.remove id with
    | error e => exact takeBack_error hr
    | ok r =>
      obtain ⟨i, rfl, hi, -⟩ := remove_ok hr
      rw [get?_idAt, hi] at h
      cases h
  counts := ⟨t.ids, t.nodup_ids, fun _ => mem_ids, by rw [hused, t.length_ids]⟩
  stored := hused
  bounded := by rw [hused]; exact t.length_handles_le
  inside id i g _ := by simp

end InstanceTable

namespace TableRun

variable {α : Type}

/-- Takes a use of the table. -/
def take (r : TableRun α) : TableUse α → TableRun α
  | .insert handle =>
    match r.table.add handle with
    | (.ok id, t) => ⟨t, id :: r.given⟩
    | (.error _, t) => ⟨t, r.given⟩
  | .get _ => r
  | .remove id => ⟨(r.table.takeBack id).2.2, r.given⟩

/-- What comes of uses of an empty table. -/
def after (uses : List (TableUse α)) : TableRun α := uses.foldl take ⟨.empty, []⟩

/-- The slot of the id that was given out last. Before the first one it is the slot at the end. -/
def recent (r : TableRun α) : SlotIndex :=
  match r.given.head?.bind InstanceId.place? with
  | some (i, _) => i
  | none => Fin.last 1023

/-- The table counts its handles, and remembers the slot that it gave out last. -/
structure Tracks (r : TableRun α) : Prop where
  used : r.table.used = r.table.handles.length
  last : r.table.last = r.recent

theorem tracks_start : Tracks (⟨.empty, []⟩ : TableRun α) :=
  ⟨by rw [InstanceTable.handles_empty]; rfl, rfl⟩

theorem take_insert_ok {r : TableRun α} {handle : α} {id : Int32} {t : InstanceTable α}
    (h : r.table.insert handle = .ok (id, t)) : r.take (.insert handle) = ⟨t, id :: r.given⟩ := by
  rw [take, InstanceTable.add_ok h]

theorem take_insert_error {r : TableRun α} {handle : α} {e : Error}
    (h : r.table.insert handle = .error e) : r.take (.insert handle) = r := by
  rw [take, InstanceTable.add_error h]

theorem Tracks.take {r : TableRun α} (h : r.Tracks) (use : TableUse α) : (r.take use).Tracks := by
  cases use with
  | insert handle =>
    cases hi : r.table.insert handle with
    | error e => rw [take_insert_error hi]; exact h
    | ok x =>
      obtain ⟨id, t'⟩ := x
      obtain ⟨i, ⟨hfree, -⟩, rfl, hc, hlast, hused⟩ := InstanceTable.insert_ok hi
      rw [take_insert_ok hi]
      refine ⟨?_, ?_⟩
      · rw [hused, h.used, hc.length_handles, InstanceTable.isFree_eq_true.1 hfree]
        simp
      · rw [hlast, recent]
        simp [InstanceTable.idAt, InstanceId.place?_compose]
  | get id => exact h
  | remove id =>
    rw [TableRun.take]
    cases hr : r.table.remove id with
    | error e => rw [InstanceTable.takeBack_error hr]; exact h
    | ok x =>
      obtain ⟨handle, t'⟩ := x
      obtain ⟨i, -, hi, hc, hlast, hused⟩ := InstanceTable.remove_ok hr
      rw [InstanceTable.takeBack_ok hr]
      refine ⟨?_, hlast.trans h.last⟩
      rw [hused, h.used, hc.length_handles, hi]
      simp

theorem tracks_after (uses : List (TableUse α)) : (after uses).Tracks := by
  unfold after
  suffices h : ∀ r : TableRun α, r.Tracks → (uses.foldl TableRun.take r).Tracks from
    h _ tracks_start
  induction uses with
  | nil => exact fun r h => h
  | cons use rest ih => exact fun r h => ih _ (h.take use)

/-- After every run of an empty table, with any ids that callers may give, the table is a map from
ids to handles. -/
theorem isMap (uses : List (TableUse α)) : (after uses).table.IsMap (after uses).recent := by
  have h := tracks_after uses
  rw [← h.last]
  exact InstanceTable.isMap_of_used h.used

end TableRun

end ImageDispatch
