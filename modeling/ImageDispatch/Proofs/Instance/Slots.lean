import Mathlib.Data.List.FinRange
import ImageDispatch.Instance.Table

/-!
# Slots and the ids that lead to them

Each slot has one id that leads to it, that of its generation (`InstanceTable.idAt`), so the table
is a map from ids although it keeps slots.

* `get?_eq_some`: what answers for an id is the slot that the id leads to.
* `firstFree?_some`, `firstFree?_none`: the search for a free slot goes once around.
* `Changes`: only one slot is changed. `insert_ok` and `remove_ok` say which one and how.
* `get?_insert`, `get?_remove`: what ids answer after a change.
* `ids`: the ids that answer, one for each handle.
-/

namespace ImageDispatch

/-- The slot that comes `k` places later, in cyclic order. -/
def SlotIndex.later (i : SlotIndex) (k : Nat) : SlotIndex :=
  ⟨(i.val + k) % slotCount, Nat.mod_lt _ (by decide)⟩

namespace SlotIndex

theorem later_zero (i : SlotIndex) : later i 0 = i := Fin.ext (Nat.mod_eq_of_lt i.isLt)

theorem later_succ (i : SlotIndex) (k : Nat) : later (i + 1) k = later i (k + 1) := by
  apply Fin.ext
  simp only [later, Fin.val_add]
  have : (1 : SlotIndex).val = 1 := rfl
  rw [this]
  simp only [slotCount]
  omega

/-- Every slot comes up within one round. -/
theorem exists_later (i j : SlotIndex) : ∃ k < slotCount, later i k = j := by
  have h₁ := i.isLt
  have h₂ := j.isLt
  simp only [slotCount] at h₁ h₂
  by_cases h : i.val ≤ j.val
  · exact ⟨j.val - i.val, by simp only [slotCount]; omega,
      Fin.ext (by simp only [later, slotCount]; omega)⟩
  · exact ⟨j.val + 1024 - i.val, by simp only [slotCount]; omega,
      Fin.ext (by simp only [later, slotCount]; omega)⟩

end SlotIndex

namespace InstanceTable

variable {α : Type} {t t' : InstanceTable α}

/-- The id that leads to a slot. -/
def idAt (t : InstanceTable α) (i : SlotIndex) : Int32 :=
  InstanceId.compose i (t.slot i).generation

theorem compose_inj {i j : SlotIndex} {g g' : Generation}
    (h : InstanceId.compose i g = InstanceId.compose j g') : i = j ∧ g = g' := by
  have := InstanceId.place?_compose i g
  rw [h, InstanceId.place?_compose] at this
  cases this
  exact ⟨rfl, rfl⟩

theorem compose_nonneg (i : SlotIndex) (g : Generation) : 0 ≤ InstanceId.compose i g := by
  rw [Int32.le_iff_toInt_le, InstanceId.toInt_compose]
  exact Int.natCast_nonneg _

theorem idAt_inj {i j : SlotIndex} (h : t.idAt i = t.idAt j) : i = j := (compose_inj h).1

/-- What answers for an id is the slot that it leads to. -/
theorem get?_eq_some {id : Int32} {handle : α} :
    t.get? id = some handle ↔ ∃ i, id = t.idAt i ∧ (t.slot i).handle = some handle := by
  unfold get?
  constructor
  · intro h
    cases hp : InstanceId.place? id with
    | none => rw [hp] at h; cases h
    | some p =>
      obtain ⟨i, g⟩ := p
      rw [hp] at h
      change (if (t.slot i).generation = g then _ else none) = some handle at h
      split at h
      · rename_i hg
        subst hg
        exact ⟨i, (InstanceId.compose_of_place? hp).symm, h⟩
      · cases h
  · rintro ⟨i, rfl, h⟩
    rw [idAt, InstanceId.place?_compose]
    change (if (t.slot i).generation = (t.slot i).generation then _ else none) = some handle
    rw [if_pos rfl, h]

theorem get?_idAt (t : InstanceTable α) (i : SlotIndex) :
    t.get? (t.idAt i) = (t.slot i).handle := by
  apply Option.ext
  intro handle
  rw [get?_eq_some]
  constructor
  · rintro ⟨j, hj, h⟩
    rw [idAt_inj hj]
    exact h
  · exact fun h => ⟨i, rfl, h⟩

/-! ## The search for a free slot -/

theorem freeFrom_some {n : Nat} {i j : SlotIndex} (h : t.freeFrom n i = some j) :
    t.isFree j = true ∧ ∃ k < n, j = i.later k ∧ ∀ m < k, t.isFree (i.later m) = false := by
  induction n generalizing i with
  | zero => cases h
  | succ n ih =>
    rw [freeFrom] at h
    split at h
    · rename_i hfree
      rw [← Option.some.inj h]
      exact ⟨hfree, 0, by omega, (SlotIndex.later_zero i).symm, fun m hm => absurd hm (by omega)⟩
    · rename_i hbusy
      obtain ⟨hfree, k, hk, rfl, hm⟩ := ih h
      refine ⟨hfree, k + 1, by omega, SlotIndex.later_succ i k, fun m hlt => ?_⟩
      cases m with
      | zero => rw [SlotIndex.later_zero]; simpa using hbusy
      | succ m => rw [← SlotIndex.later_succ]; exact hm m (by omega)

theorem freeFrom_none {n : Nat} {i : SlotIndex} (h : t.freeFrom n i = none) :
    ∀ k < n, t.isFree (i.later k) = false := by
  induction n generalizing i with
  | zero => intro k hk; omega
  | succ n ih =>
    rw [freeFrom] at h
    split at h
    · cases h
    · rename_i hbusy
      intro k hk
      cases k with
      | zero => rw [SlotIndex.later_zero]; simpa using hbusy
      | succ k => rw [← SlotIndex.later_succ]; exact ih h k (by omega)

/-- The slot is free, and none is between `i` and it in cyclic order. -/
def FirstFreeAfter (t : InstanceTable α) (i j : SlotIndex) : Prop :=
  t.isFree j = true ∧
    ∃ k, 1 ≤ k ∧ k ≤ slotCount ∧ j = i.later k ∧ ∀ m, 1 ≤ m → m < k → t.isFree (i.later m) = false

theorem firstFree?_some {j : SlotIndex} (h : t.firstFree? = some j) :
    t.FirstFreeAfter t.last j := by
  obtain ⟨hfree, k, hk, rfl, hm⟩ := freeFrom_some h
  refine ⟨hfree, k + 1, by omega, by omega, SlotIndex.later_succ _ _, fun m h₁ h₂ => ?_⟩
  obtain ⟨m, rfl⟩ : ∃ n, m = n + 1 := ⟨m - 1, by omega⟩
  rw [← SlotIndex.later_succ]
  exact hm m (by omega)

theorem firstFree?_none (h : t.firstFree? = none) (j : SlotIndex) : t.isFree j = false := by
  obtain ⟨k, hk, rfl⟩ := SlotIndex.exists_later (t.last + 1) j
  exact freeFrom_none h k hk

/-! ## Changes of slots -/

/-- The table `t'` comes from `t` by a change of the slot `i` only. -/
structure Changes (t t' : InstanceTable α) (i : SlotIndex) (slot : Slot α) : Prop where
  slots : t'.slots = t.slots.set i.val slot i.isLt

theorem Changes.self {i : SlotIndex} {slot : Slot α} (h : t.Changes t' i slot) :
    t'.slot i = slot := by
  rw [InstanceTable.slot, h.slots]
  exact Vector.getElem_set_self i.isLt

theorem Changes.other {i j : SlotIndex} {slot : Slot α} (h : t.Changes t' i slot) (hj : j ≠ i) :
    t'.slot j = t.slot j := by
  rw [InstanceTable.slot, h.slots]
  exact Vector.getElem_set_ne i.isLt j.isLt fun e => hj (Fin.ext e.symm)

/-- What a successful insertion does. -/
theorem insert_ok {handle : α} {id : Int32} (h : t.insert handle = .ok (id, t')) :
    ∃ i, t.FirstFreeAfter t.last i ∧ id = t.idAt i ∧
      t.Changes t' i ⟨(t.slot i).generation, some handle⟩ ∧ t'.last = i ∧ t'.used = t.used + 1 := by
  unfold insert at h
  cases hf : t.firstFree? with
  | none => rw [hf] at h; cases h
  | some i =>
    rw [hf] at h
    cases h
    exact ⟨i, firstFree?_some hf, rfl, ⟨rfl⟩, rfl, rfl⟩

theorem insert_error {handle : α} {e : Error} (h : t.insert handle = .error e) :
    e = .instanceTableFull ∧ ∀ i, t.isFree i = false := by
  unfold insert at h
  cases hf : t.firstFree? with
  | none => rw [hf] at h; cases h; exact ⟨rfl, firstFree?_none hf⟩
  | some i => rw [hf] at h; cases h

theorem add_ok {handle : α} {id : Int32} (h : t.insert handle = .ok (id, t')) :
    t.add handle = (.ok id, t') := by
  unfold add; rw [h]

theorem add_error {handle : α} {e : Error} (h : t.insert handle = .error e) :
    t.add handle = (.error .instanceTableFull, t) := by
  unfold add; rw [h, (insert_error h).1]

/-- What a successful removal does. -/
theorem remove_ok {handle : α} {id : Int32} (h : t.remove id = .ok (handle, t')) :
    ∃ i, id = t.idAt i ∧ (t.slot i).handle = some handle ∧
      t.Changes t' i ⟨(t.slot i).generation + 1, none⟩ ∧ t'.last = t.last ∧
      t'.used = t.used - 1 := by
  unfold remove at h
  split at h
  · rename_i i g handle' hp hg
    cases h
    obtain ⟨j, rfl, hj⟩ := get?_eq_some.1 hg
    rw [idAt, InstanceId.place?_compose] at hp
    obtain ⟨hi, hgen⟩ := Prod.mk.inj (Option.some.inj hp)
    subst hi hgen
    exact ⟨j, rfl, hj, ⟨rfl⟩, rfl, rfl⟩
  · cases h

theorem remove_error {id : Int32} {e : Error} (h : t.remove id = .error e) :
    e = .invalidInstance id ∧ t.get? id = none := by
  unfold remove at h
  split at h
  · cases h
  · rename_i hne
    cases h
    refine ⟨rfl, Option.eq_none_iff_forall_ne_some.2 fun handle hg => ?_⟩
    obtain ⟨i, rfl, hi⟩ := get?_eq_some.1 hg
    exact hne i _ handle (InstanceId.place?_compose _ _) hg

theorem get?_of_remove {handle : α} {id : Int32} (h : t.remove id = .ok (handle, t')) :
    t.get? id = some handle := by
  obtain ⟨i, rfl, hi, -⟩ := remove_ok h
  rw [get?_idAt, hi]

theorem takeBack_ok {handle : α} {id : Int32} (h : t.remove id = .ok (handle, t')) :
    t.takeBack id = (.ok handle, -1, t') := by
  unfold takeBack; rw [h]; rfl

theorem takeBack_error {id : Int32} {e : Error} (h : t.remove id = .error e) :
    t.takeBack id = (.error (.invalidInstance id), id, t) := by
  unfold takeBack; rw [h, (remove_error h).1]

theorem isFree_eq_true {i : SlotIndex} : t.isFree i = true ↔ (t.slot i).handle = none := by
  unfold isFree
  cases (t.slot i).handle <;> simp

/-- After an insertion the new id answers with the handle, and the others as before. -/
theorem get?_insert {handle : α} {id : Int32} (h : t.insert handle = .ok (id, t')) (id' : Int32) :
    t'.get? id' = if id' = id then some handle else t.get? id' := by
  obtain ⟨i, -, rfl, hc, -, -⟩ := insert_ok h
  -- The generation of the slot stays, so every slot keeps its id.
  have hid : ∀ j, t'.idAt j = t.idAt j := by
    intro j
    by_cases hj : j = i
    · subst hj; rw [idAt, hc.self, idAt]
    · rw [idAt, hc.other hj, idAt]
  split
  · rename_i he
    rw [he, ← hid, get?_idAt, hc.self]
  · rename_i hne
    apply Option.ext
    intro handle'
    rw [get?_eq_some, get?_eq_some]
    refine exists_congr fun j => ?_
    rw [hid]
    refine and_congr_right fun e => ?_
    rw [hc.other fun hj => hne (by rw [e, hj])]

/-- After a removal the id does not answer, and the others answer as before. -/
theorem get?_remove {handle : α} {id : Int32} (h : t.remove id = .ok (handle, t')) (id' : Int32) :
    t'.get? id' = if id' = id then none else t.get? id' := by
  obtain ⟨i, rfl, -, hc, -, -⟩ := remove_ok h
  have hnone : (t'.slot i).handle = none := by rw [hc.self]
  have hid : ∀ j, j ≠ i → t'.idAt j = t.idAt j := by
    intro j hj
    rw [idAt, hc.other hj, idAt]
  split
  -- The old id might lead to the slot in its next generation, but the slot is empty.
  · rename_i he
    rw [he]
    refine Option.eq_none_iff_forall_ne_some.2 fun handle' hg => ?_
    obtain ⟨j, hj, hs⟩ := get?_eq_some.1 hg
    cases (compose_inj hj).1
    rw [hnone] at hs
    cases hs
  · rename_i hne
    apply Option.ext
    intro handle'
    rw [get?_eq_some, get?_eq_some]
    constructor <;> rintro ⟨j, rfl, hs⟩
    · have hj : j ≠ i := by
        rintro rfl
        rw [hnone] at hs
        cases hs
      exact ⟨j, hid j hj, by rwa [hc.other hj] at hs⟩
    · have hj : j ≠ i := fun e => hne (by rw [e])
      exact ⟨j, (hid j hj).symm, by rwa [hc.other hj]⟩

/-! ## What is stored -/

theorem mem_handles {handle : α} :
    handle ∈ t.handles ↔ ∃ i : SlotIndex, (t.slot i).handle = some handle := by
  unfold handles
  rw [List.mem_filterMap]
  constructor
  · rintro ⟨slot, hslot, h⟩
    obtain ⟨i, hi, rfl⟩ := List.mem_iff_getElem.1 hslot
    exact ⟨⟨i, by simpa using hi⟩, by simpa using h⟩
  · rintro ⟨i, h⟩
    exact ⟨(t.slot i), Vector.mem_toList_iff.2 (Vector.getElem_mem i.isLt), h⟩

theorem handles_empty : (empty : InstanceTable α).handles = [] := by
  rw [handles, empty, Vector.toList_replicate]
  exact List.filterMap_replicate_of_none rfl

theorem mem_handles_insert {handle : α} {id : Int32} (h : t.insert handle = .ok (id, t'))
    (x : α) : x ∈ t'.handles ↔ x = handle ∨ x ∈ t.handles := by
  obtain ⟨i, ⟨hfree, -⟩, -, hc, -, -⟩ := insert_ok h
  rw [mem_handles, mem_handles]
  constructor
  · rintro ⟨j, hj⟩
    by_cases he : j = i
    · subst he
      rw [hc.self] at hj
      exact .inl (Option.some.inj hj).symm
    · exact .inr ⟨j, by rwa [hc.other he] at hj⟩
  · rintro (rfl | ⟨j, hj⟩)
    · exact ⟨i, by rw [hc.self]⟩
    · have he : j ≠ i := by
        rintro rfl
        rw [isFree_eq_true.1 hfree] at hj
        cases hj
      exact ⟨j, by rwa [hc.other he]⟩

theorem mem_handles_remove {handle : α} {id : Int32} (h : t.remove id = .ok (handle, t')) :
    handle ∈ t.handles ∧ (∀ x ∈ t'.handles, x ∈ t.handles) ∧
      ∀ x ∈ t.handles, x = handle ∨ x ∈ t'.handles := by
  obtain ⟨i, -, hi, hc, -, -⟩ := remove_ok h
  refine ⟨mem_handles.2 ⟨i, hi⟩, fun x hx => ?_, fun x hx => ?_⟩ <;>
    obtain ⟨j, hj⟩ := mem_handles.1 hx <;> by_cases he : j = i
  · subst he
    rw [hc.self] at hj
    cases hj
  · exact mem_handles.2 ⟨j, by rwa [hc.other he] at hj⟩
  · subst he
    rw [hi] at hj
    exact .inl (Option.some.inj hj).symm
  · exact .inr (mem_handles.2 ⟨j, by rwa [hc.other he]⟩)

theorem length_handles (t : InstanceTable α) :
    t.handles.length = t.slots.toList.countP fun slot => slot.handle.isSome :=
  List.length_filterMap_eq_countP

/-- A change of a slot changes the number of handles by what was there and what is there. -/
theorem Changes.length_handles {i : SlotIndex} {slot : Slot α} (h : t.Changes t' i slot) :
    t'.handles.length = t.handles.length - (if (t.slot i).handle.isSome then 1 else 0) +
      (if slot.handle.isSome then 1 else 0) := by
  rw [InstanceTable.length_handles, InstanceTable.length_handles, h.slots, Vector.toList_set,
    List.countP_set (by simp)]
  simp

theorem length_handles_le (t : InstanceTable α) : t.handles.length ≤ slotCount := by
  rw [length_handles]
  exact List.countP_le_length.trans (by simp)

theorem handles_pos {i : SlotIndex} {handle : α} (h : (t.slot i).handle = some handle) :
    0 < t.handles.length :=
  List.length_pos_of_mem (mem_handles.2 ⟨i, h⟩)

theorem length_handles_eq :
    t.handles.length = slotCount ↔ ∀ i, t.isFree i = false := by
  have hlen : t.slots.toList.length = slotCount := by simp
  have hall := List.countP_eq_length (p := fun slot => slot.handle.isSome) (l := t.slots.toList)
  rw [hlen] at hall
  rw [length_handles, hall]
  constructor
  · intro h i
    have := h (t.slot i) (Vector.mem_toList_iff.2 (Vector.getElem_mem i.isLt))
    simpa [isFree] using this
  · intro h slot hslot
    obtain ⟨i, hi, rfl⟩ := List.mem_iff_getElem.1 hslot
    have := h ⟨i, by simpa using hi⟩
    simpa [isFree] using this

/-- A handle that is stored finds room. -/
theorem room_of_insert {handle : α} {id : Int32} (h : t.insert handle = .ok (id, t')) :
    t.handles.length ≠ slotCount := by
  obtain ⟨i, ⟨hfree, -⟩, -⟩ := insert_ok h
  intro hfull
  rw [length_handles_eq.1 hfull i] at hfree
  cases hfree

/-- A handle is refused for want of room. -/
theorem full_of_insert {handle : α} {e : Error} (h : t.insert handle = .error e) :
    t.handles.length = slotCount :=
  length_handles_eq.2 (insert_error h).2

theorem length_handles_insert {handle : α} {id : Int32} (h : t.insert handle = .ok (id, t')) :
    t'.handles.length = t.handles.length + 1 := by
  obtain ⟨i, ⟨hfree, -⟩, -, hc, -, -⟩ := insert_ok h
  rw [hc.length_handles, isFree_eq_true.1 hfree]
  rfl

theorem length_handles_remove {handle : α} {id : Int32} (h : t.remove id = .ok (handle, t')) :
    t'.handles.length + 1 = t.handles.length := by
  obtain ⟨i, -, hi, hc, -, -⟩ := remove_ok h
  have hpos := handles_pos hi
  rw [hc.length_handles, hi]
  simp
  omega

theorem mem_handles_iff_get? {handle : α} : handle ∈ t.handles ↔ ∃ id, t.get? id = some handle := by
  rw [mem_handles]
  constructor
  · rintro ⟨i, hi⟩
    exact ⟨t.idAt i, by rw [get?_idAt, hi]⟩
  · rintro ⟨id, h⟩
    obtain ⟨i, -, hi⟩ := get?_eq_some.1 h
    exact ⟨i, hi⟩

/-- The ids that answer, in the order of their slots. -/
def ids (t : InstanceTable α) : List Int32 :=
  ((List.finRange slotCount).filter fun i => (t.slot i).handle.isSome).map t.idAt

theorem mem_ids {id : Int32} : id ∈ t.ids ↔ (t.get? id).isSome = true := by
  rw [ids, List.mem_map, Option.isSome_iff_exists]
  constructor
  · rintro ⟨i, hi, rfl⟩
    rw [get?_idAt]
    exact Option.isSome_iff_exists.1 (by simpa using hi)
  · rintro ⟨handle, h⟩
    obtain ⟨i, rfl, hi⟩ := get?_eq_some.1 h
    exact ⟨i, List.mem_filter.2 ⟨List.mem_finRange i, by rw [hi]; rfl⟩, rfl⟩

theorem nodup_ids (t : InstanceTable α) : t.ids.Nodup :=
  ((List.nodup_finRange _).filter _).map fun _ _ h => idAt_inj h

theorem length_ids (t : InstanceTable α) : t.ids.length = t.handles.length := by
  have hslots : t.slots.toList = (List.finRange slotCount).map fun i => (t.slot i) :=
    List.ext_getElem (by simp) fun i h₁ h₂ => by simp
  rw [ids, List.length_map, length_handles, hslots, List.countP_map, ← List.countP_eq_length_filter]
  rfl

end InstanceTable

end ImageDispatch
