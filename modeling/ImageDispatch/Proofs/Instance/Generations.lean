import ImageDispatch.Proofs.Instance.PartialMap

/-!
# How long an id stays stale

A slot moves on to its next generation whenever it is freed, and the generations start again after
`generationCount` of them. So an id that was given out leads to its slot exactly when the slot has
been freed a multiple of `generationCount` times since.

* `TableRun.freed?`: the slot that a use frees. `TableRun.releases`: how often uses free a slot.
* `slot_take`: what a use does to a slot, if it frees it or not. `generation_foldl` counts the
  generations over a run.
* `TableRun.answers_iff_dvd_releases`: when an id that was given out answers.
-/

namespace ImageDispatch

namespace InstanceTable

variable {α : Type} {t t' : InstanceTable α}

/-- What an id with the place in it answers. -/
theorem get?_of_place? {id : Int32} {i : SlotIndex} {g : Generation}
    (h : InstanceId.place? id = some (i, g)) :
    t.get? id = if (t.slot i).generation = g then (t.slot i).handle else none := by
  unfold get?
  rw [h]
  rfl

/-- An id can be removed if it answers. -/
theorem isOk_takeBack (id : Int32) : (t.takeBack id).1.isOk = (t.get? id).isSome := by
  cases hr : t.remove id with
  | error e => rw [takeBack_error hr, (remove_error hr).2]; rfl
  | ok r =>
    obtain ⟨handle, t'⟩ := r
    obtain ⟨i, rfl, hi, -⟩ := remove_ok hr
    rw [takeBack_ok hr, get?_idAt, hi]
    rfl

end InstanceTable

namespace TableRun

variable {α : Type}

/-- The slot that a use of the table frees, if it frees one. -/
def freed? (r : TableRun α) : TableUse α → Option SlotIndex
  | .remove id =>
    if (r.table.takeBack id).1.isOk then (InstanceId.place? id).map Prod.fst else none
  | _ => none

/-- How often uses free a slot. -/
def releases (i : SlotIndex) : TableRun α → List (TableUse α) → Nat
  | _, [] => 0
  | r, use :: rest => (if r.freed? use = some i then 1 else 0) + releases i (r.take use) rest

theorem freed?_remove_ok {r : TableRun α} {id : Int32} {handle : α} {t : InstanceTable α}
    (h : r.table.remove id = .ok (handle, t)) :
    r.freed? (.remove id) = (InstanceId.place? id).map Prod.fst := by
  rw [freed?, InstanceTable.takeBack_ok h]
  rfl

theorem freed?_remove_error {r : TableRun α} {id : Int32} {e : Error}
    (h : r.table.remove id = .error e) : r.freed? (.remove id) = none := by
  rw [freed?, InstanceTable.takeBack_error h]
  rfl

/-- A use that frees a slot empties it and moves it on to the next generation. Any other use leaves
the generation, and a handle that is there. -/
theorem slot_take (r : TableRun α) (use : TableUse α) (i : SlotIndex) :
    if r.freed? use = some i then
      (r.take use).table.slot i = ⟨(r.table.slot i).generation + 1, none⟩
    else
      ((r.take use).table.slot i).generation = (r.table.slot i).generation ∧
        ∀ handle, (r.table.slot i).handle = some handle →
          ((r.take use).table.slot i).handle = some handle := by
  cases use with
  | get id => exact ⟨rfl, fun _ h => h⟩
  | insert handle =>
    rw [if_neg (by simp [freed?])]
    cases hi : r.table.insert handle with
    | error e => rw [take_insert_error hi]; exact ⟨rfl, fun _ h => h⟩
    | ok x =>
      obtain ⟨id, t'⟩ := x
      obtain ⟨j, ⟨hfree, -⟩, -, hc, -, -⟩ := InstanceTable.insert_ok hi
      rw [take_insert_ok hi]
      dsimp only
      by_cases hj : i = j
      -- The slot that is taken was free, so no handle is lost.
      · subst hj
        rw [hc.self]
        refine ⟨rfl, fun handle' h => ?_⟩
        rw [InstanceTable.isFree_eq_true.1 hfree] at h
        cases h
      · rw [hc.other hj]
        exact ⟨rfl, fun _ h => h⟩
  | remove id =>
    cases hr : r.table.remove id with
    | error e =>
      rw [freed?_remove_error hr, if_neg (by simp), TableRun.take, InstanceTable.takeBack_error hr]
      exact ⟨rfl, fun _ h => h⟩
    | ok x =>
      obtain ⟨handle, t'⟩ := x
      obtain ⟨j, rfl, -, hc, -, -⟩ := InstanceTable.remove_ok hr
      rw [freed?_remove_ok hr, TableRun.take, InstanceTable.takeBack_ok hr, InstanceTable.idAt,
        InstanceId.place?_compose, Option.map_some]
      dsimp only
      by_cases hj : i = j
      · subst hj
        rw [if_pos rfl, hc.self]
      · rw [if_neg (by simpa using Ne.symm hj), hc.other hj]
        exact ⟨rfl, fun _ h => h⟩

/-- The generation of a slot grows by the number of its releases, and wraps around. -/
theorem generation_foldl (i : SlotIndex) (uses : List (TableUse α)) (r : TableRun α) :
    ((uses.foldl take r).table.slot i).generation.val =
      ((r.table.slot i).generation.val + releases i r uses) % generationCount := by
  induction uses generalizing r with
  | nil => exact (Nat.mod_eq_of_lt (r.table.slot i).generation.isLt).symm
  | cons use rest ih =>
    have h := slot_take r use i
    rw [List.foldl_cons, ih, releases]
    split at h
    · rename_i hf
      have hone : (1 : Generation).val = 1 := rfl
      rw [h, if_pos hf, Fin.val_add, hone, Nat.mod_add_mod]
      congr 1
      omega
    · rename_i hf
      rw [h.1, if_neg hf, Nat.zero_add]

/-- A handle stays in its slot until the slot is freed. -/
theorem handle_foldl {i : SlotIndex} {handle : α} (uses : List (TableUse α)) (r : TableRun α)
    (hh : (r.table.slot i).handle = some handle) (h0 : releases i r uses = 0) :
    ((uses.foldl take r).table.slot i).handle = some handle := by
  induction uses generalizing r with
  | nil => exact hh
  | cons use rest ih =>
    have h := slot_take r use i
    rw [releases] at h0
    split at h
    · rename_i hf
      rw [if_pos hf] at h0
      omega
    · exact ih _ (h.2 handle hh) (by omega)

/-- Wrapping around gives the generation back after a multiple of `generationCount` steps. -/
theorem add_mod_eq_self_iff {g n : Nat} (hg : g < generationCount) :
    (g + n) % generationCount = g ↔ generationCount ∣ n := by
  rw [← Nat.mod_eq_of_lt hg, Nat.mod_add_mod, Nat.mod_eq_of_lt hg]
  constructor
  · intro h
    have hd := Nat.sub_mod_eq_zero_of_mod_eq (h.trans (Nat.mod_eq_of_lt hg).symm)
    rw [Nat.add_sub_cancel_left] at hd
    exact Nat.dvd_of_mod_eq_zero hd
  · rintro ⟨k, rfl⟩
    rw [Nat.add_mul_mod_self_left, Nat.mod_eq_of_lt hg]

/-- **When an id answers.** An id that a run gave out answers, and can be removed, exactly when its
slot is taken and the slot has been freed a multiple of `generationCount` times (2 ^ 21) since. As
long as it has not been freed the id answers with its own handle. From the first release on, until
there have been so many, neither reading nor removing gets at the handle that the slot has then. -/
theorem answers_iff_dvd_releases (before later : List (TableUse α)) (handle : α) (id : Int32)
    (hid : ((after before).table.add handle).1 = .ok id) :
    ∃ i, (InstanceId.place? id).map Prod.fst = some i ∧
      let t := (after (before ++ .insert handle :: later)).table
      let n := releases i (after (before ++ [.insert handle])) later
      ((t.get? id).isSome = true ↔ t.isFree i = false ∧ generationCount ∣ n) ∧
        ((t.takeBack id).1.isOk = true ↔ t.isFree i = false ∧ generationCount ∣ n) ∧
        (generationCount ∣ n → t.get? id = (t.slot i).handle) ∧
        (n = 0 → t.get? id = some handle) ∧
        (0 < n → n < generationCount →
          t.get? id = none ∧ t.takeBack id = (.error (.invalidInstance id), id, t)) := by
  cases hi : (after before).table.insert handle with
  | error e => rw [InstanceTable.add_error hi] at hid; cases hid
  | ok x =>
    obtain ⟨id', t₁⟩ := x
    rw [InstanceTable.add_ok hi] at hid
    cases hid
    obtain ⟨i, -, rfl, hc, -, -⟩ := InstanceTable.insert_ok hi
    have hplace := InstanceId.place?_compose i ((after before).table.slot i).generation
    refine ⟨i, by rw [InstanceTable.idAt, hplace]; rfl, ?_⟩
    intro t n
    have hstart : after (before ++ [.insert handle]) =
        ⟨t₁, (after before).table.idAt i :: (after before).given⟩ := by
      rw [after, List.foldl_append]
      exact take_insert_ok hi
    have hrun : t = (later.foldl take (after (before ++ [.insert handle]))).table := by
      simp only [t, after, List.foldl_append, List.foldl_cons, List.foldl_nil]
    -- The id leads to its slot if the generation has come around to where it was.
    have hget : t.get? ((after before).table.idAt i) =
        if generationCount ∣ n then (t.slot i).handle else none := by
      rw [InstanceTable.idAt, InstanceTable.get?_of_place? hplace]
      refine if_congr ?_ rfl rfl
      rw [← add_mod_eq_self_iff ((after before).table.slot i).generation.isLt, ← Fin.val_inj]
      have hg := generation_foldl i later (after (before ++ [.insert handle]))
      rw [← hrun, hstart] at hg
      simp only [hc.self] at hg
      rw [hg, ← hstart]
    have hiff : (t.get? ((after before).table.idAt i)).isSome = true ↔
        t.isFree i = false ∧ generationCount ∣ n := by
      rw [hget, InstanceTable.isFree]
      split <;> simp_all
    refine ⟨hiff, by rw [InstanceTable.isOk_takeBack]; exact hiff,
      fun hd => by rw [hget, if_pos hd], fun h0 => ?_, fun hpos hlt => ?_⟩
    · rw [hget, if_pos (by rw [h0]; exact Nat.dvd_zero _), hrun]
      exact handle_foldl later _ (by rw [hstart]; simp only [hc.self]) h0
    · have hnone : t.get? ((after before).table.idAt i) = none := by
        rw [hget, if_neg fun hd => absurd (Nat.le_of_dvd hpos hd) (by omega)]
      exact ⟨hnone, (isMap _).refuses _ hnone⟩

/-- The id of an instance that was removed, after others came. -/
theorem answers_after_removal :
    let t := (after [.insert 'a', .remove 0, .insert 'b', .insert 'c']).table
    ((after ([] : List (TableUse Char))).table.add 'a').1 = .ok 0 ∧
      releases 0 (after [.insert 'a']) [.remove 0, .insert 'b', .insert 'c'] = 1 ∧
      t.get? 0 = none := by
  intro t
  have hid : ((after ([] : List (TableUse Char))).table.add 'a').1 = .ok 0 := by decide +kernel
  have hn : releases 0 (after [.insert 'a']) [.remove 0, .insert 'b', .insert 'c'] = 1 := by
    decide +kernel
  obtain ⟨i, hi, h⟩ :=
    answers_iff_dvd_releases [] [.remove 0, .insert 'b', .insert 'c'] 'a' 0 hid
  have hi0 : i = 0 := by
    rw [show (InstanceId.place? 0).map Prod.fst = some (0 : SlotIndex) by decide +kernel] at hi
    exact (Option.some.inj hi).symm
  subst hi0
  simp only [List.nil_append, hn] at h
  exact ⟨hid, hn, (h.2.2.2.2 (by decide) (by decide)).1⟩

end TableRun

end ImageDispatch
