import ImageDispatch.Order.Placed

/-!
# Maps in key order

`SortedMap κ α`: a finite map whose entries stand in the strict order of their keys. It has one
way to change, `alter`, which rewrites the value of one key and creates the entry if there is
none.

* `find?_alter_self`, `find?_alter_ne`: what `alter` does, seen through `find?`.
* `sorted`: a proof field; the keys are strictly increasing after every operation.
-/

namespace ImageDispatch

/-- The entries' keys are strictly increasing. -/
def KeysAscend {κ α : Type} [Placed κ] (entries : List (κ × α)) : Prop :=
  entries.Pairwise fun a b => Placed.place a.1 < Placed.place b.1

/-- A finite map from `κ` to `α`, in key order. -/
structure SortedMap (κ α : Type) [Placed κ] where
  entries : List (κ × α)
  sorted : KeysAscend entries

namespace SortedMap

variable {κ α : Type} [Placed κ]

open Placed

/-- The map without entries. -/
def empty : SortedMap κ α := ⟨[], List.Pairwise.nil⟩

/-- The keys, in order. -/
def keys (m : SortedMap κ α) : List κ := m.entries.map Prod.fst

/-- Number of keys. -/
def size (m : SortedMap κ α) : Nat := m.entries.length

/-- The first value stored under `k`. -/
def lookup (k : κ) : List (κ × α) → Option α
  | [] => none
  | (k', v) :: rest => if place k' = place k then some v else lookup k rest

/-- The value of `k`. -/
def find? (m : SortedMap κ α) (k : κ) : Option α := lookup k m.entries

/-- `k` has a value. -/
def contains (m : SortedMap κ α) (k : κ) : Bool := (m.find? k).isSome

/-- Rewrites the value of `k` in entries that ascend, or puts it in its place. -/
def alterEntries (k : κ) (f : Option α → α) : List (κ × α) → List (κ × α)
  | [] => [(k, f none)]
  | (k', v) :: rest =>
    if place k < place k' then (k, f none) :: (k', v) :: rest
    else if place k = place k' then (k', f (some v)) :: rest
    else (k', v) :: alterEntries k f rest

theorem mem_alterEntries {k : κ} {f : Option α → α} {l : List (κ × α)} {e : κ × α}
    (h : e ∈ alterEntries k f l) : place e.1 = place k ∨ ∃ e' ∈ l, place e.1 = place e'.1 := by
  induction l with
  | nil => simp_all [alterEntries]
  | cons head rest ih =>
    obtain ⟨k', v⟩ := head
    unfold alterEntries at h
    split at h
    · rcases List.mem_cons.1 h with rfl | h
      · exact Or.inl rfl
      · exact Or.inr ⟨e, h, rfl⟩
    · split at h
      · rcases List.mem_cons.1 h with rfl | h
        · exact Or.inr ⟨(k', v), by simp, rfl⟩
        · exact Or.inr ⟨e, by simp [h], rfl⟩
      · rcases List.mem_cons.1 h with rfl | h
        · exact Or.inr ⟨(k', v), by simp, rfl⟩
        · rcases ih h with h | ⟨e', he', h⟩
          · exact Or.inl h
          · exact Or.inr ⟨e', by simp [he'], h⟩

theorem keysAscend_alterEntries (k : κ) (f : Option α → α) {l : List (κ × α)}
    (h : KeysAscend l) : KeysAscend (alterEntries k f l) := by
  induction l with
  | nil => simp [alterEntries, KeysAscend]
  | cons head rest ih =>
    obtain ⟨k', v⟩ := head
    have hrest := List.pairwise_cons.1 h
    unfold alterEntries
    split
    · rename_i hlt
      refine List.pairwise_cons.2 ⟨fun e he => ?_, h⟩
      rcases List.mem_cons.1 he with rfl | he
      · exact hlt
      · exact Int.lt_trans hlt (hrest.1 e he)
    · split
      · exact List.pairwise_cons.2 ⟨hrest.1, hrest.2⟩
      · refine List.pairwise_cons.2 ⟨fun e he => ?_, ih hrest.2⟩
        rcases mem_alterEntries he with he | ⟨e', he', heq⟩
        · show place k' < place e.1
          omega
        · have := hrest.1 e' he'
          show place k' < place e.1
          simp only at this
          omega

/-- Gives `k` the value that `f` makes of its present one. -/
def alter (m : SortedMap κ α) (k : κ) (f : Option α → α) : SortedMap κ α :=
  ⟨alterEntries k f m.entries, keysAscend_alterEntries k f m.sorted⟩

/-! ## `alter` through `find?` -/

theorem lookup_eq_none {k : κ} {l : List (κ × α)} (h : ∀ e ∈ l, place k < place e.1) :
    lookup k l = none := by
  induction l with
  | nil => rfl
  | cons head rest ih =>
    have := h head (by simp)
    rw [lookup, if_neg (by omega), ih fun e he => h e (by simp [he])]

theorem lookup_alterEntries_self (k : κ) (f : Option α → α) {l : List (κ × α)}
    (h : KeysAscend l) : lookup k (alterEntries k f l) = some (f (lookup k l)) := by
  induction l with
  | nil => simp [alterEntries, lookup]
  | cons head rest ih =>
    obtain ⟨k', v⟩ := head
    have hrest := List.pairwise_cons.1 h
    unfold alterEntries
    split
    · rename_i hlt
      rw [lookup, if_pos rfl, lookup, if_neg (by omega),
        lookup_eq_none fun e he => Int.lt_trans hlt (hrest.1 e he)]
    · split
      · rename_i heq
        rw [lookup, if_pos heq.symm, lookup, if_pos heq.symm]
      · rename_i hne
        rw [lookup, if_neg fun he => hne he.symm, ih hrest.2, lookup,
          if_neg fun he => hne he.symm]

theorem lookup_alterEntries_ne {k k₂ : κ} (f : Option α → α) (l : List (κ × α)) (h : k₂ ≠ k) :
    lookup k₂ (alterEntries k f l) = lookup k₂ l := by
  have hp := place_ne h
  induction l with
  | nil => simp only [alterEntries, lookup]; rw [if_neg fun e => hp e.symm]
  | cons head rest ih =>
    obtain ⟨k', v⟩ := head
    unfold alterEntries
    split
    · rw [lookup, if_neg fun e => hp e.symm]
    · split
      · rename_i heq
        rw [lookup, lookup, if_neg (by omega), if_neg (by omega)]
      · rw [lookup, lookup, ih]

@[simp] theorem find?_empty (k : κ) : (empty : SortedMap κ α).find? k = none := rfl

@[simp] theorem find?_alter_self (m : SortedMap κ α) (k : κ) (f : Option α → α) :
    (m.alter k f).find? k = some (f (m.find? k)) :=
  lookup_alterEntries_self k f m.sorted

theorem find?_alter_ne (m : SortedMap κ α) {k k₂ : κ} (f : Option α → α) (h : k₂ ≠ k) :
    (m.alter k f).find? k₂ = m.find? k₂ :=
  lookup_alterEntries_ne f m.entries h

end SortedMap

end ImageDispatch
