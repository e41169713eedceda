import ImageDispatch.Selection.Candidate
import Mathlib.Data.List.Basic

/-!
# Holders of keys

A level map keeps one candidate a key, and later candidates of high rank replace it.

* `Candidate.holder?`: the last claim of high rank, or else the first claim.
* `LevelMap.select_ofList`: a key is held by the holder among the claims on it. Claims on other keys
  make no difference.
* `LevelMap.mem_entries_ofList`: the entries of the map are the keys that are claimed, each with its
  holder.
-/

namespace ImageDispatch

/-- The holder after claims that came in this order: the last of high rank, or else the first. -/
def Candidate.holder? (cs : List Candidate) : Option Candidate :=
  (cs.reverse.find? fun c => c.rank = .high).or cs.head?

theorem Candidate.holder?_eq_none_iff {cs : List Candidate} : holder? cs = none ↔ cs = [] := by
  cases cs with
  | nil => simp [holder?]
  | cons c rest => simp [holder?]

theorem Candidate.mem_of_holder? {cs : List Candidate} {c : Candidate} (h : holder? cs = some c) :
    c ∈ cs := by
  rcases Option.or_eq_some_iff.1 h with h | ⟨-, h⟩
  · exact List.mem_reverse.1 (List.mem_of_find?_eq_some h)
  · exact List.mem_of_head? h

namespace SortedMap

variable {κ α : Type} [Placed κ]

/-- No key comes twice, so what is stored under a key is what a lookup finds. -/
theorem mem_entries_iff {m : SortedMap κ α} {k : κ} {v : α} :
    (k, v) ∈ m.entries ↔ m.find? k = some v := by
  obtain ⟨entries, sorted⟩ := m
  show (k, v) ∈ entries ↔ lookup k entries = some v
  induction entries with
  | nil => simp [lookup]
  | cons head rest ih =>
    obtain ⟨k', v'⟩ := head
    obtain ⟨hhead, hrest⟩ := List.pairwise_cons.1 sorted
    rw [lookup, List.mem_cons]
    by_cases hk : Placed.place k' = Placed.place k
    · obtain rfl := Placed.place_injective hk
      rw [if_pos rfl, Option.some.injEq]
      constructor
      · rintro (h | h)
        · cases h; rfl
        · exact absurd (hhead _ h) (Int.lt_irrefl _)
      · rintro rfl
        exact .inl rfl
    · rw [if_neg hk, ← ih hrest]
      refine or_iff_right fun h => hk ?_
      cases h
      rfl

end SortedMap

namespace LevelMap

variable {κ : Type} [Placed κ]

/-- Claims one after another leave the last one of high rank, or else the holder from before, or else
the first of them. -/
theorem foldl_successor (cs : List Candidate) (holder : Option Candidate) :
    cs.foldl (fun holder c => some (successor c holder)) holder =
      (cs.reverse.find? fun c => c.rank = .high).or (holder.or cs.head?) := by
  induction cs generalizing holder with
  | nil => cases holder <;> rfl
  | cons c rest ih =>
    rw [List.foldl_cons, ih, List.reverse_cons, List.find?_append, Option.or_assoc, Option.some_or]
    congr 1
    by_cases hc : c.rank = .high
    · cases holder <;> simp [successor, hc]
    · cases holder <;> simp [successor, hc]

/-- A key is held by the holder among the claims on it. -/
theorem select_ofList [DecidableEq κ] (claims : List (κ × Candidate)) (key : κ) :
    (ofList claims).select key =
      Candidate.holder? ((claims.filter fun c => c.1 = key).map Prod.snd) := by
  -- Claims on other keys leave the holder, so the claims on the key come one after another.
  have step : ∀ m : LevelMap κ,
      (claims.foldl (fun m c => m.insert c.1 c.2) m).select key =
        ((claims.filter fun c => c.1 = key).map Prod.snd).foldl
          (fun holder c => some (successor c holder)) (m.select key) := by
    induction claims with
    | nil => exact fun _ => rfl
    | cons c rest ih =>
      intro m
      rw [List.foldl_cons, ih, select_insert]
      by_cases h : c.1 = key
      · simp [h]
      · simp [h, Ne.symm h]
  rw [ofList, step, foldl_successor]
  rfl

/-- The entries of the map are the keys that are claimed, each with its holder. -/
theorem mem_entries_ofList [DecidableEq κ] {claims : List (κ × Candidate)} {key : κ}
    {c : Candidate} : (key, c) ∈ (ofList claims).entries ↔
      Candidate.holder? ((claims.filter fun c => c.1 = key).map Prod.snd) = some c := by
  rw [SortedMap.mem_entries_iff, ← select_ofList]
  rfl

end LevelMap

end ImageDispatch
