/-!
# Places on the integer line

A type whose values have distinct places is totally ordered by them. Keys compare like the digits
of a number: the place of a composite key is the mixed-radix number of its parts, so the order is
lexicographic and distinctness is a fact about remainders. `ranking` sorts by place.
-/

namespace ImageDispatch

/-- A type ordered by the integer place of its values. -/
class Placed (κ : Type) where
  place : κ → Int
  /-- No two values stand at one place. -/
  place_injective : ∀ {a b : κ}, place a = place b → a = b

namespace Placed

variable {κ : Type} [Placed κ]

theorem place_inj {a b : κ} : place a = place b ↔ a = b :=
  ⟨place_injective, fun h => h ▸ rfl⟩

theorem place_ne {a b : κ} (h : a ≠ b) : place a ≠ place b := fun e => h (place_injective e)

/-- The sign of the comparison: `-1`, `0` or `1`. -/
def sign (a b : κ) : Int := if place a < place b then -1 else if place a = place b then 0 else 1

/-- Places decide equality. -/
instance (priority := low) decidableEq : DecidableEq κ := fun _ _ =>
  decidable_of_iff _ place_inj

end Placed

/-- An integer stands at itself. -/
instance : Placed Int := ⟨id, fun h => h⟩

/-- The positions of the keys of a list in the order of the keys. Equal keys stay in the order of
the list. -/
def ranking {κ : Type} [Placed κ] (keys : List κ) : List Nat :=
  (keys.zipIdx.mergeSort fun a b => decide (Placed.place a.1 ≤ Placed.place b.1)).map Prod.snd

end ImageDispatch
