import ImageDispatch.Extension.Identity
import ImageDispatch.Order.SortedMap

/-!
# Candidates

A candidate is the claim of one extension on a key. Two kinds of map collect them.

* `CandidateMap`: keeps all candidates of a key. The first of high rank wins, or else the first
  (`winner?`).
* `LevelMap`: keeps one holder a key. The first candidate holds it until one of high rank comes,
  and each of high rank replaces the one before.
* `CandidateMap.candidates_insert`, `LevelMap.select_insert`: what one insertion does to any key.
-/

namespace ImageDispatch

/-- The claim of one extension on a key. -/
structure Candidate where
  rank : Rank
  /-- Version of the capability. -/
  version : Int
  /-- Position of the extension in the list that was loaded. -/
  index : Nat
  deriving DecidableEq, Inhabited

/-- The winner among the candidates of one key: the first of high rank, or else the first. -/
def Candidate.winner? (cs : List Candidate) : Option Candidate :=
  (cs.find? fun c => c.rank = .high).or cs.head?

/-- All candidates by key, those of one key in the order of insertion. -/
abbrev CandidateMap (κ : Type) [Placed κ] := SortedMap κ (List Candidate)

namespace CandidateMap

variable {κ : Type} [Placed κ]

/-- Adds a candidate after those that the key has. -/
def insert (m : CandidateMap κ) (k : κ) (c : Candidate) : CandidateMap κ :=
  SortedMap.alter m k fun old => old.getD [] ++ [c]

/-- The candidates of a key. -/
def candidates (m : CandidateMap κ) (k : κ) : List Candidate := (m.find? k).getD []

/-- The winner of a key. -/
def select (m : CandidateMap κ) (k : κ) : Option Candidate := Candidate.winner? (m.candidates k)

/-- A map of the candidates in a list. -/
def ofList (claims : List (κ × Candidate)) : CandidateMap κ :=
  claims.foldl (fun m claim => insert m claim.1 claim.2) SortedMap.empty

theorem candidates_insert (m : CandidateMap κ) (k k₂ : κ) (c : Candidate) :
    (m.insert k c).candidates k₂ =
      m.candidates k₂ ++ (if k₂ = k then [c] else []) := by
  by_cases h : k₂ = k
  · subst h
    simp [candidates, insert]
  · simp [candidates, insert, SortedMap.find?_alter_ne _ _ h, h]

end CandidateMap

/-- One holder by key. -/
abbrev LevelMap (κ : Type) [Placed κ] := SortedMap κ Candidate

namespace LevelMap

variable {κ : Type} [Placed κ]

/-- The holder of a key after a claim on it: the claimant if it is of high rank or the key is
free. -/
def successor (c : Candidate) : Option Candidate → Candidate
  | none => c
  | some holder => if c.rank = .high then c else holder

/-- Lets a candidate claim a key. -/
def insert (m : LevelMap κ) (k : κ) (c : Candidate) : LevelMap κ :=
  SortedMap.alter m k (successor c)

/-- The holder of a key. -/
def select (m : LevelMap κ) (k : κ) : Option Candidate := m.find? k

/-- The map after the claims in a list. -/
def ofList (claims : List (κ × Candidate)) : LevelMap κ :=
  claims.foldl (fun m claim => insert m claim.1 claim.2) SortedMap.empty

theorem select_insert (m : LevelMap κ) (k k₂ : κ) (c : Candidate) :
    (m.insert k c).select k₂ =
      if k₂ = k then some (successor c (m.select k₂)) else m.select k₂ := by
  by_cases h : k₂ = k
  · subst h
    simp [select, insert]
  · simp [select, insert, SortedMap.find?_alter_ne _ _ h, h]

end LevelMap

end ImageDispatch
