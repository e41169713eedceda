import ImageDispatch.Rehearsal.Cast
import ImageDispatch.Rehearsal.Lines

/-!
# Exercises of candidate maps

* `exerciseCandidates`, `exerciseLevels`: steps with a map that keeps all candidates of a key, and
  with one that keeps one holder.
* `reportCandidates`, `reportLevels`: the map of the extensions of a type.
-/

namespace ImageDispatch.Rehearsal

/-! ## Steps -/

/-- What can be done with a map. -/
inductive MapStep
  | insert (key : Int) (c : Candidate)
  | select (key : Int)
  | candidates (key : Int)
  | contains (key : Int)
  | keys
  deriving DecidableEq

/-- What comes of it. -/
inductive MapAnswer
  | nothing
  | selected (c : Option Candidate)
  | candidates (cs : List Candidate)
  | flag (yes : Bool)
  | keys (ks : List Int)

/-- What is told after a step with a map. -/
structure MapEntry where
  answer : MapAnswer
  size : Nat

/-- Takes steps with a map that keeps all candidates of a key. -/
def exerciseCandidates : List MapStep → CandidateMap Int → List MapEntry
  | [], _ => []
  | step :: rest, m =>
    let (answer, m) : MapAnswer × CandidateMap Int :=
      match step with
      | .insert key c => (.nothing, m.insert key c)
      | .select key => (.selected (m.select key), m)
      | .candidates key => (.candidates (m.candidates key), m)
      | .contains key => (.flag (SortedMap.contains m key), m)
      | .keys => (.keys (SortedMap.keys m), m)
    ⟨answer, SortedMap.size m⟩ :: exerciseCandidates rest m

/-- Takes steps with a map that keeps one holder of a key. -/
def exerciseLevels : List MapStep → LevelMap Int → List MapEntry
  | [], _ => []
  | step :: rest, m =>
    let (answer, m) : MapAnswer × LevelMap Int :=
      match step with
      | .insert key c => (.nothing, m.insert key c)
      | .select key => (.selected (m.select key), m)
      | .candidates key => (.candidates (m.select key).toList, m)
      | .contains key => (.flag (SortedMap.contains m key), m)
      | .keys => (.keys (SortedMap.keys m), m)
    ⟨answer, SortedMap.size m⟩ :: exerciseLevels rest m

/-! ## Maps of extensions -/

/-- The map of the extensions of a type. -/
structure MapReport where
  /-- The keys in order, with all their candidates if the map keeps them, and with the winner. -/
  rows : List (Key × Option (List Candidate) × Option Candidate)
  descriptors : List Descriptor
  log : List String

/-- The log about the extensions that are skipped. -/
def skippingLog (type : ExtensionType) (shape : PayloadShape) (list : List Descriptor) :
    List String :=
  (mislabelled type shape list).filterMap fun d => (Event.log .warn d.mislabelledMessage).line?

/-- The map of all candidates among scripted extensions. -/
def reportCandidates (type : ExtensionType) (shape : PayloadShape)
    (scripts : List ExtensionScript) : MapReport :=
  let list := descriptorsFrom 0 scripts
  let m := candidateMap type shape list
  { rows := (SortedMap.keys m).map fun k => (k, some (m.candidates k), m.select k)
    descriptors := list
    log := skippingLog type shape list }

/-- The map of holders among scripted extensions. -/
def reportLevels (type : ExtensionType) (shape : PayloadShape) (scripts : List ExtensionScript) :
    MapReport :=
  let list := descriptorsFrom 0 scripts
  let m := levelMap type shape list
  { rows := (SortedMap.keys m).map fun k => (k, none, m.select k)
    descriptors := list
    log := skippingLog type shape list }

end ImageDispatch.Rehearsal
