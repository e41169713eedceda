import ImageDispatch.Dispatch.Registration
import ImageDispatch.Rehearsal.Lines
import ImageDispatch.Rehearsal.Shelf

/-!
# Exercises of libraries

* `exerciseTable`: registers the callbacks of a table.
* `LibraryStep`, `exerciseLibrary`: opens, closes and registers the vendor library.
-/

namespace ImageDispatch.Rehearsal

/-! ## Tables -/

/-- A cast whose only scripts are these. -/
def Cast.ofScripts (scripts : List ExtensionScript) : Cast :=
  { registrations := [{ name := "", extensions := scripts }] }

/-- Registers the callbacks of a table after the extensions that are there before: how it ended,
all extensions, and the log. -/
def exerciseTable (before : List ExtensionScript)
    (table : Option (RegistrationTable (List ExtensionScript))) :
    Except LoadError Nat × List Descriptor × List String :=
  let host := (Cast.ofScripts []).host
  let callbacks := table.map (.map fun scripts => host.appending (registerFrom 0 scripts))
  let ((r, list), w) := (registerTable callbacks (descriptorsFrom 0 before)).run { memory := {} }
  (r, list, logLines w.journal)

/-! ## The vendor library -/

/-- What can be done with the vendor library. -/
inductive LibraryStep
  | openUp
  | close
  | register (family : ExtensionFamily)
  | describe
  deriving DecidableEq

/-- What comes of it. -/
inductive LibraryAnswer
  | nothing
  | opened (r : Except LoadError Unit)
  | registered (r : Except LoadError Nat)
  | text (form path : String)

/-- What is told after a step with the vendor library. -/
structure LibraryEntry where
  answer : LibraryAnswer
  isOpen : Bool
  infos : List ExtensionInfo
  log : List String

/-- Does something with the vendor library, after it has registered some extensions. -/
def libraryAct (host : Host Memory) (path : String) (step : LibraryStep)
    (list : List Descriptor) : Act Memory (LibraryAnswer × List Descriptor) := do
  match step with
  | .openUp => return (.opened (← host.openSource), list)
  | .close =>
    host.closeSource
    return (.nothing, [])
  | .register family =>
    match ← host.registerLibrary family with
    | .ok more => return (.registered (.ok more.length), list ++ more)
    | .error e => return (.registered (.error e), list)
  | .describe => return (.text (Library.repr path (← get).library.isSome) path, list)

/-- Takes steps with the vendor library, after it has registered some extensions. -/
def libraryRun (host : Host Memory) (path : String) :
    List LibraryStep → List Descriptor → World Memory → List LibraryEntry
  | [], _, _ => []
  | step :: rest, list, w =>
    let ((answer, list), w) := (libraryAct host path step list).run { w with journal := [] }
    ⟨answer, w.library.isSome, list.map Descriptor.info, logLines w.journal⟩ ::
      libraryRun host path rest list w

/-- Takes steps with the vendor library at a path. -/
def exerciseLibrary (path : String) (steps : List LibraryStep) : List LibraryEntry :=
  let cast : Cast :=
    { config := { vendorLibrary := some path }, shelf := shelfScripts, loader := shelfLoader }
  libraryRun cast.host path steps [] { memory := {} }

end ImageDispatch.Rehearsal
