import ImageDispatch.Telemetry.Event

/-!
# Lines of a rehearsal

What is let go at once is let go in no particular order. The lines about it that stand side by
side are sorted, so that a rehearsal has one result.
-/

namespace ImageDispatch.Rehearsal

/-- The lines in order. -/
def sorted (lines : List String) : List String := lines.mergeSort fun a b => decide (a ≤ b)

/-- The lines from the back on, with each run of neighbours that satisfy `p` sorted. The run at
the front is still open. -/
def openRun (p : String → Bool) : List String → List String × List String
  | [] => ([], [])
  | line :: rest =>
    let (run, closed) := openRun p rest
    if p line then (line :: run, closed) else ([], line :: (sorted run ++ closed))

/-- The lines with each run of neighbours that satisfy `p` sorted. -/
def sortRuns (p : String → Bool) (lines : List String) : List String :=
  let (run, closed) := openRun p lines
  sorted run ++ closed

/-- The text `part` stands somewhere in the line. -/
def mentions (part line : String) : Bool := 1 < (line.splitOn part).length

/-- Notes, the last first, as lines in order. -/
def noteLines (notes : List String) : List String :=
  sortRuns (fun line => line.startsWith "deinit " || line.startsWith "drop ") notes.reverse

/-- The log in events, the last first, as lines in order. -/
def logLines (events : List Event) : List String :=
  sortRuns (mentions "deinitialize") (events.reverse.filterMap Event.line?)

end ImageDispatch.Rehearsal
