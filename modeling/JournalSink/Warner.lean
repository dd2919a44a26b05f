/-! # Rate-limited warnings

Lost records are counted, and the count is reported at most once in each
interval. A report takes the count back to zero before it is passed on, so that
whoever receives it may count and report again. Runs are taken to be shorter
than any interval but the empty one.
-/

namespace JournalSink

structure Warner where
  /-- Milliseconds. -/
  interval : Nat
  /-- A report was made, and its interval has begun. -/
  hasWarned : Bool := false
  dropped : UInt64 := 0
deriving DecidableEq, Repr

namespace Warner

def defaultInterval : Nat :=
  5000

def recordDrop (w : Warner) : Warner :=
  { w with dropped := w.dropped + 1 }

def pending (w : Warner) : UInt64 :=
  w.dropped

/-- Takes the count for a report. Taking nothing is no report. -/
def take (w : Warner) : Option UInt64 × Warner :=
  if w.dropped = 0 then (none, w)
  else (some w.dropped, { w with dropped := 0, hasWarned := true })

/-- The interval of an earlier report still runs. -/
def isWaiting (w : Warner) : Bool :=
  w.hasWarned && w.interval != 0

def warnIfDue (w : Warner) : Option UInt64 × Warner :=
  if w.isWaiting then (none, w) else w.take

def flush (w : Warner) : Option UInt64 × Warner :=
  w.take

/-- What is done with a warner; `inside` is done by whoever receives the report. -/
inductive Step
  | drop (times : Nat)
  | warn (inside : List Step)
  | flush (inside : List Step)
  | pending

/-- The count reported, the reports of the steps inside, and what is pending then. -/
inductive Report
  | made (called : Option UInt64) (inner : List Report) (pending : UInt64)

mutual

def run (w : Warner) : Step → Report × Warner
  | .drop times =>
    let w := times.repeat recordDrop w
    (.made none [] w.pending, w)
  | .warn inside => receive w.warnIfDue inside
  | .flush inside => receive w.flush inside
  | .pending => (.made none [] w.pending, w)

/-- Passes a report on, if one was made. -/
def receive (taken : Option UInt64 × Warner) (inside : List Step) : Report × Warner :=
  match taken with
  | (none, w) => (.made none [] w.pending, w)
  | (some count, w) =>
    let (inner, w) := runAll w inside
    (.made (some count) inner w.pending, w)

def runAll (w : Warner) : List Step → List Report × Warner
  | [] => ([], w)
  | step :: steps =>
    let (report, w) := run w step
    let (reports, w) := runAll w steps
    (report :: reports, w)

end

end Warner

end JournalSink
