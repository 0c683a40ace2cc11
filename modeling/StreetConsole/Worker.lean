/-!
# The background worker

Lines are run by a worker in the background, which is started once and keeps running between lines.
It runs its jobs in a loop of its own, so what a job leaves open there the next one finds. Where
there is no worker, a job is run in the foreground, in a loop that is made for it alone.
-/

namespace StreetConsole

/-- The background worker. Loops are numbered in the order in which they are made, those in the
foreground too. -/
structure Worker where
  /-- The loop of the worker, if it is running. -/
  loop : Option Nat
  /-- How many loops have been made. -/
  made : Nat
deriving DecidableEq, Repr

namespace Worker

/-- No worker has been started. -/
def idle : Worker := ⟨none, 0⟩

/-- Whether the worker is running. -/
def running (w : Worker) : Bool := w.loop.isSome

/-- The loop in which the next job is run. -/
def nextLoop (w : Worker) : Nat := w.loop.getD w.made

/-- Starts the worker, unless it is running. -/
def ensure (w : Worker) : Worker :=
  if w.running then w else ⟨some w.made, w.made + 1⟩

/-- Stops the worker, if it is running. -/
def stop (w : Worker) : Worker := { w with loop := none }

/-- The worker after a job. One that was run in the foreground has taken a loop. -/
def afterJob (w : Worker) : Worker :=
  if w.running then w else { w with made := w.made + 1 }

/-- Runs a job, which is told its loop. -/
def run {ε α : Type} (w : Worker) (job : Nat → Except ε α) : Except ε α × Worker :=
  (job w.nextLoop, w.afterJob)

end Worker

end StreetConsole
