/-!
# What a matcher keeps

While a pattern is matched, the matcher keeps the marks it has set, which tell where groups begin
and end, and the place it has turned to last. An attempt hands both on, whether it finds a match or
misses, since what a missed attempt leaves behind is not taken back everywhere: marks come back in
full inside a loop only, and matchers differ in whether a possessive repetition goes back to where
its failed round began (`Resumption`).
-/

namespace StreetConsole.Pattern

/-- The marks set so far, and the place that the matcher has turned to last. Group `g` begins at
mark `2 g` and ends at mark `2 g + 1`. -/
structure Trace where
  reach : Nat
  marks : List (Option Nat)
deriving DecidableEq, Repr

namespace Trace

/-- The trace before the first step from a place. -/
def start (place : Nat) : Trace := ⟨place, []⟩

/-- Turns to a place. -/
def turn (t : Trace) (place : Nat) : Trace := { t with reach := place }

/-- Sets a mark. Marks below it that have never been set are there from now on, without a place. -/
def mark (t : Trace) (index place : Nat) : Trace :=
  let missing := List.replicate (index + 1 - t.marks.length) none
  { t with marks := (t.marks ++ missing).set index (some place) }

/-- Where a group begins and ends, in this order or not, if both marks are set. -/
def span? (t : Trace) (g : Nat) : Option (Nat × Nat) := do
  let first ← (t.marks[2 * g]?).join
  let last ← (t.marks[2 * g + 1]?).join
  return (first, last)

/-- Where a group begins and ends, if it has matched. -/
def group? (t : Trace) (g : Nat) : Option (Nat × Nat) :=
  (t.span? g).filter fun (first, last) => first ≤ last

/-- Whether some group ends before it begins. -/
def hasReversed (t : Trace) : Bool :=
  (List.range t.marks.length).any fun g =>
    match t.span? g with
    | some (first, last) => last < first
    | none => false

/-- Takes marks back to an earlier trace: all of them, or only those that were not there yet. -/
def takeBack (now : Trace) (all : Bool) (earlier : Trace) : Trace :=
  { now with marks := if all then earlier.marks else now.marks.take earlier.marks.length }

end Trace

/-- Where a possessive repetition goes on once a round of it has failed. Releases of the matcher
differ in this, so a pattern may be found by one and not by another. -/
inductive Resumption where
  /-- At the place that the failed round has got to, as in the first releases that have possessive
  repetitions. -/
  | reached
  /-- Where the failed round began, as in later releases. -/
  | begun
deriving DecidableEq, Repr

/-- What is kept after a failed round, given what it leaves behind and what was there before it. The
marks are taken back in either case. -/
def Resumption.resume (r : Resumption) (missed earlier : Trace) : Trace :=
  match r with
  | .reached => missed.takeBack true earlier
  | .begun => earlier

/-- The outcome of an attempt to match. -/
inductive Attempt where
  | found (after : Trace)
  | missed (after : Trace)
deriving DecidableEq, Repr

namespace Attempt

/-- What is tried after a miss. -/
def orElse (attempt : Attempt) (next : Trace → Attempt) : Attempt :=
  match attempt with
  | .found t => .found t
  | .missed t => next t

/-- Turns to a place after a miss. -/
def missedAt (attempt : Attempt) (place : Nat) : Attempt :=
  attempt.orElse fun t => .missed (t.turn place)

/-- Takes marks back after a miss. -/
def missedBack (attempt : Attempt) (all : Bool) (earlier : Trace) : Attempt :=
  attempt.orElse fun t => .missed (t.takeBack all earlier)

/-- The trace of a match. -/
def trace? : Attempt → Option Trace
  | .found t => some t
  | .missed _ => none

end Attempt

/-- What is left to be matched, from a place on. -/
abbrev Rest := Nat → Trace → Attempt

/-- Nothing is left to be matched. -/
def finish : Rest := fun place t => .found (t.turn place)

end StreetConsole.Pattern
