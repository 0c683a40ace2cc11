import StreetConsole.Pattern.Error
import StreetConsole.Pattern.Width

/-!
# Reading a pattern, one sign at a time

A pattern is a list of signs: a backslash with the character after it, or any other character alone.
The reader always holds the next sign, so a backslash with nothing after it is refused as soon as
the sign in front of it has been taken.
-/

namespace StreetConsole.Pattern

/-- One sign of a pattern. -/
inductive Sign where
  | plain (c : Char)
  | escaped (c : Char)
deriving DecidableEq, Repr

/-- The characters of a sign. -/
def Sign.chars : Sign → List Char
  | .plain c => [c]
  | .escaped c => ['\\', c]

/-- The sign as text. -/
def Sign.text (s : Sign) : String := String.ofList s.chars

/-- The number of characters of a sign. -/
def Sign.size : Sign → Nat
  | .plain _ => 1
  | .escaped _ => 2

/-- What is known while a pattern is read. -/
structure Reader where
  /-- The part not yet taken. -/
  rest : List Char
  /-- The place of that part in the pattern. -/
  place : Nat
  /-- The switches of the whole pattern. -/
  flags : Flags
  /-- The widths of the groups opened so far, in order; an open group has none yet. -/
  groups : List (Option Width)
  /-- The groups with names. -/
  names : List (String × Nat)
  /-- Inside a part that looks behind itself, the number of groups opened before it. -/
  behind : Option Nat
  /-- The groups asked for by number, and where this was first done. -/
  asked : List (Nat × Nat)

/-- A step in reading a pattern. -/
abbrev Read := StateT Reader (Except Error)

/-- Refuses the pattern at a place. -/
def refuseAt {α : Type} (place : Nat) (cause : Cause) : Read α :=
  throw (.refused cause (some place))

/-- Refuses the pattern, a number of characters before the next sign. -/
def refuse {α : Type} (back : Nat) (cause : Cause) : Read α := do
  refuseAt ((← get).place - back) cause

/-- Gives up reading. -/
def giveUp {α : Type} (f : Fault) : Read α := throw (.fault f)

/-- The place of the next sign. -/
def here : Read Nat := return (← get).place

/-- The next sign, which is not taken. -/
def peek : Read (Option Sign) := do
  match (← get).rest with
  | [] => return none
  | ['\\'] => return none
  | '\\' :: c :: _ => return some (.escaped c)
  | c :: _ => return some (.plain c)

/-- Goes on to a later part of the pattern. -/
def goTo (rest : List Char) (place : Nat) : Read Unit := do
  if rest == ['\\'] then refuseAt place .escapeAtEnd
  modify fun r => { r with rest, place }

/-- Takes the next sign. -/
def take : Read (Option Sign) := do
  let sign ← peek
  match sign with
  | none => return none
  | some s =>
    let r ← get
    goTo (r.rest.drop s.size) (r.place + s.size)
    return some s

/-- Takes the next sign if it is the given character. -/
def accept (c : Char) : Read Bool := do
  if (← peek) == some (.plain c) then
    let _ ← take
    return true
  else return false

/-- Takes at most `count` signs that are characters satisfying `p`. -/
def takeWhileAtMost (p : Char → Bool) : (count : Nat) → Read (List Char)
  | 0 => return []
  | count + 1 => do
    match (← peek) with
    | some (.plain c) =>
      if p c then
        let _ ← take
        return c :: (← takeWhileAtMost p count)
      else return []
    | _ => return []

/-- Takes all signs that are characters satisfying `p`. -/
def takeAllWhile (p : Char → Bool) : Read (List Char) := do
  takeWhileAtMost p (← get).rest.length

/-- The text up to a terminator, which is taken too; `soFar` has been taken already. -/
def takeNameFrom (terminator : Char) (what : String) (soFar : List Char) :
    (fuel : Nat) → Read (List Char)
  | 0 => return soFar
  | fuel + 1 => do
    match (← take) with
    | none =>
      if soFar.isEmpty then refuse 0 (.missingName what)
      else refuse soFar.length (.unterminatedName terminator)
    | some s =>
      if s == .plain terminator then
        if soFar.isEmpty then refuse 1 (.missingName what) else return soFar
      else takeNameFrom terminator what (soFar ++ s.chars) fuel

/-- The name up to a terminator, which is taken too. -/
def takeName (terminator : Char) (what : String) : Read (List Char) := do
  takeNameFrom terminator what [] ((← get).rest.length + 1)

/-! ## Groups -/

/-- The number that the next group gets. -/
def nextGroup : Read Nat := return (← get).groups.length + 1

/-- Whether a group has been opened and closed. -/
def isClosed (group : Nat) : Read Bool := do
  if group == 0 then return false
  match (← get).groups[group - 1]? with
  | some (some _) => return true
  | _ => return false

/-- Refuses a reference, inside a part that looks behind itself, to a group that is not complete
before that part. -/
def checkBehind (group : Nat) : Read Unit := do
  match (← get).behind with
  | none => return ()
  | some before =>
    unless (← isClosed group) do refuse 0 .openGroup
    if before < group then refuse 0 .lookbehindGroup

/-- Opens a group, under a name if there is one; refuses a name that is taken. -/
def openGroup (name : Option (List Char)) : Read Nat := do
  let index ← nextGroup
  match name with
  | none => pure ()
  | some cs =>
    let name := String.ofList cs
    match (← get).names.lookup name with
    | some earlier => refuse (cs.length + 1) (.redefinedGroup name index earlier)
    | none => modify fun r => { r with names := (name, index) :: r.names }
  modify fun r => { r with groups := r.groups ++ [none] }
  return index

/-- The width of a group that has been closed. -/
def Reader.groupWidth (r : Reader) (group : Nat) : Width :=
  ((r.groups[group - 1]?).join).getD (0, 0)

/-- Closes a group. -/
def closeGroup (index : Nat) (body : Node) : Read Unit :=
  modify fun r =>
    { r with groups := r.groups.set (index - 1) (some (body.width r.groupWidth)) }

end StreetConsole.Pattern
