import StreetConsole.Filter.Basic
import StreetConsole.Number.Reading
import StreetConsole.Pattern.Basic
import StreetConsole.Text.LetterCase

/-!
# The built-in filters

All of them work on the lines of a text, and none looks at more than its own arguments. Arguments
beyond those that a filter needs are passed over.
-/

namespace StreetConsole.Filter

open Text

/-! ## Choosing lines -/

/-- How many lines `head` and `tail` take when they are not told. -/
def defaultCount : Nat := 10

/-- The integer that a text begins with, after blanks if there are any; zero when it begins with
none. -/
def leadingInt (s : String) : Except Fault Int :=
  let (negative, rest) := takeSign (dropBlanks s.toList)
  let ds := (rest.takeWhile isDigit).filterMap digit?
  if maxDigits < ds.length then .error (.numeralTooLong ds.length)
  else .ok (if negative then -(natOfDigits ds : Int) else natOfDigits ds)

/-- The number of lines asked for by the first argument: the integer it begins with, or the default
when that is missing or zero. -/
def lineCount (args : List String) : Except Fault Int := do
  match args with
  | [] => return defaultCount
  | arg :: _ =>
    let n ← leadingInt arg
    return if n == 0 then defaultCount else n

/-- The first `n` lines; for a negative `n` all but the last `-n`. -/
def takeFirst (n : Int) (ls : List String) : List String :=
  match n with
  | .ofNat k => ls.take k
  | .negSucc k => ls.take (ls.length - (k + 1))

/-- The last `n` lines; for a negative `n` all but the first `-n`. -/
def takeLast (n : Int) (ls : List String) : List String :=
  match n with
  | .ofNat k => ls.drop (ls.length - k)
  | .negSucc k => ls.drop (k + 1)

/-- The lines that pass a test. They are tested in turn, and a fault ends it. -/
def keepLines (test : String → Except Fault Bool) : List String → Except Fault (List String)
  | [] => .ok []
  | l :: ls => do
    let kept ← test l
    let rest ← keepLines test ls
    return if kept then l :: rest else rest

/-- Keeps the lines in which the pattern is found. -/
def grep (resumption : Pattern.Resumption) (text : String) (args : List String) :
    Except Fault Outcome := do
  match args with
  | [] => return .fail "grep requires a pattern"
  | pattern :: _ =>
    match Pattern.read pattern resumption with
    | .ok p => return .ok (unlines (← keepLines p.foundIn (lines text)))
    | .error (.refused cause place) =>
      return .fail ("Invalid grep pattern '" ++ pattern ++ "': "
        ++ Pattern.refusalText pattern cause place)
    | .error (.fault f) => throw f

/-- The first lines of a text. -/
def head (text : String) (args : List String) : Except Fault Outcome := do
  return .ok (unlines (takeFirst (← lineCount args) (lines text)))

/-- The last lines of a text. -/
def tail (text : String) (args : List String) : Except Fault Outcome := do
  return .ok (unlines (takeLast (← lineCount args) (lines text)))

/-! ## Changing lines -/

/-- A filter that never fails and takes no arguments. -/
def plain (name description : String) (f : String → String) : Filter where
  name := name
  usage := name
  description := description
  apply := fun text _ => .ok (.ok (f text))

/-- Applies a function to each line. -/
def eachLine (f : String → String) (text : String) : String := unlines ((lines text).map f)

/-- The lines in ascending order of their characters. -/
def sortLines (ls : List String) : List String := ls.mergeSort (fun a b => decide (a ≤ b))

/-- Sorts the lines, in descending order if the arguments say so. -/
def sort (text : String) (args : List String) : Except Fault Outcome :=
  let sorted := sortLines (lines text)
  .ok (.ok (unlines (if args.contains "-r" then sorted.reverse else sorted)))

/-- Counts the lines that hold more than blanks. -/
def countLines (text : String) : String :=
  toString ((lines text).countP fun l => !(trim l).isEmpty) ++ " lines"

/-- Puts its number in front of each line, from `n` on. -/
def numberFrom (n : Nat) : List String → List String
  | [] => []
  | l :: rest => (toString n ++ ": " ++ l) :: numberFrom (n + 1) rest

/-- The built-in filters, in the order in which they are listed. -/
def builtins (resumption : Pattern.Resumption := .reached) : List Filter := [
  { name := "grep", usage := "grep <pattern>", description := "Filter lines matching pattern",
    apply := grep resumption },
  { name := "head", usage := "head [n=10]", description := "Show first n lines", apply := head },
  { name := "tail", usage := "tail [n=10]", description := "Show last n lines", apply := tail },
  { name := "sort", usage := "sort [-r for reverse]", description := "Sort lines alphabetically",
    apply := sort },
  plain "uniq" "Remove duplicate lines" fun text => unlines (lines text).eraseDups,
  plain "count" "Count lines" countLines,
  plain "upper" "Convert to uppercase" upper,
  plain "lower" "Convert to lowercase" lower,
  plain "trim" "Trim whitespace from lines" (eachLine trim),
  plain "reverse" "Reverse line order" fun text => unlines (lines text).reverse,
  plain "number" "Add line numbers" fun text => unlines (numberFrom 1 (lines text)),
  plain "first" "Get first word of each line" (eachLine fun l => (words l).headD ""),
  plain "last" "Get last word of each line" (eachLine fun l => (words l).getLastD "")]

end StreetConsole.Filter
