import StreetConsole.Token

/-!
# Completion

What may be typed next at the end of a text. Only the first word after the last operator is
completed: with the names of filters after a pipe, and with the names of commands otherwise.
-/

namespace StreetConsole.Completion

/-- Which names are offered. -/
inductive Kind where
  | command
  | filter
deriving DecidableEq, Repr

/-- The word that describes a kind to the user. -/
def Kind.label : Kind → String
  | .command => "Command"
  | .filter => "Filter"

/-- A name that is offered in place of the last `replaced` characters of the text. -/
structure Suggestion where
  name : String
  replaced : Nat
  kind : Kind
deriving DecidableEq, Repr

/-- The last operator of a text and what follows it, given those of the text so far. Quotes mean
nothing here. -/
def lastOperator (last : Option Token) (after : List Char) : List Char → Option Token × List Char
  | [] => (last, after)
  | '&' :: '&' :: cs => lastOperator (some (.op .and)) cs cs
  | '|' :: '|' :: cs => lastOperator (some (.op .or)) cs cs
  | ';' :: cs => lastOperator (some (.op .sequence)) cs cs
  | '|' :: cs => lastOperator (some .pipe) cs cs
  | _ :: cs => lastOperator last after cs

/-- The word to be completed in the text after the last operator: the only word there, unless a
space has ended it. -/
def wordToComplete? (segment : List Char) : Option (List Char) :=
  match Text.wordsOf segment with
  | [] => some []
  | [w] => if segment.getLast? == some ' ' then none else some w
  | _ => none

/-- The names that begin with a word, in order. -/
def matching (names : List String) (word : List Char) (kind : Kind) : List Suggestion :=
  let sorted := names.mergeSort fun a b => decide (a ≤ b)
  (sorted.filter fun name => word.isPrefixOf name.toList).map fun name =>
    { name, replaced := word.length, kind }

/-- What may be typed next at the end of a text. -/
def suggestions (commands filters : List String) (text : String) : List Suggestion :=
  let (last, segment) := lastOperator none text.toList text.toList
  match wordToComplete? segment with
  | none => []
  | some word =>
    if last = some .pipe then matching filters word .filter else matching commands word .command

end StreetConsole.Completion
