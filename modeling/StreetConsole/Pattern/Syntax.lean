/-!
# Search patterns

The form of a search pattern once it has been read. Characters are code points here, since a pattern
may name a code that no text can hold.
-/

namespace StreetConsole.Pattern

/-- The switches of a pattern. -/
inductive Flag where
  | ignoreCase
  | locale
  | multiline
  | dotAll
  | verbose
  | ascii
  | template
  | unicode
deriving DecidableEq, Repr

/-- A set of switches. -/
abbrev Flags := List Flag

namespace Flag

/-- The switch with the given letter. -/
def ofChar? : Char → Option Flag
  | 'i' => some .ignoreCase
  | 'L' => some .locale
  | 'm' => some .multiline
  | 's' => some .dotAll
  | 'x' => some .verbose
  | 'a' => some .ascii
  | 't' => some .template
  | 'u' => some .unicode
  | _ => none

/-- Whether the switch chooses the repertoire of characters, of which there is only one. -/
def isRepertoire (f : Flag) : Bool := f == .ascii || f == .locale || f == .unicode

end Flag

/-- The switches inside a group that turns some on and some off. -/
def Flags.combine (flags on off : Flags) : Flags :=
  let kept := if on.any Flag.isRepertoire then flags.filter (! ·.isRepertoire) else flags
  (kept ++ on).filter (! off.contains ·)

/-- A condition on a place between two characters. -/
inductive Anchor where
  | lineStart
  | lineEnd
  | textStart
  | textEnd
  | boundary
  | nonBoundary
deriving DecidableEq, Repr

/-- A named class of characters. -/
inductive Category where
  | digit
  | space
  | word
deriving DecidableEq, Repr

/-- An item of a character set. -/
inductive SetItem where
  | code (n : Nat)
  | range (lo hi : Nat)
  | category (c : Category) (negated : Bool)
deriving DecidableEq, Repr

/-- How a repetition is tried: as often as possible first, as seldom as possible first, or as often
as possible and never given up. -/
inductive Greed where
  | greedy
  | lazy
  | possessive
deriving DecidableEq, Repr

/-- A pattern, or a part of one. -/
inductive Node where
  | empty
  | seq (first rest : Node)
  | alt (first rest : Node)
  | any
  | code (n : Nat)
  | notCode (n : Nat)
  | oneOf (negated : Bool) (items : List SetItem)
  | anchor (a : Anchor)
  | capture (index : Nat) (body : Node)
  | scope (on off : Flags) (body : Node)
  | atomic (body : Node)
  | repeated (greed : Greed) (least : Nat) (most : Option Nat) (body : Node)
  | look (behind negated : Bool) (body : Node)
  | backref (group : Nat)
  | ifGroup (group : Nat) (yes no : Node)
deriving Repr

namespace Node

/-- A sequence of parts as one. -/
def ofItems : List Node → Node
  | [] => .empty
  | n :: rest => .seq n (ofItems rest)

/-- The parts of a sequence. -/
def items : Node → List Node
  | .empty => []
  | .seq n rest => n :: rest.items
  | n => [n]

/-- Alternatives as one, the earlier ones to be tried first. -/
def ofAlternatives : List Node → Node
  | [] => .empty
  | [n] => n
  | n :: rest => .alt n (ofAlternatives rest)

/-- The alternatives of a choice, the earlier ones first. A choice inside one of them is part of a
sequence, so it does not count. -/
def alternatives : Node → List Node
  | .alt first rest => first :: rest.alternatives
  | n => [n]

/-- Whether the part is a choice. -/
def isChoice : Node → Bool
  | .alt .. => true
  | _ => false

/-- Whether the two parts are one and the same part without inner parts. -/
def sameLeaf : Node → Node → Bool
  | .any, .any => true
  | .code m, .code n => m == n
  | .notCode m, .notCode n => m == n
  | .oneOf b xs, .oneOf c ys => b == c && xs == ys
  | .anchor a, .anchor b => a == b
  | .backref m, .backref n => m == n
  | _, _ => false

end Node

end StreetConsole.Pattern
