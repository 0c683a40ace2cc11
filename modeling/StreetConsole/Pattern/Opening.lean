import StreetConsole.Pattern.Variant

/-!
# How patterns begin

What the first character tells about a match. Alternatives and places at which the next character
already rules out a match are passed over, and the matcher does not turn to them.

`Node.opening` is what a part begins with, and `Node.startSet?` the set in which the first character
of a whole match has to be. The classes in this set are judged by the switches of the whole pattern,
whatever the switches are in the group where the set stands.
-/

namespace StreetConsole.Pattern

/-- What a part of a pattern begins with. -/
inductive Opening where
  /-- Nothing of its own: it begins as what follows it. -/
  | blank
  /-- One certain character. -/
  | code (n : Nat)
  /-- A character of a set in which case makes no difference. -/
  | set (flags : Flags) (negated : Bool) (items : List SetItem)
  /-- Anything else. -/
  | other

namespace Opening

/-- What two parts in a row begin with. -/
def followedBy (first next : Opening) : Opening :=
  match first with
  | .blank => next
  | _ => first

/-- Whether the text goes on with the certain character that comes next, if there is one. -/
def admitsCode (text : Array Char) (place : Nat) : Opening → Bool
  | .code n => (text[place]?.map fun c => c.toNat == n).getD false
  | _ => true

/-- Whether a part that begins like this can match at a place, as far as the next character
tells. -/
def admits (text : Array Char) (place : Nat) : Opening → Bool
  | .set flags negated items => (text[place]?.map (isInSet flags negated items)).getD false
  | o => o.admitsCode text place

end Opening

/-- What a part begins with. -/
def Node.opening (flags : Flags) : Node → Opening
  | .empty => .blank
  | .seq a b => (a.opening flags).followedBy (b.opening flags)
  | .code n => if flags.hasCase n n then .other else .code n
  | .oneOf negated items => if isFoldedSet flags items then .other else .set flags negated items
  | .scope on off body => body.opening (flags.combine on off)
  | _ => .other

/-! ## Single characters -/

/-- A part that matches one character. -/
structure Single where
  /-- Whether it matches a character. -/
  test : Char → Bool
  /-- Whether the matcher turns to each place as it counts characters. -/
  stepwise : Bool

/-- The test of a part that always matches one character. -/
def Node.single? (flags : Flags) : Node → Option Single
  | .any => some ⟨fun c => flags.contains .dotAll || c != '\n', false⟩
  | .code n => some ⟨isCode flags n, flags.hasKin n⟩
  | .notCode n => some ⟨fun c => !isCode flags n c, flags.hasKin n⟩
  | .oneOf negated items => some ⟨isInSet flags negated items, isFoldedSet flags items⟩
  | .seq a .empty => a.single? flags
  | .scope on off body => body.single? (flags.combine on off)
  | _ => none

/-! ## Whole patterns -/

/-- A set, or its complement. -/
structure StartSet where
  negated : Bool
  items : List SetItem

/-- Whether a match may begin with a character, in a pattern with the given switches. -/
def StartSet.has (s : StartSet) (flags : Flags) (c : Char) : Bool :=
  s.items.any (SetItem.has flags c) != s.negated

/-- The item for an alternative that begins with one certain character. -/
def Node.startItem? (flags : Flags) (alternative : Node) : Option SetItem :=
  match alternative.items with
  | .code n :: _ => if flags.hasCase n n then none else some (.code n)
  | _ => none

/-- The set in which the first character of a match has to be, if the pattern begins with a set,
with a character, or with alternatives that begin with characters, and case makes no difference. -/
def Node.startSet? (flags : Flags) : Node → Option StartSet
  | .seq a _ => a.startSet? flags
  | .capture _ body => body.startSet? flags
  | .scope on off body => body.startSet? (flags.combine on off)
  | .code n => if flags.hasCase n n then none else some ⟨false, [.code n]⟩
  | .oneOf negated items =>
    if items.any (SetItem.hasCase flags) then none else some ⟨negated, items⟩
  | .alt a b => ((Node.alt a b).alternatives.mapM (Node.startItem? flags)).map (⟨false, ·⟩)
  | _ => none

end StreetConsole.Pattern
