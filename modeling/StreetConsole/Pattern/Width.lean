import StreetConsole.Pattern.Syntax

/-!
# Widths of patterns

The least and the greatest number of characters that a pattern can match. A part that looks behind
itself has to know this number, so both ends have to agree there.

Widths are counted up to a limit. The greatest width may reach it and then stands for "without
bound"; the least stays below, so a part that is too wide for counting has no fixed width.
-/

namespace StreetConsole.Pattern

/-- The least and the greatest number of characters. -/
abbrev Width := Nat × Nat

/-- The width that stands for "without bound". -/
def widthLimit : Nat := 4294967295

/-- The width as far as it is counted. -/
def Width.counted (w : Width) : Width := (min w.1 (widthLimit - 1), min w.2 widthLimit)

/-- The width of one part after another. -/
def Width.add (a b : Width) : Width := Width.counted (a.1 + b.1, a.2 + b.2)

/-- The width of either of two parts. -/
def Width.or (a b : Width) : Width := (min a.1 b.1, max a.2 b.2)

/-- The width of a repeated part. Without a greatest number of rounds there are as many as widths
are counted to. -/
def Width.repeated (w : Width) (least : Nat) (most : Option Nat) : Width :=
  Width.counted (w.1 * least, w.2 * most.getD widthLimit)

/-- The width of a part, given those of the groups before it. -/
def Node.width (groups : Nat → Width) : Node → Width
  | .empty | .anchor _ | .look .. => (0, 0)
  | .any | .code _ | .notCode _ | .oneOf .. => (1, 1)
  | .seq a b => (a.width groups).add (b.width groups)
  | .alt a b => (a.width groups).or (b.width groups)
  | .capture _ body | .scope _ _ body | .atomic body => body.width groups
  | .repeated _ least most body => (body.width groups).repeated least most
  | .backref g => groups g
  | .ifGroup _ yes no => (yes.width groups).or (no.width groups)

end StreetConsole.Pattern
