import StreetConsole.Pattern.Matcher
import StreetConsole.Pattern.Parser

/-!
# Search patterns as a whole

`Pattern.read` reads a pattern and checks what can only be checked when all of it is known;
`Pattern.foundIn` tells whether a text holds a match anywhere. Case is disregarded unless a pattern
says otherwise.
-/

namespace StreetConsole

/-- A search pattern that has been accepted. -/
structure Pattern where
  /-- The pattern itself. -/
  root : Pattern.Node
  /-- Its switches. -/
  flags : Pattern.Flags
  /-- The widths of its groups, in order. -/
  groups : List (Option Pattern.Width)
  /-- Where its possessive repetitions go on. -/
  resumption : Pattern.Resumption := .reached

namespace Pattern

/-- The width of a group. -/
def groupWidth (groups : List (Option Width)) (g : Nat) : Width :=
  ((groups[g - 1]?).join).getD (0, 0)

/-- The name of a repetition, as it appears in a refusal. -/
def Greed.operatorName : Greed → String
  | .greedy => "MAX_REPEAT"
  | .lazy => "MIN_REPEAT"
  | .possessive => "POSSESSIVE_REPEAT"

/-- Refuses, from the outside to the inside and from left to right, repetitions in a template and
parts that look behind themselves by a varying width. -/
def Node.check (template : Bool) (width : Node → Width) : Node → Except Error Unit
  | .seq a b | .alt a b | .ifGroup _ a b => do
    a.check template width
    b.check template width
  | .capture _ body | .scope _ _ body | .atomic body => body.check template width
  | .repeated greed _ _ body => do
    if template then throw (.refused (.templateRepeat greed.operatorName) none)
    body.check template width
  | .look behind _ body => do
    let (lo, hi) := width body
    if behind && lo != hi then throw (.refused .lookbehindWidth none)
    body.check template width
  | .empty | .any | .code _ | .notCode _ | .oneOf .. | .anchor _ | .backref _ => .ok ()

/-- The greatest number of characters by which some part looks behind itself. -/
def Node.farthestLook (width : Node → Width) : Node → Nat
  | .seq a b | .alt a b | .ifGroup _ a b => max (a.farthestLook width) (b.farthestLook width)
  | .capture _ body | .scope _ _ body | .atomic body | .repeated _ _ _ body =>
    body.farthestLook width
  | .look behind _ body => max (if behind then (width body).1 else 0) (body.farthestLook width)
  | .empty | .any | .code _ | .notCode _ | .oneOf .. | .anchor _ | .backref _ => 0

/-- The number of characters from which on a part looks too far behind itself. -/
def lookLimit : Nat := 2147483648

/-- Reads a whole pattern. -/
def readWhole (resumption : Resumption) (cs : List Char) : Read Pattern := do
  goTo cs 0
  let root ← alternatives true false (4 * cs.length + 4)
  let r ← get
  if r.flags.contains .ascii && r.flags.contains .unicode then giveUp .repertoireClash
  if !r.rest.isEmpty then refuse 0 .unbalanced
  if let some (group, place) := r.asked.find? (fun p => decide (r.groups.length < p.1)) then
    refuseAt place (.invalidGroup group)
  let width (n : Node) : Width := n.width (groupWidth r.groups)
  root.check (r.flags.contains .template) width
  if lookLimit ≤ root.farthestLook width then giveUp .lookTooFar
  return { root, flags := r.flags, groups := r.groups, resumption }

/-- Reads a pattern. -/
def read (pattern : String) (resumption : Resumption := .reached) : Except Error Pattern :=
  let cs := pattern.toList
  let start : Reader :=
    { rest := [], place := 0, flags := [.ignoreCase], groups := [], names := [], behind := none,
      asked := [] }
  (readWhole resumption cs).run' start

/-! ## Searching -/

/-- The places at which a match is looked for. The text has to be as long as the shortest match. If
it is known how a match begins, the places are those with such a character; otherwise they end where
one character less than the shortest match is left. -/
def starts (p : Pattern) (text : Array Char) : List Nat :=
  let least := (p.root.width (groupWidth p.groups)).1
  let known := if least == 0 then none else p.root.startSet? p.flags
  if text.size < least then []
  else match known with
    | some set =>
      (List.range text.size).filter fun place =>
        (text[place]?.map (set.has p.flags)).getD false
    | none => List.range (text.size - (least - 1) + 1)

/-- Whether the text holds a match of the pattern. The first match decides, and it must not have a
group that ends before it begins. -/
def foundIn (p : Pattern) (text : String) : Except Fault Bool :=
  let chars := text.toList.toArray
  let width (n : Node) : Nat := (n.width (groupWidth p.groups)).1
  let matchAt (place : Nat) : Option Trace :=
    let found := p.root.run p.resumption chars width p.flags false .other finish
    (found place (.start place)).trace?
  match (p.starts chars).findSome? matchAt with
  | none => .ok false
  | some t => if t.hasReversed then .error .groupReversed else .ok true

end Pattern

end StreetConsole
