import StreetConsole.Pattern.Loop

/-!
# Matching

A backtracking matcher. To match a part is to find a way through it after which the rest of the
pattern, given as a continuation, matches too; the ways are tried in a fixed order and the first
one that succeeds counts. The matcher recurs on the pattern, and its loops on a number of rounds.
-/

namespace StreetConsole.Pattern

/-! ## Places and characters -/

/-- Whether a character of the text is a word character; there is none outside the text. -/
def wordAt (text : Array Char) (flags : Flags) (place : Nat) : Bool :=
  (text[place]?.map (Category.word.has flags)).getD false

/-- Whether the place is between a word character and something else. -/
def atBoundary (text : Array Char) (flags : Flags) (place : Nat) : Bool :=
  (0 < place && wordAt text flags (place - 1)) != wordAt text flags place

/-- Whether a condition holds at a place of the text. -/
def Anchor.holds (text : Array Char) (flags : Flags) (place : Nat) : Anchor → Bool
  | .textStart => place == 0
  | .textEnd => place == text.size
  | .lineStart =>
    place == 0 || (flags.contains .multiline && text[place - 1]? == some '\n')
  | .lineEnd =>
    place == text.size
      || (text[place]? == some '\n' && (flags.contains .multiline || place + 1 == text.size))
  | .boundary => text.size != 0 && atBoundary text flags place
  | .nonBoundary => text.size != 0 && !atBoundary text flags place

/-- Matches one character. -/
def oneChar (text : Array Char) (test : Char → Bool) (k : Rest) : Rest := fun place t =>
  match text[place]? with
  | some c => if test c then k (place + 1) t else .missed t
  | none => .missed t

/-- Whether `count` characters from `first` and from `second` on are the same. -/
def sameText (text : Array Char) (flags : Flags) (first second : Nat) : (count : Nat) → Bool
  | 0 => true
  | count + 1 =>
    match text[first]?, text[second]? with
    | some c, some d =>
      let same := if flags.contains .ignoreCase
        then flags.lower c.toNat == flags.lower d.toNat else c == d
      same && sameText text flags (first + 1) (second + 1) count
    | _, _ => false

/-! ## Patterns -/

/-- Tries an alternative that begins with the given opening, unless the next character rules it out.
After a miss the marks are taken back. -/
def tryAlternative (text : Array Char) (inLoop : Bool) (opening : Opening) (run : Rest) : Rest :=
  fun place t =>
    if opening.admits text place then (run place (t.turn place)).missedBack inLoop t
    else .missed t

/-- Matches a part of a pattern and then the rest `k`, which begins as `next`. The part may stand
inside a loop. -/
def Node.run (resumption : Resumption) (text : Array Char) (width : Node → Nat) :
    Node → (flags : Flags) → (inLoop : Bool) → (next : Opening) → (k : Rest) → Rest
  | .empty, _, _, _, k => k
  | .seq a b, flags, inLoop, next, k =>
    a.run resumption text width flags inLoop ((b.opening flags).followedBy next)
      (b.run resumption text width flags inLoop next k)
  | .alt a b, flags, inLoop, _, k => fun place t =>
    let first := a.run resumption text width flags inLoop .other k
    let others := b.run resumption text width flags inLoop .other k
    (tryAlternative text inLoop (a.opening flags) first place t).orElse fun t =>
      if b.isChoice then others place t
      else tryAlternative text inLoop (b.opening flags) others place t
  | .any, flags, _, _, k => oneChar text (fun c => flags.contains .dotAll || c != '\n') k
  | .code n, flags, _, _, k => oneChar text (isCode flags n) k
  | .notCode n, flags, _, _, k => oneChar text (fun c => !isCode flags n c) k
  | .oneOf negated items, flags, _, _, k => oneChar text (isInSet flags negated items) k
  | .anchor a, flags, _, _, k => fun place t =>
    if a.holds text flags place then k place t else .missed t
  | .capture index body, flags, inLoop, _, k => fun place t =>
    let close : Rest := fun place t => k place (t.mark (2 * index + 1) place)
    body.run resumption text width flags inLoop .other close place (t.mark (2 * index) place)
  | .scope on off body, flags, inLoop, next, k =>
    body.run resumption text width (flags.combine on off) inLoop next k
  | .atomic body, flags, inLoop, _, k => fun place t =>
    match body.run resumption text width flags inLoop .other finish place (t.turn place) with
    | .found t => k t.reach t
    | .missed t => .missed (t.turn place)
  | .repeated greed least most body, flags, inLoop, next, k =>
    match body.single? flags with
    | some single => repeatSingle text greed inLoop least most single next k
    | none =>
      let bodyInLoop := inLoop || greed != .possessive
      repeatBody resumption greed inLoop (roundLimit text.size) least most
        (body.run resumption text width flags bodyInLoop .other) k
  | .look behind negated body, flags, inLoop, _, k => fun place t =>
    let back := if behind then width body else 0
    let start := place - back
    if place < back then if negated then k place t else .missed t
    else match body.run resumption text width flags inLoop .other finish start (t.turn start) with
      | .found t => if negated then .missed t else k place t
      | .missed after =>
        if negated then k place (after.takeBack inLoop t) else .missed after
  | .backref g, flags, _, _, k => fun place t =>
    match t.group? g with
    | none => .missed t
    | some (first, last) =>
      if sameText text flags first place (last - first) then k (place + (last - first)) t
      else .missed t
  | .ifGroup g yes no, flags, inLoop, next, k => fun place t =>
    if (t.group? g).isSome then
      let afterYes := match no with
        | .empty => next
        | _ => .other
      yes.run resumption text width flags inLoop afterYes k place t
    else no.run resumption text width flags inLoop next k place t

end StreetConsole.Pattern
