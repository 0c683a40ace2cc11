import StreetConsole.Pattern.Opening
import StreetConsole.Pattern.Trace

/-!
# Repetition

The loops of the matcher. A loop repeats a body, which is given as a function from what is left
after a round to what is left before it.

A round that begins where the round before began is not made, so rounds go on only as long as
something changes. A round ends at no earlier place than it began, unless a possessive repetition in
it goes on from a place that a look behind has got to. In a loop that ends, no two rounds begin at
the same pair of places, their own and that of the round before, so `roundLimit` allows for all of
them.
-/

namespace StreetConsole.Pattern

/-- How many rounds a loop may make in a text of the given size. -/
def roundLimit (size : Nat) : Nat := (size + 2) * (size + 2)

/-- Whether a further round is allowed: there may be a greatest number of rounds, and the round
before has to have begun somewhere else. -/
def mayRepeat (left last : Option Nat) (place : Nat) : Bool :=
  left != some 0 && last != some place

/-! ## Rounds of a body -/

/-- The body so many times. -/
def times (body : Rest → Rest) : Nat → Rest → Rest
  | 0, k => k
  | n + 1, k => fun place t => (body (times body n k) place (t.turn place)).missedAt place

/-- Further rounds of the body before the rest, as many as possible first. The round before began at
`last`. -/
def greedyRounds (body : Rest → Rest) (k : Rest) :
    (fuel : Nat) → (left last : Option Nat) → Rest
  | 0, _, _ => k
  | fuel + 1, left, last => fun place t =>
    let t := t.turn place
    let round : Attempt :=
      if mayRepeat left last place then
        body (greedyRounds body k fuel (left.map (· - 1)) (some place)) place t
      else .missed t
    round.orElse fun _ => (k place t).missedAt place

/-- Further rounds of the body before the rest, as few as possible first. The loop may stand inside
another one. -/
def lazyRounds (inLoop : Bool) (body : Rest → Rest) (k : Rest) :
    (fuel : Nat) → (left last : Option Nat) → Rest
  | 0, _, _ => k
  | fuel + 1, left, last => fun place t =>
    let t := t.turn place
    ((k place t).missedBack inLoop t).orElse fun t =>
      let t := t.turn place
      if mayRepeat left last place then
        let next := lazyRounds inLoop body k fuel (left.map (· - 1)) (some place)
        (body next place t).missedAt place
      else .missed t

/-- The body so many times, each round kept as it is found. -/
def keptTimes (body : Rest → Rest) : Nat → Trace → Attempt
  | 0, t => .found t
  | n + 1, t =>
    match body finish t.reach t with
    | .found t => keptTimes body n t
    | .missed t => .missed t

/-- Further rounds of the body, each kept as it is found, until one fails. -/
def keptRounds (resumption : Resumption) (body : Rest → Rest) :
    (fuel : Nat) → (left last : Option Nat) → Trace → Trace
  | 0, _, _, t => t
  | fuel + 1, left, last, t =>
    if mayRepeat left last t.reach then
      match body finish t.reach t with
      | .found next => keptRounds resumption body fuel (left.map (· - 1)) (some t.reach) next
      | .missed next => resumption.resume next t
    else t

/-- Repeats a body before the rest. -/
def repeatBody (resumption : Resumption) (greed : Greed) (inLoop : Bool) (limit least : Nat)
    (most : Option Nat) (body : Rest → Rest) (k : Rest) : Rest :=
  let left := most.map (· - least)
  match greed with
  | .greedy => times body least (greedyRounds body k limit left none)
  | .lazy => times body least (lazyRounds inLoop body k limit left none)
  | .possessive => fun place t =>
    match keptTimes body least (t.turn place) with
    | .missed t => .missed (t.turn place)
    | .found t =>
      let t := keptRounds resumption body limit left none t
      k t.reach t

/-! ## Runs of single characters

A part that always matches one character is counted and not run. As many characters as possible are
counted first, or as few; then the rest is tried after fewer of them, or after more.
-/

/-- How many characters from a place on pass a test, at most `limit`. -/
def runLength (text : Array Char) (test : Char → Bool) : (limit place : Nat) → Nat
  | 0, _ => 0
  | limit + 1, place =>
    if (text[place]?.map test).getD false then runLength text test limit (place + 1) + 1 else 0

/-- Tries the rest after `spare` characters beyond those that are needed, then after one less, and
so on. -/
def fewer (tryAfter : Nat → Trace → Attempt) : (spare : Nat) → Trace → Attempt
  | 0, t => tryAfter 0 t
  | spare + 1, t => (tryAfter (spare + 1) t).orElse (fewer tryAfter spare)

/-- Tries the rest at a place, then after one character more, and so on. The marks are those of
`earlier` each time. -/
def more (text : Array Char) (single : Single) (inLoop : Bool) (earlier : Trace) (k : Rest) :
    (fuel : Nat) → (left : Option Nat) → Rest
  | 0, _ => fun _ t => .missed t
  | fuel + 1, left => fun place t =>
    ((k place (t.turn place)).missedBack inLoop earlier).orElse fun t =>
      if runLength text single.test 1 place == 0 then .missed (t.turn place)
      else
        let t := t.turn (if single.stepwise then place + 1 else place)
        if left == some 0 then .missed t
        else more text single inLoop earlier k fuel (left.map (· - 1)) (place + 1) t

/-- Repeats a single character before the rest, which begins as `next`. -/
def repeatSingle (text : Array Char) (greed : Greed) (inLoop : Bool) (least : Nat)
    (most : Option Nat) (single : Single) (next : Opening) (k : Rest) : Rest := fun place t =>
  let ahead := text.size - place
  if ahead < least then .missed t
  else
    let limit := match greed with
      | .lazy => least
      | .greedy | .possessive => min (most.getD ahead) ahead
    let count := runLength text single.test limit place
    let t := t.turn (if single.stepwise then place + count else place)
    if count < least then .missed t
    else match greed with
      | .greedy =>
        let tryAfter (spare : Nat) (now : Trace) : Attempt :=
          let place := place + least + spare
          if next.admitsCode text place then
            (k place (now.turn place)).missedBack inLoop t
          else .missed now
        fewer tryAfter (count - least) t
      | .lazy =>
        more text single inLoop t k (ahead + 1) (most.map (· - least)) (place + least) t
      | .possessive => k (place + count) t

end StreetConsole.Pattern
