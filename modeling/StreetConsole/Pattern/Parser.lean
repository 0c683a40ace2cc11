import StreetConsole.Number.Reading
import StreetConsole.Pattern.Escape
import StreetConsole.Text.Identifier

/-!
# Reading a pattern

The grammar of search patterns: alternatives of sequences of repeated parts, with groups of every
kind. Each step takes at least one sign or goes one level down, so a fuel of four steps for each
character of the pattern is never used up.
-/

namespace StreetConsole.Pattern

/-! ## Switches -/

/-- The refusal of a sign that is no switch. -/
def refuseFlag {α : Type} (sign : Sign) (missing : Cause) : Read α :=
  match sign with
  | .plain c => refuse 1 (if Text.isLetter c then .unknownFlag else missing)
  | .escaped _ => refuse 2 missing

/-- Switches to be turned on, from the sign `c` on; gives the sign after them too. -/
def flagsOn (c : Char) (on : Flags) : (fuel : Nat) → Read (Flags × Char)
  | 0 => return (on, c)
  | fuel + 1 => do
    let some flag := Flag.ofChar? c | refuseFlag (.plain c) .missingFlagEnd
    if flag == .locale then refuse 0 .localeFlag
    let on := on ++ [flag]
    if flag.isRepertoire && on.any (fun f => f.isRepertoire && f != flag) then
      refuse 0 .incompatibleFlags
    let some sign ← take | refuse 0 .missingFlagEnd
    match sign with
    | .plain c =>
      if c == ')' || c == '-' || c == ':' then return (on, c)
      if (Flag.ofChar? c).isNone then refuseFlag sign .missingFlagEnd
      flagsOn c on fuel
    | .escaped _ => refuseFlag sign .missingFlagEnd

/-- Switches to be turned off, from the sign `c` on and up to a colon. -/
def flagsOff (c : Char) (off : Flags) : (fuel : Nat) → Read Flags
  | 0 => return off
  | fuel + 1 => do
    let some flag := Flag.ofChar? c | refuseFlag (.plain c) .missingColon
    if flag.isRepertoire then refuse 0 .repertoireOff
    let off := off ++ [flag]
    let some sign ← take | refuse 0 .missingColon
    match sign with
    | .plain c =>
      if c == ':' then return off
      if (Flag.ofChar? c).isNone then refuseFlag sign .missingColon
      flagsOff c off fuel
    | .escaped _ => refuseFlag sign .missingColon

/-- The switches at the head of a group, from the sign `c` on. Nothing is given back when they are
meant for the whole pattern. -/
def flagsOfGroup (c : Char) : Read (Option (Flags × Flags)) := do
  let fuel := (← get).rest.length + 1
  let (on, c) ← if c == '-' then pure ([], c) else flagsOn c [] fuel
  if c == ')' then
    modify fun r => { r with flags := r.flags ++ on }
    return none
  if on.contains .template then refuse 1 .globalFlagOn
  let off ← if c == '-' then do
      let some sign ← take | refuse 0 .missingFlag
      match sign with
      | .plain c =>
        if (Flag.ofChar? c).isNone then refuseFlag sign .missingFlag
        flagsOff c [] fuel
      | .escaped _ => refuseFlag sign .missingFlag
    else pure []
  if off.contains .template then refuse 1 .globalFlagOff
  if on.any off.contains then refuse 1 .flagOnAndOff
  return some (on, off)

/-! ## Heads of groups -/

/-- What stands between an opening parenthesis and the contents of its group. -/
inductive Head where
  | comment
  | reference (group : Nat)
  | switches
  | capture (name : Option (List Char))
  | scope (on off : Flags)
  | atomic
  | look (behind negated : Bool)
  | condition (group : Nat)

/-- Refuses a name that is no identifier. -/
def checkName (name : List Char) : Read Unit := do
  unless Text.isIdentifier name do
    refuse (name.length + 1) (.badGroupName (String.ofList name))

/-- The group with a name. -/
def groupNamed (name : List Char) : Read Nat := do
  match (← get).names.lookup (String.ofList name) with
  | some group => return group
  | none => refuse (name.length + 1) (.unknownGroupName (String.ofList name))

/-- The head of a named group, or a reference to one. -/
def namedHead : Read Head := do
  if (← accept '<') then
    let name ← takeName '>' "group name"
    checkName name
    return .capture (some name)
  else if (← accept '=') then
    let name ← takeName ')' "group name"
    checkName name
    let group ← groupNamed name
    unless (← isClosed group) do refuse (name.length + 1) .openGroup
    checkBehind group
    return .reference group
  else
    let some sign ← take | refuse 0 .unexpectedEnd
    refuse (sign.size + 2) (.unknownExtension ("P" ++ sign.text))

/-- Skips a comment, up to and with its closing parenthesis. -/
def skipComment (start : Nat) : (fuel : Nat) → Read Unit
  | 0 => return ()
  | fuel + 1 => do
    let some sign ← take | refuseAt start .unterminatedComment
    unless sign == .plain ')' do skipComment start fuel

/-- The head of a group that depends on another group. -/
def conditionHead : Read Head := do
  let name ← takeName ')' "group name"
  let back := name.length + 1
  if Text.isIdentifier name then
    let group ← groupNamed name
    checkBehind group
    return .condition group
  else
    let group ← match readInt (String.ofList name) with
      | .ok n => if n < 0 then refuse back (.badGroupName (String.ofList name)) else pure n.toNat
      | .error _ => refuse back (.badGroupName (String.ofList name))
    if group == 0 then refuse back .badGroupNumber
    if 1073741823 ≤ group then refuse back (.invalidGroup group)
    let place := (← here) - back
    modify fun r =>
      if (r.asked.lookup group).isSome then r
      else { r with asked := r.asked ++ [(group, place)] }
    checkBehind group
    return .condition group

/-- The head of a group whose parenthesis stands at `start` and has been taken. -/
def groupHead (start : Nat) : Read Head := do
  unless (← accept '?') do return .capture none
  let some sign ← take | refuse 0 .unexpectedEnd
  match sign with
  | .plain 'P' => namedHead
  | .plain ':' => return .scope [] []
  | .plain '#' =>
    skipComment start ((← get).rest.length + 1)
    return .comment
  | .plain '=' => return .look false false
  | .plain '!' => return .look false true
  | .plain '<' =>
    let some sign ← take | refuse 0 .unexpectedEnd
    match sign with
    | .plain '=' => return .look true false
    | .plain '!' => return .look true true
    | _ => refuse (sign.size + 2) (.unknownExtension ("<" ++ sign.text))
  | .plain '(' => conditionHead
  | .plain '>' => return .atomic
  | .plain c =>
    if (Flag.ofChar? c).isSome || c == '-' then
      match (← flagsOfGroup c) with
      | none => return .switches
      | some (on, off) => return .scope on off
    else refuse (sign.size + 1) (.unknownExtension sign.text)
  | .escaped _ => refuse (sign.size + 1) (.unknownExtension sign.text)

/-! ## Repetitions -/

/-- The repetition count from which on counts are refused. -/
def countLimit : Nat := 4294967295

/-- A repetition count. -/
def repeatCount (ds : List Char) : Read Nat := do
  if maxDigits < ds.length then giveUp (.numeralTooLong ds.length)
  let n := natInBase 10 ds
  if countLimit ≤ n then giveUp .repetitionTooLarge
  return n

/-- The least and the greatest count in braces, the opening one of which has been taken; nothing,
and nothing taken, when there is no such thing. -/
def bracedCounts : Read (Option (Nat × Option Nat)) := do
  let saved ← get
  if (← peek) == some (.plain '\x7d') then return none
  let lo ← takeAllWhile Char.isDigit
  let hi ← if (← accept ',') then takeAllWhile Char.isDigit else pure lo
  unless (← accept '\x7d') do
    set saved
    return none
  let least ← if lo.isEmpty then pure 0 else repeatCount lo
  if hi.isEmpty then return some (least, none)
  let most ← repeatCount hi
  if most < least then refuseAt saved.place .repeatOrder
  return some (least, some most)

/-- The counts of a repetition whose sign has been taken. -/
def repeatCounts (sign : Char) : Read (Option (Nat × Option Nat)) :=
  match sign with
  | '?' => return some (0, some 1)
  | '*' => return some (0, none)
  | '+' => return some (1, none)
  | _ => bracedCounts

/-- Repeats the last of the parts in `done`, which are in reverse. The sign of the repetition stands
at `start`. -/
def repeatLast (start least : Nat) (most : Option Nat) (done : List Node) : Read (List Node) := do
  match done with
  | [] | .anchor _ :: _ => refuseAt start .nothingToRepeat
  | .repeated .. :: _ => refuseAt start .multipleRepeat
  | last :: earlier =>
    let body := match last with
      | .scope [] [] inner => inner
      | n => n
    let greed ← do
      if (← accept '?') then pure Greed.lazy
      else if (← accept '+') then pure Greed.possessive
      else pure Greed.greedy
    return .repeated greed least most body :: earlier

/-! ## Sequences and alternatives -/

/-- Skips a remark, up to and with the end of its line. -/
def skipRemark : (fuel : Nat) → Read Unit
  | 0 => return ()
  | fuel + 1 => do
    match (← take) with
    | none => return ()
    | some sign => unless sign == .plain '\n' do skipRemark fuel

/-- Whether a character is skipped in a pattern written with spaces. -/
def isPatternSpace (c : Char) : Bool :=
  c == ' ' || (0x09 ≤ c.toNat && c.toNat ≤ 0x0d)

/-- The parts of a sequence, with those of plain groups in place of the groups. -/
def unpack (parts : List Node) : List Node :=
  parts.flatMap fun n => match n with
    | .scope [] [] inner => inner.items
    | n => [n]

/-- Takes off the parts with which all alternatives begin. -/
def commonParts : List Node → List (List Node) → List Node × List Node × List (List Node)
  | [], others => ([], [], others)
  | n :: rest, others =>
    if others.all fun alt => (alt.head?.map n.sameLeaf).getD false then
      let (common, first, others) := commonParts rest (others.map List.tail)
      (n :: common, first, others)
    else ([], n :: rest, others)

/-- The items of an alternative that is a single character or a plain character set. -/
def setOfAlternative? : List Node → Option (List SetItem)
  | [.code n] => some [.code n]
  | [.oneOf false items] => some items
  | _ => none

/-- Alternatives as one part: what they have in common comes first, and single characters make up a
set. -/
def joinAlternatives : List (List Node) → Node
  | [] => .empty
  | [parts] => .ofItems parts
  | first :: others =>
    let (common, first, others) := commonParts first others
    let alternatives := first :: others
    let last := match alternatives.mapM setOfAlternative? with
      | some sets => Node.oneOf false sets.flatten.eraseDups
      | none => .ofAlternatives (alternatives.map .ofItems)
    .ofItems (common ++ [last])

/-- Takes the parenthesis that closes a group opened at `start`. -/
def closeParenthesis (start : Nat) : Read Unit := do
  unless (← accept ')') do refuseAt start .unterminatedGroup

mutual

/-- Alternatives, up to a closing parenthesis or the end. Those of the whole pattern are at the
`top`. -/
def alternatives (top verbose : Bool) : (fuel : Nat) → Read Node
  | 0 => return .empty
  | fuel + 1 => return joinAlternatives (← branches top verbose true fuel)

/-- One sequence after another. -/
def branches (top verbose first : Bool) : (fuel : Nat) → Read (List (List Node))
  | 0 => return []
  | fuel + 1 => do
    let parts ← sequence verbose (top && first) [] fuel
    if (← accept '|') then
      let flags := (← get).flags
      let verbose := if top then flags.contains .verbose else verbose
      return parts :: (← branches top verbose false fuel)
    else return [parts]

/-- The parts of a sequence after those in `done`, which are in reverse. The switches of the whole
pattern may only be set before all else in its `first` sequence. -/
def sequence (verbose first : Bool) (done : List Node) : (fuel : Nat) → Read (List Node)
  | 0 => return unpack done.reverse
  | fuel + 1 => do
    match (← peek) with
    | none | some (.plain '|') | some (.plain ')') => return unpack done.reverse
    | some (.escaped c) =>
      let _ ← take
      sequence verbose first ((← nodeEscape c) :: done) fuel
    | some (.plain c) =>
      let start ← here
      let _ ← take
      if verbose && isPatternSpace c then sequence verbose first done fuel
      else if verbose && c == '#' then
        skipRemark ((← get).rest.length + 1)
        sequence verbose first done fuel
      else match c with
        | '[' => sequence verbose first ((← characterSet) :: done) fuel
        | '.' => sequence verbose first (.any :: done) fuel
        | '^' => sequence verbose first (.anchor .lineStart :: done) fuel
        | '$' => sequence verbose first (.anchor .lineEnd :: done) fuel
        | '(' =>
          match (← groupHead start) with
          | .comment => sequence verbose first done fuel
          | .reference group => sequence verbose first (.backref group :: done) fuel
          | .switches =>
            unless first && done.isEmpty do refuseAt start .flagsNotAtStart
            sequence ((← get).flags.contains .verbose) first done fuel
          | head => sequence verbose first ((← contents verbose start head fuel) :: done) fuel
        | '?' | '*' | '+' | '\x7b' =>
          match (← repeatCounts c) with
          | none => sequence verbose first (.code c.toNat :: done) fuel
          | some (least, most) =>
            sequence verbose first (← repeatLast start least most done) fuel
        | c => sequence verbose first (.code c.toNat :: done) fuel

/-- The contents of a group opened at `start`, and its end. -/
def contents (verbose : Bool) (start : Nat) (head : Head) : (fuel : Nat) → Read Node
  | 0 => return .empty
  | fuel + 1 => do
    match head with
    | .capture name =>
      let index ← openGroup name
      let body ← alternatives false verbose fuel
      closeParenthesis start
      closeGroup index body
      return .capture index body
    | .scope on off =>
      let inner := (verbose || on.contains .verbose) && !off.contains .verbose
      let body ← alternatives false inner fuel
      closeParenthesis start
      return .scope on off body
    | .atomic =>
      let body ← alternatives false verbose fuel
      closeParenthesis start
      return .atomic body
    | .look behind negated =>
      let outer := (← get).behind
      if behind && outer.isNone then
        modify fun r => { r with behind := some r.groups.length }
      let body ← alternatives false verbose fuel
      modify fun r => { r with behind := outer }
      closeParenthesis start
      return .look behind negated body
    | .condition group =>
      let yes ← sequence verbose false [] fuel
      let no ← if (← accept '|') then do
          let no ← sequence verbose false [] fuel
          if (← peek) == some (.plain '|') then refuse 0 .tooManyBranches
          pure no
        else pure []
      closeParenthesis start
      return .ifGroup group (.ofItems yes) (.ofItems no)
    | .comment | .reference _ | .switches => return .empty

end

end StreetConsole.Pattern
