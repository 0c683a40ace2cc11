import StreetConsole.Fault
import StreetConsole.Text.Blank
import StreetConsole.Text.Quoted

/-!
# Why a pattern is refused

The causes for which a search pattern is refused, and their wording. Most of them name the place in
the pattern; in a pattern of several lines they name the line and the column as well.
-/

namespace StreetConsole.Pattern

/-- A cause for which a pattern is refused. -/
inductive Cause where
  | escapeAtEnd
  | badEscape (text : String)
  | incompleteEscape (text : String)
  | octalOutOfRange (text : String)
  | missingBrace
  | unknownCharacterName (name : String)
  | missingName (what : String)
  | unterminatedName (terminator : Char)
  | openGroup
  | lookbehindGroup
  | invalidGroup (group : Nat)
  | badRange (first last : String)
  | unterminatedSet
  | repeatOrder
  | nothingToRepeat
  | multipleRepeat
  | unexpectedEnd
  | badGroupName (name : String)
  | unknownGroupName (name : String)
  | redefinedGroup (name : String) (index earlier : Nat)
  | badGroupNumber
  | unknownExtension (text : String)
  | unterminatedComment
  | unterminatedGroup
  | tooManyBranches
  | flagsNotAtStart
  | localeFlag
  | incompatibleFlags
  | unknownFlag
  | missingFlagEnd
  | missingFlag
  | missingColon
  | globalFlagOn
  | globalFlagOff
  | repertoireOff
  | flagOnAndOff
  | unbalanced
  | lookbehindWidth
  | templateRepeat (operator : String)
deriving DecidableEq, Repr

/-- The cause in words. -/
def Cause.text : Cause → String
  | .escapeAtEnd => "bad escape (end of pattern)"
  | .badEscape text => "bad escape " ++ text
  | .incompleteEscape text => "incomplete escape " ++ text
  | .octalOutOfRange text => "octal escape value " ++ text ++ " outside of range 0-0o377"
  | .missingBrace => "missing \x7b"
  | .unknownCharacterName name => "undefined character name " ++ Text.quoted name
  | .missingName what => "missing " ++ what
  | .unterminatedName terminator =>
    "missing " ++ String.singleton terminator ++ ", unterminated name"
  | .openGroup => "cannot refer to an open group"
  | .lookbehindGroup => "cannot refer to group defined in the same lookbehind subpattern"
  | .invalidGroup group => "invalid group reference " ++ toString group
  | .badRange first last => "bad character range " ++ first ++ "-" ++ last
  | .unterminatedSet => "unterminated character set"
  | .repeatOrder => "min repeat greater than max repeat"
  | .nothingToRepeat => "nothing to repeat"
  | .multipleRepeat => "multiple repeat"
  | .unexpectedEnd => "unexpected end of pattern"
  | .badGroupName name => "bad character in group name " ++ Text.quoted name
  | .unknownGroupName name => "unknown group name " ++ Text.quoted name
  | .redefinedGroup name index earlier =>
    "redefinition of group name " ++ Text.quoted name ++ " as group " ++ toString index
      ++ "; was group " ++ toString earlier
  | .badGroupNumber => "bad group number"
  | .unknownExtension text => "unknown extension ?" ++ text
  | .unterminatedComment => "missing ), unterminated comment"
  | .unterminatedGroup => "missing ), unterminated subpattern"
  | .tooManyBranches => "conditional backref with more than two branches"
  | .flagsNotAtStart => "global flags not at the start of the expression"
  | .localeFlag => "bad inline flags: cannot use 'L' flag with a str pattern"
  | .incompatibleFlags => "bad inline flags: flags 'a', 'u' and 'L' are incompatible"
  | .unknownFlag => "unknown flag"
  | .missingFlagEnd => "missing -, : or )"
  | .missingFlag => "missing flag"
  | .missingColon => "missing :"
  | .globalFlagOn => "bad inline flags: cannot turn on global flag"
  | .globalFlagOff => "bad inline flags: cannot turn off global flag"
  | .repertoireOff => "bad inline flags: cannot turn off flags 'a', 'u' and 'L'"
  | .flagOnAndOff => "bad inline flags: flag turned on and off"
  | .unbalanced => "unbalanced parenthesis"
  | .lookbehindWidth => "look-behind requires fixed-width pattern"
  | .templateRepeat operator => "internal: unsupported template operator " ++ operator

/-- Why a pattern was not read. -/
inductive Error where
  /-- The pattern is refused, at a place if there is one to name. -/
  | refused (cause : Cause) (place : Option Nat)
  /-- Reading was given up. -/
  | fault (f : Fault)

/-- The line and column of a place in a text, both counted from one. -/
def lineAndColumn (cs : List Char) (place : Nat) : Nat × Nat :=
  let before := cs.take place
  (before.count '\n' + 1, (before.reverse.takeWhile (· != '\n')).length + 1)

/-- The refusal of a pattern in words. -/
def refusalText (pattern : String) (cause : Cause) : Option Nat → String
  | none => cause.text
  | some place =>
    let cs := pattern.toList
    let text := cause.text ++ " at position " ++ toString place
    if cs.contains '\n' then
      let (line, column) := lineAndColumn cs place
      text ++ " (line " ++ toString line ++ ", column " ++ toString column ++ ")"
    else text

end StreetConsole.Pattern
