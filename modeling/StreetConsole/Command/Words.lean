import StreetConsole.Text.Blank
import StreetConsole.Text.Quoted

/-!
# The words of a command

A command is split into its name and its arguments at spaces, tabs and line ends. Text in quotes
belongs to the word around it, without the quotes. A backslash stands for the character after it;
between double quotes it does so only before a double quote or a backslash, and between single
quotes never. Where a quote is not closed, or nothing follows a backslash, the command is split at
all blanks instead, and quotes and backslashes are plain characters.
-/

namespace StreetConsole.Command

/-- Where in a command the reading is. -/
inductive Mode where
  /-- Between words. -/
  | between
  /-- In a word, outside quotes. -/
  | bare
  /-- Inside quotes. -/
  | quoted (quote : Char)
  /-- After a backslash, inside the given quotes if any. -/
  | escaped (quote : Option Char)
deriving DecidableEq, Repr

/-- Whether a character separates words. -/
def isSeparator (c : Char) : Bool := c == ' ' || c == '\t' || c == '\r' || c == '\n'

/-- Whether a character opens quotes. -/
def isQuote (c : Char) : Bool := c == Text.singleQuote || c == Text.doubleQuote

/-- The word read so far, in reverse; an empty one counts only if it had quotes. -/
def finish (word : List Char) (hadQuotes : Bool) : List (List Char) :=
  if word.isEmpty && !hadQuotes then [] else [word.reverse]

/-- The words of the rest of a command; nothing if it ends inside quotes or after a backslash. -/
def splitFrom : Mode → (word : List Char) → (hadQuotes : Bool) → List Char →
    Option (List (List Char))
  | .between, _, _, [] => some []
  | .bare, word, hadQuotes, [] => some (finish word hadQuotes)
  | .quoted _, _, _, [] => none
  | .escaped _, _, _, [] => none
  | .between, word, hadQuotes, c :: cs =>
    if isSeparator c then splitFrom .between word hadQuotes cs
    else if c = '\\' then splitFrom (.escaped none) [] false cs
    else if isQuote c then splitFrom (.quoted c) [] false cs
    else splitFrom .bare [c] false cs
  | .bare, word, hadQuotes, c :: cs =>
    if isSeparator c then
      (splitFrom .between [] false cs).map (finish word hadQuotes ++ ·)
    else if c = '\\' then splitFrom (.escaped none) word hadQuotes cs
    else if isQuote c then splitFrom (.quoted c) word hadQuotes cs
    else splitFrom .bare (c :: word) hadQuotes cs
  | .quoted q, word, _, c :: cs =>
    if c = q then splitFrom .bare word true cs
    else if c = '\\' && q = Text.doubleQuote then splitFrom (.escaped (some q)) word true cs
    else splitFrom (.quoted q) (c :: word) true cs
  | .escaped none, word, hadQuotes, c :: cs => splitFrom .bare (c :: word) hadQuotes cs
  | .escaped (some q), word, hadQuotes, c :: cs =>
    if c = '\\' || c = q then splitFrom (.quoted q) (c :: word) hadQuotes cs
    else splitFrom (.quoted q) (c :: '\\' :: word) hadQuotes cs

/-- The words of a command. -/
def words (command : String) : List String :=
  match splitFrom .between [] false command.toList with
  | some ws => ws.map String.ofList
  | none => Text.words command

end StreetConsole.Command
