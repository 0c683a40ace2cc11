import StreetConsole.Text.Blank
import StreetConsole.Text.Quoted

/-!
# Tokens

A console line is cut at its operators; what stands between two operators is one word, blanks and
all, but for those at its ends. Text in quotes is taken as it is, without the quotes, so operators
there are plain characters. Quotes do not nest, and a quote that is never closed reaches to the end
of the line.

`tokenize` does the cutting. A scan is the same at every place of the line but for two things, the
quote that is open and the characters of the word so far; `scan` carries these along.
-/

namespace StreetConsole

/-- How a link of a chain depends on the one before it. -/
inductive Operator where
  /-- Only after a success. -/
  | and
  /-- Only after a failure. -/
  | or
  /-- In any case. -/
  | sequence
deriving DecidableEq, Repr

/-- The spelling of an operator. -/
def Operator.symbol : Operator → String
  | .and => "&&"
  | .or => "||"
  | .sequence => ";"

/-- A piece of a console line. -/
inductive Token where
  | word (text : String)
  | pipe
  | op (o : Operator)
deriving DecidableEq, Repr

namespace Token

/-- The spelling of a token. -/
def spelling : Token → String
  | .word text => text
  | .pipe => "|"
  | .op o => o.symbol

/-- The written form of a token. -/
def written : Token → String
  | .word text => "Word(" ++ Text.quoted text ++ ")"
  | .pipe => "Pipe"
  | .op .and => "And"
  | .op .or => "Or"
  | .op .sequence => "Sequence"

/-- The written form of a list of tokens. -/
def writtenAll (ts : List Token) : String := "[" ++ ", ".intercalate (ts.map written) ++ "]"

/-- Whether the character opens a quoted text. -/
def isQuote (c : Char) : Bool := c == Text.singleQuote || c == Text.doubleQuote

/-- The word made of the given characters, which are in reverse; none if they are all blank. -/
def flush (current : List Char) : List Token :=
  let text := Text.trimChars current.reverse
  if text.isEmpty then [] else [.word (String.ofList text)]

/-- The tokens of the rest of a line, given the quote that is open and the characters, in reverse,
of the word so far. -/
def scan : (quote : Option Char) → (current rest : List Char) → List Token
  | _, current, [] => flush current
  | some q, current, c :: cs =>
    if c = q then scan none current cs else scan (some q) (c :: current) cs
  | none, current, '&' :: '&' :: cs => flush current ++ .op .and :: scan none [] cs
  | none, current, '|' :: '|' :: cs => flush current ++ .op .or :: scan none [] cs
  | none, current, '|' :: cs => flush current ++ .pipe :: scan none [] cs
  | none, current, ';' :: cs => flush current ++ .op .sequence :: scan none [] cs
  | none, current, c :: cs =>
    if isQuote c then scan (some c) current cs else scan none (c :: current) cs

end Token

/-- The tokens of a console line. -/
def tokenize (line : String) : List Token :=
  Token.scan none [] (Text.trimChars line.toList)

end StreetConsole
