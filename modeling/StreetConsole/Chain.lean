import StreetConsole.Token

/-!
# Chains

The tokens of a line make up a chain of links: a command, the filters its output is piped through,
and the operator that ties the link to the one before it. A pipe needs a command before it and takes
the word after it, whole, as one invocation of a filter.
-/

namespace StreetConsole

/-- One command of a chain, its filters, and the operator in front of it. -/
structure Link where
  command : String
  pipes : List String
  operator : Option Operator
deriving DecidableEq, Repr

/-- Why a line is no chain, or no conditional. Only tokens that no line has make up an empty
command, since the words of a line are not empty. -/
inductive ParseError where
  | pipeWithoutCommand
  | pipeWithoutFilter
  | emptyCommand
  | badConditional
deriving DecidableEq, Repr

/-- The error in words; there are none for an empty command. -/
def ParseError.message : ParseError → String
  | .pipeWithoutCommand => "Pipe requires a command before it"
  | .pipeWithoutFilter => "Pipe requires a filter after it"
  | .emptyCommand => ""
  | .badConditional =>
    "Invalid conditional syntax. Use: if <condition> then <command> [else <command>]"

namespace Chain

/-- The link made of the words and pipes gathered so far; none when there are no words. -/
def closeLink (operator : Option Operator) (words pipes : List String) :
    Except ParseError (List Link) :=
  if words.isEmpty then .ok []
  else
    let command := Text.unwords words
    if command.isEmpty then .error .emptyCommand else .ok [⟨command, pipes, operator⟩]

/-- The links of the rest of a line. `operator` is the operator of the link that is being read, and
`words` and `pipes` what has been read of it. The first link of a chain has no operator, so an
operator counts only once a link has been closed. -/
def parseFrom (operator : Option Operator) (started : Bool) (words pipes : List String) :
    List Token → Except ParseError (List Link)
  | [] => closeLink operator words pipes
  | .word w :: rest => parseFrom operator started (words ++ [w]) pipes rest
  | .op o :: rest => do
    let closed ← closeLink operator words pipes
    let started := started || !closed.isEmpty
    let links ← parseFrom (if started then some o else none) started [] [] rest
    return closed ++ links
  | .pipe :: rest =>
    if words.isEmpty then .error .pipeWithoutCommand
    else match rest with
      | .word f :: rest => parseFrom operator started words (pipes ++ [f]) rest
      | _ => .error .pipeWithoutFilter

/-- The chain that tokens make up. No links at all means that there is nothing to do. -/
def ofTokens (tokens : List Token) : Except ParseError (List Link) :=
  parseFrom none false [] [] tokens

/-- The chain of a console line. -/
def parse (line : String) : Except ParseError (List Link) := ofTokens (tokenize line)

end Chain

end StreetConsole
