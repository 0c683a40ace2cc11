import StreetConsole.Condition
import StreetConsole.Conditional
import StreetConsole.Fault.Message
import StreetConsole.Filter.Registry
import StreetConsole.Reply

/-!
# The engine

Runs a console line: conditionals, chains and pipes. Single commands are handed to a runner, one
at a time and from left to right. A runner may change a state of any kind; the engine does not
look at it.

A runner's faults become failures of its command. Other faults end the line, and what the runner has
done up to then stands.
-/

namespace StreetConsole

/-- Runs single commands on a state. -/
abbrev Runner (σ : Type) := String → StateM σ (Except Fault Reply)

/-- A computation on a state that may be given up, with the state as it is then. -/
abbrev Run (σ : Type) := ExceptT Fault (StateM σ)

/-- What the engine needs to know: who runs commands, if anyone does, and the filters there are. -/
structure Engine (σ : Type) where
  runner : Option (Runner σ)
  filters : FilterRegistry

namespace Engine

variable {σ : Type}

/-- The failure that a fault of a command becomes: its text, or its class if it has no text. -/
def failureOf (f : Fault) : Except Fault Outcome := do
  let text ← f.message
  return .fail (if text.isEmpty then f.name else text)

/-- The outcome of a command, given what the runner answered. A failure always has a message. -/
def settle (command : String) (answer : Except Fault Reply) : Except Fault Outcome :=
  match answer.bind Reply.normalize with
  | .error f => failureOf f
  | .ok o =>
    if !o.success && o.errorText.isEmpty then
      .ok { o with error := some (command ++ " failed") }
    else .ok o

/-- Runs a single command. -/
def single (e : Engine σ) (command : String) : Run σ Outcome :=
  match e.runner with
  | none => return .fail "No command executor set"
  | some run => do
    let answer ← ExceptT.lift (run command)
    ExceptT.mk (pure (settle command answer))

/-- Runs the command of a link and pipes its output through the link's filters if it succeeded. -/
def link (e : Engine σ) (l : Link) : Run σ Outcome := do
  let o ← e.single l.command
  if !l.pipes.isEmpty && o.success then
    ExceptT.mk (pure (e.filters.applyPipes o.output l.pipes))
  else return o

/-- Whether a link is left out after the given outcome. -/
def skips (last : Outcome) : Option Operator → Bool
  | some .and => !last.success
  | some .or => last.success
  | _ => false

/-- What an outcome adds to the output of its chain: its output and the line that reports its
error, each if it is not empty. -/
def logEntries (o : Outcome) : List String :=
  (if o.output.isEmpty then [] else [o.output])
    ++ (if o.errorText.isEmpty then [] else [Outcome.errorLine o.errorText])

/-- Runs the links of a chain, given the last outcome and the output so far. -/
def chainFrom (e : Engine σ) (last : Outcome) (log : List String) : List Link → Run σ Outcome
  | [] => return ⟨last.success, Text.unlines log, last.error⟩
  | l :: rest =>
    if skips last l.operator then chainFrom e last log rest
    else do
      let o ← e.link l
      chainFrom e o (log ++ logEntries o) rest

/-- Runs a chain. Its outcome is that of the link that ran last, with the output of all. -/
def chain (e : Engine σ) (links : List Link) : Run σ Outcome :=
  e.chainFrom (.ok "") [] links

/-- Runs a line that is no conditional. A lone command without pipes is run by itself. -/
def plainLine (e : Engine σ) (line : String) : Run σ Outcome :=
  match Chain.parse line with
  | .error err => return .fail err.message
  | .ok [] => return .fail "No commands to execute"
  | .ok [⟨command, [], _⟩] => e.single command
  | .ok links => e.chain links

/-- Runs a console line. Conditions are judged by the given state, which stays the same throughout
the line. -/
def execute (e : Engine σ) (state : Value) (line : String) : Run σ Outcome :=
  if (Text.trim line).isEmpty then return .fail "Empty command"
  else if Conditional.isConditional line then
    match _h : Conditional.parse? line with
    | none => return .fail ParseError.badConditional.message
    | some c => do
      if (← ExceptT.mk (pure (Condition.evaluate c.condition state))) then
        execute e state c.thenBranch
      else
        match _hb : c.elseBranch with
        | some b => execute e state b
        | none => return .ok ""
  else e.plainLine line
termination_by line.length
decreasing_by
  · exact Conditional.thenBranch_length_lt _h
  · exact Conditional.elseBranch_length_lt _h _hb

end Engine

end StreetConsole
