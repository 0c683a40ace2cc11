import StreetConsole.Fault.Message
import StreetConsole.Session

/-!
# The console at a terminal

Plays a session with the user: lines come from standard input, and what the console does is printed.
-/

namespace StreetConsole

/-- Plays the rest of a session; gives the fault that ended it, if one did. -/
partial def Session.Terminal.play {σ : Type} (t : Terminal σ) (s : σ) : IO (Option Fault) := do
  let output ← IO.getStdout
  output.putStr ((t.prompt s).shown.toOption.getD "")
  output.flush
  let line ← (← IO.getStdin).getLine
  if line.isEmpty then return none
  match t.react s line with
  | .nothing => t.play s
  | .leave => return none
  | .giveUp f _ => return some f
  | .answer o after =>
    output.putStr (Session.printed (Terminal.shownFor o))
    t.play after

/-- The console with the settings that come with it; gives the exit code. -/
def console : IO UInt32 := do
  let output ← IO.getStdout
  match Settings.load .packaged >>= Session.start with
  | .error f => failed f
  | .ok (console, greeting) =>
    output.putStr (Session.printed [.print greeting])
    let terminal := Session.terminal .builtin (Session.completes console.settings)
    let fault ← terminal.play console
    output.putStr (Session.printed [Session.goodbye])
    match fault with
    | some f => failed f
    | none => return 0
where
  /-- Reports a fault. -/
  failed (f : Fault) : IO UInt32 := do
    (← IO.getStderr).putStrLn (f.name ++ ": " ++ f.message.toOption.getD "")
    return 1

end StreetConsole

/-- Runs the console. -/
def main : IO UInt32 := StreetConsole.console
