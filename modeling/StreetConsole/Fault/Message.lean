import StreetConsole.Value.Printer

/-!
# The wording of faults

`Fault.name` is the name of a fault's class and `Fault.message` its text. The text of a raised fault
is built from its arguments, and so can itself fail on an integer too long to write.

A system fault has arguments with places of their own: its error number, its reason, and the files
it is about. Where an operation would have to wait, a number in place of the first file tells how
much has been written. It has to be an integer of a machine word; if it is not, what is raised is
not the system fault but one about the number.
-/

namespace StreetConsole

/-- The error numbers of operations that would have to wait. -/
def waitingNumbers : List Int := [11, 114, 115]

/-- The class of a system fault with this error number. -/
def systemFaultName (number : Int) : String :=
  if [1, 13].contains number then "PermissionError"
  else if number == 2 then "FileNotFoundError"
  else if number == 3 then "ProcessLookupError"
  else if number == 4 then "InterruptedError"
  else if number == 10 then "ChildProcessError"
  else if waitingNumbers.contains number then "BlockingIOError"
  else if number == 17 then "FileExistsError"
  else if number == 20 then "NotADirectoryError"
  else if number == 21 then "IsADirectoryError"
  else if [32, 108].contains number then "BrokenPipeError"
  else if number == 103 then "ConnectionAbortedError"
  else if number == 104 then "ConnectionResetError"
  else if number == 110 then "TimeoutError"
  else if number == 111 then "ConnectionRefusedError"
  else "OSError"

/-- The integer that a value used as an error number stands for. -/
def errorNumber? : Value → Option Int
  | .int n => some n
  | .bool b => some (if b then 1 else 0)
  | _ => none

/-- How much has been written before a system fault with this number, if the first of the arguments
after its reason tells. -/
def writtenCount? (number : Value) : List Value → Option Value
  | [] => none
  | count :: _ =>
    let waiting := (errorNumber? number).any (waitingNumbers.contains ·)
    match count with
    | .bool _ | .int _ | .double _ => if waiting then some count else none
    | _ => none

/-- Why a count of what has been written is of no use. -/
inductive CountError where
  | notInteger
  | outOfRange
deriving DecidableEq, Repr

/-- The number from which on a count does not fit a machine word. -/
def countBound : Int := 9223372036854775808

/-- What is wrong with a number as a count, if anything is. -/
def CountError.of? : Value → Option CountError
  | .int n => if -countBound ≤ n && n < countBound then none else some .outOfRange
  | .double _ => some .notInteger
  | _ => none

/-- The class of what is raised because of a useless count. -/
def CountError.name : CountError → String
  | .notInteger => "TypeError"
  | .outOfRange => "ValueError"

/-- What is wrong with a count, in words. -/
def CountError.text : CountError → String
  | .notInteger => "'float' object cannot be interpreted as an integer"
  | .outOfRange => "cannot fit 'int' into an index-sized integer"

/-- What is wrong with the count that a system fault is raised with, if anything is. There is none
among fewer than two or more than five arguments. -/
def countError? : List Value → Option CountError
  | number :: _ :: rest =>
    if 3 < rest.length then none else (writtenCount? number rest).bind CountError.of?
  | _ => none

/-- The class of a system fault with the given arguments. -/
def systemFaultClass : List Value → String
  | number :: _ :: rest =>
    if 3 < rest.length then "OSError"
    else ((errorNumber? number).map systemFaultName).getD "OSError"
  | _ => "OSError"

/-- The class of a fault raised with the given arguments. -/
def RaisedKind.name (args : List Value) : RaisedKind → String
  | .runtime => "RuntimeError"
  | .value => "ValueError"
  | .key => "KeyError"
  | .type => "TypeError"
  | .lookup => "LookupError"
  | .system => ((countError? args).map CountError.name).getD (systemFaultClass args)

/-- The text of the arguments of a raised fault: nothing for none, a single one as it is shown, and
several as a list in parentheses. -/
def argumentText : List Value → Except Fault String
  | [] => .ok ""
  | [v] => v.shown
  | args => do
    let parts ← Value.writtenItems args
    return "(" ++ ", ".intercalate parts ++ ")"

/-- The files that a system fault is about, given the arguments after its reason: one, or two with
something between them. Without the first there is no second. -/
def systemFaultFiles : List Value → Except Fault String
  | [] | .null :: _ => .ok ""
  | [file, _, other] => do
    let first ← file.written
    if other.isNull then return ": " ++ first
    else return ": " ++ first ++ " -> " ++ (← other.written)
  | file :: _ => return ": " ++ (← file.written)

/-- The arguments about files among those after the reason of a system fault with this number. -/
def fileArguments (number : Value) (rest : List Value) : List Value :=
  if (writtenCount? number rest).isSome then [] else rest

/-- The text of a system fault with two to five arguments: its error number, its reason, and the
files it is about. With fewer or more arguments it is the text of these. -/
def systemFaultText : List Value → Except Fault String
  | number :: reason :: rest =>
    if 3 < rest.length then argumentText (number :: reason :: rest)
    else do
      let files := fileArguments number rest
      let number ← number.shown
      let reason ← reason.shown
      return "[Errno " ++ number ++ "] " ++ reason ++ (← systemFaultFiles files)
  | args => argumentText args

/-- Why bytes are no text, in words. -/
def DecodeReason.text : DecodeReason → String
  | .invalidStart => "invalid start byte"
  | .invalidContinuation => "invalid continuation byte"
  | .unexpectedEnd => "unexpected end of data"

/-- How a refusal to convert an integer goes on. -/
def digitLimitText : String := "Exceeds the limit (4300 digits) for integer string conversion"

/-- How a refusal to convert an integer ends. -/
def digitLimitHint : String := "; use sys.set_int_max_str_digits() to increase the limit"

namespace Fault

/-- The name of the fault's class. -/
def name : Fault → String
  | .raised kind args => kind.name args
  | .missingMember .. => "AttributeError"
  | .repetitionTooLarge | .codeTooLarge => "OverflowError"
  | .lookTooFar => "RuntimeError"
  | .groupReversed => "SystemError"
  | .undecodable .. => "UnicodeDecodeError"
  | .snapshotSealed => "TypeError"
  | .builtinFilter _ => "ChainError"
  | .numeralTooLong _ | .integerTooLong | .notInteger _ | .notNumber _ | .notBoolean _
  | .notSection .. | .isSection _ | .repertoireClash | .unknownLevel _ => "ValueError"

/-- The text of the fault. -/
def message : Fault → Except Fault String
  | .raised .key [v] => v.written
  | .raised .system args =>
    match countError? args with
    | some e => .ok e.text
    | none => systemFaultText args
  | .raised _ args => argumentText args
  | .numeralTooLong digits =>
    .ok (digitLimitText ++ ": value has " ++ toString digits ++ " digits" ++ digitLimitHint)
  | .integerTooLong => .ok (digitLimitText ++ digitLimitHint)
  | .notInteger text =>
    .ok ("invalid literal for int() with base 10: "
      ++ String.ofList ((Text.quoted text).toList.take 200))
  | .notNumber text => .ok ("could not convert string to float: " ++ Text.quoted text)
  | .notBoolean text => .ok ("not a boolean: " ++ text)
  | .notSection key path => .ok ("'" ++ key ++ "' in '" ++ path ++ "' is not a section")
  | .isSection path => .ok ("'" ++ path ++ "' is a section, not a setting")
  | .missingMember kind member =>
    .ok ("'" ++ kind ++ "' object has no attribute '" ++ member ++ "'")
  | .repetitionTooLarge => .ok "the repetition number is too large"
  | .codeTooLarge => .ok "Python int too large to convert to C int"
  | .repertoireClash => .ok "ASCII and UNICODE flags are incompatible"
  | .lookTooFar => .ok "invalid SRE code"
  | .groupReversed =>
    .ok "The span of capturing group is wrong, please report a bug for the re module."
  | .undecodable reason start stop byte =>
    let place :=
      if stop == start + 1 then
        "byte 0x" ++ String.ofList (Text.hex 2 byte) ++ " in position " ++ toString start
      else "bytes in position " ++ toString start ++ "-" ++ toString (stop - 1)
    .ok ("'utf-8' codec can't decode " ++ place ++ ": " ++ reason.text)
  | .snapshotSealed => .ok "'mappingproxy' object does not support item assignment"
  | .unknownLevel level => .ok ("Unknown level: " ++ Text.quoted level)
  | .builtinFilter filter => .ok ("Cannot replace built-in filter '" ++ filter ++ "'")

end Fault

end StreetConsole
