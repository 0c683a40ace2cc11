import StreetConsole.Dict
import StreetConsole.Fault
import StreetConsole.Text.LetterCase
import StreetConsole.Text.Quoted

/-!
# Logging

Which log records are shown, and how. Loggers are known by name; each has a level, and the root
logger, whose name is empty or `root`, has the handlers that write records. A record is one line:
the time, the level, the logger and line it comes from, and its message.
-/

namespace StreetConsole.Log

/-! ## Levels -/

/-- The names of levels that may be asked for. -/
def levels : Dict Int := [
  ("CRITICAL", 50), ("FATAL", 50), ("ERROR", 40), ("WARNING", 30), ("WARN", 30), ("INFO", 20),
  ("DEBUG", 10), ("NOTSET", 0)]

/-- A level as it is asked for. -/
inductive Request where
  | name (s : String)
  | number (n : Int)
deriving DecidableEq, Repr

/-- The one name, next to those of levels, that means something else: the layout of records. -/
def layoutName : String := "BASIC_FORMAT"

/-- The layout of records, which is no level. -/
def layout : String := "%(levelname)s:%(name)s:%(message)s"

/-- The level asked for; the default for a name that means nothing. -/
def Request.level (default : Int) : Request → Except Fault Int
  | .number n => .ok n
  | .name s =>
    let name := Text.upper s
    if name = layoutName then .error (.unknownLevel layout)
    else .ok ((Dict.get? levels name).getD default)

/-- The name of a level in a record. -/
def levelName (n : Int) : String :=
  match n with
  | 50 => "CRITICAL"
  | 40 => "ERROR"
  | 30 => "WARNING"
  | 20 => "INFO"
  | 10 => "DEBUG"
  | 0 => "NOTSET"
  | n => "Level " ++ toString n

/-! ## Setting up -/

/-- What writes records. -/
inductive Writer where
  /-- Writes to the console without tearing the prompt apart. -/
  | console
deriving DecidableEq, Repr

/-- The loggers and what writes their records. -/
structure Loggers where
  root : Int
  writers : List Writer
  others : Dict Int

/-- The loggers before anything has been set up. -/
def Loggers.initial : Loggers := { root := 30, writers := [], others := [] }

/-- Whether a name is that of the root logger. -/
def isRoot (name : String) : Bool := name.isEmpty || name == "root"

/-- The level of a logger. -/
def Loggers.level (l : Loggers) (name : String) : Int :=
  if isRoot name then l.root else (Dict.get? l.others name).getD 0

/-- Sets the level of a logger. -/
def Loggers.setLevel (l : Loggers) (name : String) (n : Int) : Loggers :=
  if isRoot name then { l with root := n } else { l with others := Dict.put l.others name n }

/-- A level that is asked for a logger, and the one that a name without meaning stands for. -/
structure Order where
  logger : String
  request : Request
  default : Int

/-- The level that is ordered. -/
def Order.level (o : Order) : Except Fault Int := o.request.level o.default

/-- The order for the root logger. -/
def Order.general (request : Request) : Order := ⟨"", request, 20⟩

/-- The orders for single loggers, and after them those for loggers to be silenced. -/
def orders (modules silenced : Dict Request) : List Order :=
  modules.map (fun p => ⟨p.1, p.2, 20⟩) ++ silenced.map (fun p => ⟨p.1, p.2, 50⟩)

/-- Sets levels one after another, up to the first that is refused. -/
def setLevels : List Order → Loggers → Loggers × Option Fault
  | [], l => (l, none)
  | o :: rest, l =>
    match o.level with
    | .ok n => setLevels rest (l.setLevel o.logger n)
    | .error f => (l, some f)

/-- Sets up logging: the level of the root logger and its writer, then the levels of single
loggers. -/
def configure (general : Request) (modules silenced : Dict Request) : Loggers × Option Fault :=
  match (Order.general general).level with
  | .error f => (.initial, some f)
  | .ok n =>
    setLevels (orders modules silenced) { Loggers.initial with root := n, writers := [.console] }

/-! ## Records -/

/-- A natural with at least so many digits. -/
def padded (width n : Nat) : String :=
  let ds := Nat.toDigits 10 n
  String.ofList (List.replicate (width - ds.length) '0' ++ ds)

/-- The year, month and day of a day counted from the first of January 1970. The count is moved to
years that begin in March, so that the day a leap year adds is the last one of its year. -/
def civilDate (days : Nat) : Nat × Nat × Nat :=
  let z := days + 719468
  let era := z / 146097
  let doe := z % 146097
  let yoe := (doe - doe / 1460 + doe / 36524 - doe / 146096) / 365
  let doy := doe - (365 * yoe + yoe / 4 - yoe / 100)
  let mp := (5 * doy + 2) / 153
  let day := doy - (153 * mp + 2) / 5 + 1
  let month := if mp < 10 then mp + 3 else mp - 9
  let year := yoe + era * 400 + (if month ≤ 2 then 1 else 0)
  (year, month, day)

/-- A time in seconds since the beginning of 1970, and the thousandths after them. -/
def timeText (seconds millis : Nat) : String :=
  let (year, month, day) := civilDate (seconds / 86400)
  let s := seconds % 86400
  padded 4 year ++ "-" ++ padded 2 month ++ "-" ++ padded 2 day ++ " "
    ++ padded 2 (s / 3600) ++ ":" ++ padded 2 (s / 60 % 60) ++ ":" ++ padded 2 (s % 60)
    ++ "," ++ padded 3 millis

/-- How an argument is put in its place: at the left of a field or at the right, the width of the
field, and the greatest number of characters. -/
structure Field where
  left : Bool
  width : Nat
  limit : Option Nat

/-- A field as wide as its argument. -/
def Field.plain : Field := { left := false, width := 0, limit := none }

/-- The field described further by a character; nothing when the character ends the description. -/
def Field.extend? (f : Field) (c : Char) : Option Field :=
  if c == '-' then some { f with left := true }
  else if c == '.' then some { f with limit := some 0 }
  else if c.isDigit then
    let digit := c.toNat - 48
    match f.limit with
    | some n => some { f with limit := some (10 * n + digit) }
    | none => some { f with width := 10 * f.width + digit }
  else if "+ #hlL".toList.contains c then some f
  else none

/-- The text of an argument as the last character of its place asks for it: in quotes, in quotes and
with the first 128 characters only, or as it is. -/
def converted (kind : Char) (arg : String) : String :=
  match kind with
  | 'r' => Text.quoted arg
  | 'a' => Text.asciiQuoted arg
  | _ => arg

/-- A text in its field. -/
def Field.fit (f : Field) (text : String) : List Char :=
  let cs := match f.limit with
    | some n => text.toList.take n
    | none => text.toList
  let space := List.replicate (f.width - cs.length) ' '
  if f.left then cs ++ space else space ++ cs

/-- A message with arguments in its places. A place begins with a percent sign and ends with a
letter: `%s` takes an argument as it is, `%r` and `%a` in quotes, and `%%` is a percent sign. The
field is that of the place being read. -/
def fill : (field : Option Field) → List Char → List String → List Char
  | _, [], _ => []
  | none, c :: cs, args => if c == '%' then fill (some .plain) cs args else c :: fill none cs args
  | some field, c :: cs, args =>
    match field.extend? c with
    | some field => fill (some field) cs args
    | none =>
      if c == '%' then '%' :: fill none cs args
      else match args with
        | [] => fill none cs []
        | arg :: args => field.fit (converted c arg) ++ fill none cs args

/-- A log record. -/
structure Record where
  logger : String
  level : Int
  line : Int
  message : String
  args : List String
  seconds : Nat
  millis : Nat

/-- The message of a record; without arguments it is taken as it is. -/
def Record.text (r : Record) : String :=
  if r.args.isEmpty then r.message else String.ofList (fill none r.message.toList r.args)

/-- The line that a record is written as. -/
def Record.written (r : Record) : String :=
  timeText r.seconds r.millis ++ " - " ++ levelName r.level ++ " - [" ++ r.logger ++ ":"
    ++ toString r.line ++ "] - " ++ r.text ++ "\n"

end StreetConsole.Log
