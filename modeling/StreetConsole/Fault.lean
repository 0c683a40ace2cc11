import StreetConsole.Value.Basic

/-!
# Faults

The causes for which a computation is given up, apart from the ordinary failures that are part of a
command's outcome. Commands and filters may raise faults of their own; the others come from reading
and writing numbers, from editing settings, and from search patterns.
-/

namespace StreetConsole

/-- The kinds of fault that a command or a filter may raise by itself. -/
inductive RaisedKind where
  | runtime
  | value
  | key
  | type
  | system
  | lookup
deriving DecidableEq, Repr

/-- Why bytes are not the encoding of a text. -/
inductive DecodeReason where
  | invalidStart
  | invalidContinuation
  | unexpectedEnd
deriving DecidableEq, Repr

/-- A cause for which a computation is given up. -/
inductive Fault where
  /-- Raised by a command or a filter, with the arguments it gave. -/
  | raised (kind : RaisedKind) (args : List Value)
  /-- An integer with more digits than are read. -/
  | numeralTooLong (digits : Nat)
  /-- An integer with more digits than are written. -/
  | integerTooLong
  /-- A text that should be an integer and is not. -/
  | notInteger (text : String)
  /-- A text that should be a number and is not. -/
  | notNumber (text : String)
  /-- A text that should be a truth value and is not. -/
  | notBoolean (text : String)
  /-- A path of settings that runs through a value which is no section. -/
  | notSection (key path : String)
  /-- A path of settings that ends at a section where a value is wanted. -/
  | isSection (path : String)
  /-- A value of the wrong kind, which lacks the operation that was asked of it. -/
  | missingMember (kindName member : String)
  /-- A search pattern with a repetition count out of range. -/
  | repetitionTooLarge
  /-- A search pattern with a character code out of range. -/
  | codeTooLarge
  /-- A search pattern that asks for two character repertoires at once. -/
  | repertoireClash
  /-- A search pattern that looks too far behind itself. -/
  | lookTooFar
  /-- A match with a group that ends before it begins. -/
  | groupReversed
  /-- Bytes `start` to `stop`, exclusive, that are no text. -/
  | undecodable (reason : DecodeReason) (start stop : Nat) (byte : Nat)
  /-- A write to a snapshot of the state. -/
  | snapshotSealed
  /-- A log level that is not a number. -/
  | unknownLevel (name : String)
  /-- A registration under the name of a built-in filter. -/
  | builtinFilter (name : String)

end StreetConsole
