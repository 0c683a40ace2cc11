import StreetConsole.Outcome
import StreetConsole.Value.Printer

/-!
# Replies

What a command answers, before it has been given the form of an outcome: an outcome already, a
plain value, or an object with fields. Fields `output`, or else `message`, hold the text, `error`
the error message, and only a `success` that is exactly false makes a failure.
-/

namespace StreetConsole

/-- What a command answers. -/
inductive Reply where
  /-- A value; a table gives its entries as fields, and no other value has any. -/
  | value (v : Value)
  /-- An object with fields. -/
  | object (fields : Table)
  /-- An outcome. -/
  | outcome (o : Outcome)

namespace Reply

/-- The value of a field; null if there is none. -/
def field (fields : Table) (name : String) : Value := (Dict.get? fields name).getD .null

/-- Whether a value is exactly false. -/
def isFalse : Value → Bool
  | .bool false => true
  | _ => false

/-- The outcome that fields describe. -/
def ofFields (fields : Table) : Except Fault Outcome := do
  let output := field fields "output"
  let message := field fields "message"
  let error := field fields "error"
  let output ← if output.truthy then output.shown
    else if message.truthy then message.shown
    else pure ""
  let error ← if error.truthy then some <$> error.shown else pure none
  return ⟨!isFalse (field fields "success"), output, error⟩

/-- The outcome that a reply stands for. -/
def normalize : Reply → Except Fault Outcome
  | .outcome o => .ok o
  | .object fields => ofFields fields
  | .value (.table fields) => ofFields fields
  | .value _ => .ok (.ok "")

end Reply

end StreetConsole
