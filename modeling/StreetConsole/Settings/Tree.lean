import StreetConsole.Fault.Message
import StreetConsole.Number.Reading
import StreetConsole.Text.LetterCase

/-!
# The tree of settings

Settings are values in a tree of sections. A setting is named by the keys on the way to it, with
dots between them.

* `lookup` finds a value, and `assign` puts one there, making sections on the way where there are
  none. A text put in place of a truth value or a number is read as one.
* `listing` gives all settings that are no sections, with their names.
-/

namespace StreetConsole.Settings

/-- The keys of a path. -/
def keysOf (path : String) : List String := Text.splitAt '.' path

/-! ## Finding a setting -/

/-- The value at the end of a path of keys; null where the path leads nowhere. -/
def valueAt : List String → Value → Value
  | [], v => v
  | key :: rest, .table entries => valueAt rest ((Dict.get? entries key).getD .null)
  | _ :: _, _ => .null

/-- The setting with a name, or the default where there is none. -/
def lookup (root : Value) (path : String) (default : Value) : Value :=
  let v := valueAt (keysOf path) root
  if v.isNull then default else v

/-! ## Changing a setting -/

/-- The truth value that a word stands for. -/
def readBool (s : String) : Except Fault Bool :=
  let word := Text.lower (Text.trim s)
  if ["true", "yes", "on", "1"].contains word then .ok true
  else if ["false", "no", "off", "0"].contains word then .ok false
  else .error (.notBoolean s)

/-- What is stored when a value is put in place of another. A text takes the kind of what it
replaces, if that is a truth value or a number. -/
def convert (replaced new : Value) : Except Fault Value :=
  match replaced, new with
  | .bool _, .text s => (readBool s).map .bool
  | .int _, .text s => (readInt s).map .int
  | .double _, .text s => (readDouble s).map .double
  | _, v => .ok v

/-- Puts a value at the path `key :: rest` below a section. Gives the value as it was stored, or the
cause for which none was, and the section as it is then. The section is changed on the way down: a
missing section is made before what is below it is looked at. -/
def assignIn (path key : String) :
    (rest : List String) → Table → Value → Except Fault Value × Table
  | [], t, v =>
    match Dict.get? t key with
    | some (.table _) => (.error (.isSection path), t)
    | replaced =>
      match convert (replaced.getD .null) v with
      | .ok stored => (.ok stored, Dict.put t key stored)
      | .error f => (.error f, t)
  | next :: rest, t, v =>
    let t := Dict.putMissing t key (.table [])
    match Dict.get? t key with
    | some (.table inner) =>
      let (result, inner) := assignIn path next rest inner v
      (result, Dict.put t key (.table inner))
    | _ => (.error (.notSection key path), t)

/-- Puts a value under a name. Gives the value as it was stored, or the cause for which none was, and
the tree as it is then. -/
def assign (root : Value) (path : String) (v : Value) : Except Fault Value × Value :=
  match keysOf path, root with
  | key :: rest, .table t =>
    let (result, t) := assignIn path key rest t v
    (result, .table t)
  | [_], root => (.error (.missingMember root.kindName "get"), root)
  | _, root => (.error (.missingMember root.kindName "setdefault"), root)

/-! ## Listing -/

/-- The name of what is under a key of a section. The name of the whole tree is empty. -/
def childName (name key : String) : String := if name.isEmpty then key else name ++ "." ++ key

mutual

/-- The settings at and below a value that has the given name. In each section the keys are in
order. -/
def listingOf (name : String) : Value → List (String × Value)
  | .table entries =>
    ((listingsOf name entries).mergeSort fun a b => decide (a.1 ≤ b.1)).flatMap (·.2)
  | v => [(name, v)]

/-- The settings below each of the entries of a section with the given name. -/
def listingsOf (name : String) : List (String × Value) → List (String × List (String × Value))
  | [] => []
  | (key, v) :: rest => (key, listingOf (childName name key) v) :: listingsOf name rest

end

/-- All settings that are no sections, with their names. -/
def listing (root : Value) : List (String × Value) := listingOf "" root

end StreetConsole.Settings
