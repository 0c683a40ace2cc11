import StreetConsole.Text.Blank
import StreetConsole.Value.Basic

/-!
# Discovery of commands

Commands are found in the files of a directory and the directories below it: every file whose name
ends in `_handler.py` is loaded, and what it defines under a name `handle_<command>` is that command
if it can be called. A text under a name `<command>_help_text` is the command's help text.

Files are loaded in the order of the parts of their paths, and of several definitions the last one
counts. A file that fails to load, wherever in it, contributes nothing.
-/

namespace StreetConsole.Discovery

/-- A statement of a file. -/
inductive Statement where
  /-- Defines something that can be called; the tag tells definitions apart. -/
  | callable (name : String) (tag : String)
  /-- Defines a plain value. -/
  | value (name : String) (v : Value)
  /-- Fails when it is run. -/
  | fails
  /-- Is no statement, so that the file cannot be loaded at all. -/
  | malformed

/-- What is at a path. -/
inductive Entry where
  | directory
  | file (statements : List Statement)

/-- What has been found: commands and help texts by name. -/
structure Found where
  commands : Dict String
  help : Dict String

/-- What a name is defined as. -/
inductive Definition where
  | callable (tag : String)
  | value (v : Value)

/-- The definitions of a file, of several with one name the last; nothing if the file fails. -/
def definitions (defs : Dict Definition) : List Statement → Option (Dict Definition)
  | [] => some defs
  | .callable name tag :: rest => definitions (Dict.put defs name (.callable tag)) rest
  | .value name v :: rest => definitions (Dict.put defs name (.value v)) rest
  | .fails :: _ | .malformed :: _ => none

/-- The command that a name like `handle_<command>` is about. -/
def commandOf? (name : String) : Option String :=
  (Text.afterStart? "handle_".toList name.toList).map String.ofList

/-- The command that a name like `<command>_help_text` is about. -/
def helpOf? (name : String) : Option String :=
  (Text.afterStart? "_help_text".toList.reverse name.toList.reverse).map fun cs =>
    String.ofList cs.reverse

/-- Adds what one definition contributes. A name that could be both of a command and of a help text
is of a command. -/
def addDefinition (found : Found) (name : String) (d : Definition) : Found :=
  match commandOf? name, d with
  | some command, .callable tag => { found with commands := Dict.put found.commands command tag }
  | some _, .value _ => found
  | none, .value (.text text) =>
    match helpOf? name with
    | some command => { found with help := Dict.put found.help command text }
    | none => found
  | none, _ => found

/-- Adds what the entry at a path contributes. -/
def addEntry (found : Found) : Entry → Found
  | .directory => found
  | .file statements =>
    match definitions [] statements with
    | none => found
    | some defs => defs.foldl (fun found d => addDefinition found d.1 d.2) found

/-- The parts of a path. -/
def partsOf (path : String) : List String := Text.splitAt '/' path

/-- Whether a path is that of a file to be loaded. -/
def isHandlerPath (path : String) : Bool :=
  match (partsOf path).getLast? with
  | some name => "_handler.py".toList.isSuffixOf name.toList
  | none => false

/-- What is found in a directory, given what is at the paths below it. -/
def discover (entries : List (String × Entry)) : Found :=
  let candidates := entries.filter fun e => isHandlerPath e.1
  let sorted := candidates.mergeSort fun a b => !decide (partsOf b.1 < partsOf a.1)
  sorted.foldl (fun found e => addEntry found e.2) ⟨[], []⟩

end StreetConsole.Discovery
