import StreetConsole.Filter.Builtin

/-!
# Filter registries and pipelines

A registry holds the filters known by name, in the order in which they were first registered. A
pipeline is a list of invocations, each a filter's name and arguments in one text; the first failure
ends it.
-/

namespace StreetConsole

/-- The filters known by name, in order of first registration. -/
abbrev FilterRegistry := List Filter

namespace FilterRegistry

/-- The registry of the built-in filters. -/
def builtin (resumption : Pattern.Resumption := .reached) : FilterRegistry :=
  Filter.builtins resumption

/-- Whether the name is that of a built-in filter. -/
def isBuiltinName (name : String) : Bool := Filter.builtins.any (·.name == name)

/-- The filter with a name. -/
def get? (r : FilterRegistry) (name : String) : Option Filter := r.find? (·.name == name)

/-- Puts a filter under its name, at the place of the one it replaces if there is one. -/
def put (r : FilterRegistry) (f : Filter) : FilterRegistry :=
  match r with
  | [] => [f]
  | g :: rest => if g.name == f.name then f :: rest else g :: put rest f

/-- Adds a filter of one's own. The built-in filters cannot be replaced. -/
def register (r : FilterRegistry) (f : Filter) : Except Fault FilterRegistry :=
  if isBuiltinName f.name then .error (.builtinFilter f.name) else .ok (r.put f)

/-- What is told of a filter where filters are listed. -/
structure Entry where
  name : String
  usage : String
  description : String
deriving DecidableEq, Repr

/-- The entry of a filter. -/
def entryOf (f : Filter) : Entry := ⟨f.name, f.usage, f.description⟩

/-- The listing of the filters that there are. -/
def available (r : FilterRegistry) : List Entry := r.map entryOf

/-- Runs a text through one invocation of a filter. -/
def applyPipe (r : FilterRegistry) (text pipe : String) : Except Fault Outcome :=
  let parts := Text.words pipe
  let name := parts.headD ""
  match r.get? name with
  | none => .ok (.fail ("Unknown filter: " ++ name))
  | some f => f.apply text parts.tail

/-- Runs a text through a pipeline. The first failure is its outcome. -/
def applyPipes (r : FilterRegistry) (text : String) : List String → Except Fault Outcome
  | [] => .ok (.ok text)
  | pipe :: rest => do
    let o ← r.applyPipe text pipe
    if o.success then applyPipes r o.output rest else return o

end FilterRegistry

end StreetConsole
