import Mathlib.Data.List.Basic
import Mathlib.Data.List.Induction
import StreetConsole.Filter.Registry
import StreetConsole.Fault.Message

/-!
# Registering filters

Filters are registered one after the other, under names that may be new, taken or those of built-in
filters. A registry is a dictionary of filters by their names (`toDict`), so what is known of
dictionaries holds for it.

**Theorem (`registered_keeps_builtins`).** Whatever is registered, exactly the names of the built-in
filters are refused, and they keep their filters. Every other name has the filter that was last
registered under it. The listing begins with the built-in filters, and the others follow in the order
of their first registration. A pipeline of built-in filters does what it always did.

The names after a run of registrations are found by induction from its end: a name that is taken
keeps its place, and a new one comes last (`Dict.keys_put`). What is under a name is that of the last
registration of it (`get?_registered`).
-/

namespace StreetConsole.FilterRegistry

variable {r r' : FilterRegistry} {f : Filter} {name : String}

/-! ## Registries as dictionaries -/

/-- The names of the filters. -/
def names (r : FilterRegistry) : List String := r.map (·.name)

/-- The filters under their names. -/
def toDict (r : FilterRegistry) : Dict Filter := r.map fun f => (f.name, f)

theorem names_cons (g : Filter) (rest : FilterRegistry) :
    names (g :: rest) = g.name :: names rest := rfl

theorem keys_toDict (r : FilterRegistry) : Dict.keys r.toDict = r.names := by
  simp [Dict.keys, toDict, names]

theorem toDict_put (r : FilterRegistry) (f : Filter) :
    (r.put f).toDict = Dict.put r.toDict f.name f := by
  induction r with
  | nil => rfl
  | cons g rest ih =>
    by_cases h : g.name = f.name
    · simp [put, toDict, Dict.put, h]
    · rw [put, if_neg (by simpa using h)]
      show (g.name, g) :: (put rest f).toDict = _
      rw [ih]
      exact (if_neg h).symm

theorem get?_eq_toDict (r : FilterRegistry) (name : String) :
    r.get? name = Dict.get? r.toDict name := by
  induction r with
  | nil => rfl
  | cons g rest ih =>
    show List.find? (·.name == name) (g :: rest) = if g.name = name then _ else _
    by_cases h : g.name = name
    · simp [h]
    · rw [List.find?_cons_of_neg (by simpa using h), if_neg h]
      exact ih

theorem get?_put_self (r : FilterRegistry) (f : Filter) : (r.put f).get? f.name = some f := by
  rw [get?_eq_toDict, toDict_put, Dict.get?_put_self]

theorem get?_put_of_ne (h : name ≠ f.name) : (r.put f).get? name = r.get? name := by
  rw [get?_eq_toDict, get?_eq_toDict, toDict_put, Dict.get?_put_of_ne h]

theorem names_put (r : FilterRegistry) (f : Filter) :
    (r.put f).names = if f.name ∈ r.names then r.names else r.names ++ [f.name] := by
  rw [← keys_toDict, ← keys_toDict, toDict_put, Dict.keys_put]

theorem nodup_names_put (h : r.names.Nodup) (f : Filter) : (r.put f).names.Nodup := by
  rw [← keys_toDict] at h ⊢
  rw [toDict_put]
  exact Dict.nodup_keys_put h f.name f

/-- A registry without two filters of one name is what is under its names. -/
theorem eq_filterMap_get? (h : r.names.Nodup) : r = r.names.filterMap r.get? := by
  induction r with
  | nil => rfl
  | cons g rest ih =>
    rw [names_cons, List.nodup_cons] at h
    have hfirst : get? (g :: rest) g.name = some g := List.find?_cons_of_pos (by simp)
    have hothers : (names rest).filterMap (get? (g :: rest)) =
        (names rest).filterMap (get? rest) := by
      refine List.filterMap_congr fun name hname => List.find?_cons_of_neg ?_
      intro hsame
      exact h.1 (eq_of_beq hsame ▸ hname)
    rw [names_cons, List.filterMap_cons_some hfirst, hothers, ← ih h.2]

/-! ## Refusals -/

theorem isBuiltinName_iff : isBuiltinName name = true ↔ name ∈ builtin.names := by
  simp [isBuiltinName, names, builtin, List.any_eq_true]

/-- **Exactly the names of the built-in filters are refused.** -/
theorem register_eq_error_iff {g : Fault} :
    r.register f = .error g ↔ f.name ∈ builtin.names ∧ g = .builtinFilter f.name := by
  rw [register, ← isBuiltinName_iff]
  split
  · next h => simp [h, eq_comm]
  · next h => simp [h]

/-- The registry after a registration: the one before, if it was refused. -/
def registering (r : FilterRegistry) (f : Filter) : FilterRegistry :=
  (r.register f).toOption.getD r

theorem registering_of_builtin (h : f.name ∈ builtin.names) : r.registering f = r := by
  rw [registering, register, if_pos (isBuiltinName_iff.2 h)]
  rfl

theorem registering_of_not_builtin (h : f.name ∉ builtin.names) : r.registering f = r.put f := by
  rw [registering, register, if_neg (mt isBuiltinName_iff.1 h)]
  rfl

/-! ## Any number of registrations -/

/-- The registry after some registrations on the built-in one. -/
def registered (fs : List Filter) : FilterRegistry := fs.foldl registering builtin

/-- The filter that was last registered under a name. -/
def last? (fs : List Filter) (name : String) : Option Filter :=
  fs.reverse.find? (·.name == name)

/-- The names under which filters were registered that are no built-in ones, in the order in which
they came first. -/
def newNames (fs : List Filter) : List String :=
  ((fs.map (·.name)).filter (· ∉ builtin.names)).eraseDups

theorem registered_concat (fs : List Filter) (f : Filter) :
    registered (fs ++ [f]) = (registered fs).registering f := by
  rw [registered, List.foldl_append]
  rfl

theorem last?_concat (fs : List Filter) (f : Filter) (name : String) :
    last? (fs ++ [f]) name = if f.name = name then some f else last? fs name := by
  rw [last?, List.reverse_concat]
  by_cases h : f.name = name
  · rw [List.find?_cons_of_pos (by simpa using h), if_pos h]
  · rw [List.find?_cons_of_neg (by simpa using h), if_neg h]
    rfl

/-- A name that is added to others is new or makes no difference. -/
theorem eraseDups_concat (ns : List String) (n : String) :
    (ns ++ [n]).eraseDups = if n ∈ ns then ns.eraseDups else ns.eraseDups ++ [n] := by
  have hsingle : [n].eraseDups = [n] := rfl
  rw [List.eraseDups_append]
  by_cases h : n ∈ ns <;> simp [List.removeAll, h, hsingle]

theorem newNames_concat_of_builtin (h : f.name ∈ builtin.names) (fs : List Filter) :
    newNames (fs ++ [f]) = newNames fs := by
  simp [newNames, h]

theorem newNames_concat_of_not_builtin (h : f.name ∉ builtin.names) (fs : List Filter) :
    newNames (fs ++ [f]) =
      if f.name ∈ newNames fs then newNames fs else newNames fs ++ [f.name] := by
  have hfilter : ((fs ++ [f]).map (·.name)).filter (· ∉ builtin.names) =
      (fs.map (·.name)).filter (· ∉ builtin.names) ++ [f.name] := by simp [h]
  simp only [newNames, hfilter, eraseDups_concat, List.mem_eraseDups]

theorem not_mem_builtin_of_mem_newNames {fs : List Filter} (h : name ∈ newNames fs) :
    name ∉ builtin.names := by
  rw [newNames, List.mem_eraseDups, List.mem_filter] at h
  simpa using h.2

/-- **The names after a run of registrations.** -/
theorem names_registered (fs : List Filter) :
    (registered fs).names = builtin.names ++ newNames fs := by
  induction fs using List.reverseRecOn with
  | nil => rw [newNames, List.map_nil, List.filter_nil, List.eraseDups_nil, List.append_nil]; rfl
  | append_singleton fs f ih =>
    rw [registered_concat]
    by_cases h : f.name ∈ builtin.names
    · rw [registering_of_builtin h, newNames_concat_of_builtin h, ih]
    · rw [registering_of_not_builtin h, newNames_concat_of_not_builtin h, names_put, ih]
      by_cases hmem : f.name ∈ newNames fs <;> simp [h, hmem]

theorem nodup_names_builtin : builtin.names.Nodup := by decide

theorem nodup_names_registered (fs : List Filter) : (registered fs).names.Nodup := by
  induction fs using List.reverseRecOn with
  | nil => exact nodup_names_builtin
  | append_singleton fs f ih =>
    rw [registered_concat]
    by_cases h : f.name ∈ builtin.names
    · rwa [registering_of_builtin h]
    · rw [registering_of_not_builtin h]
      exact nodup_names_put ih f

/-- **What is under a name after a run of registrations.** -/
theorem get?_registered (fs : List Filter) (name : String) :
    (registered fs).get? name =
      if name ∈ builtin.names then builtin.get? name else last? fs name := by
  induction fs using List.reverseRecOn with
  | nil =>
    split
    · rfl
    · next h =>
      refine List.find?_eq_none.2 fun f hf hname => ?_
      exact h (eq_of_beq hname ▸ List.mem_map_of_mem hf)
  | append_singleton fs f ih =>
    rw [registered_concat, last?_concat]
    by_cases h : f.name ∈ builtin.names
    · rw [registering_of_builtin h, ih]
      split
      · rfl
      · next hname =>
        have hother : f.name ≠ name := by
          rintro rfl
          exact hname h
        rw [if_neg hother]
    · rw [registering_of_not_builtin h]
      by_cases hname : name = f.name
      · rw [hname, get?_put_self, if_neg h, if_pos rfl]
      · rw [get?_put_of_ne hname, ih, if_neg (Ne.symm hname)]

/-- The registry after a run of registrations, as a whole. -/
theorem registered_eq (fs : List Filter) :
    registered fs = builtin ++ (newNames fs).filterMap (last? fs) := by
  have hold : builtin.names.filterMap (registered fs).get? = builtin := by
    conv_rhs => rw [eq_filterMap_get? nodup_names_builtin]
    refine List.filterMap_congr fun name hname => ?_
    rw [get?_registered, if_pos hname]
  have hnew : (newNames fs).filterMap (registered fs).get? =
      (newNames fs).filterMap (last? fs) := by
    refine List.filterMap_congr fun name hname => ?_
    rw [get?_registered, if_neg (not_mem_builtin_of_mem_newNames hname)]
  rw [eq_filterMap_get? (nodup_names_registered fs), names_registered, List.filterMap_append, hold,
    hnew]

/-! ## Pipelines -/

/-- A pipeline depends on the filters that it names, and on no others. -/
theorem applyPipes_congr {pipes : List String}
    (h : ∀ pipe ∈ pipes, r.get? ((Text.words pipe).headD "") = r'.get? ((Text.words pipe).headD ""))
    (text : String) : r.applyPipes text pipes = r'.applyPipes text pipes := by
  induction pipes generalizing text with
  | nil => rfl
  | cons pipe pipes ih =>
    obtain ⟨hpipe, hpipes⟩ := List.forall_mem_cons.1 h
    have hfirst : r.applyPipe text pipe = r'.applyPipe text pipe := by
      simp only [applyPipe, hpipe]
    simp only [applyPipes, hfirst, ih hpipes]

/-- **The built-in filters stay what they are, whatever is registered.** After any registrations, a
further one is refused exactly if its name is that of a built-in filter, and then the registry stays
as it is. A built-in name has its built-in filter; any other name has the filter last registered
under it, if there is one. The listing has the built-in filters first, as they always were, and then
the others in the order of their first registration, each of them once. A pipeline that names
built-in filters only does what it does with these alone. -/
theorem registered_keeps_builtins (fs : List Filter) :
    let r := registered fs
    (∀ f g, r.register f = .error g ↔ f.name ∈ builtin.names ∧ g = .builtinFilter f.name) ∧
    (∀ f, f.name ∈ builtin.names →
      (Fault.builtinFilter f.name).name = "ChainError" ∧ registered (fs ++ [f]) = r) ∧
    (∀ name ∈ builtin.names, ∃ f ∈ Filter.builtins, f.name = name ∧ r.get? name = some f) ∧
    (∀ name, name ∉ builtin.names → r.get? name = last? fs name) ∧
    r.available = builtin.available ++
      (newNames fs).filterMap (fun name => (last? fs name).map entryOf) ∧
    r.available.map (·.name) = builtin.names ++ newNames fs ∧ (r.available.map (·.name)).Nodup ∧
    ∀ text pipes, (∀ pipe ∈ pipes, (Text.words pipe).headD "" ∈ builtin.names) →
      r.applyPipes text pipes = builtin.applyPipes text pipes := by
  intro r
  have hnames : r.available.map (·.name) = r.names := by
    simp [available, names, entryOf, Function.comp_def]
  refine ⟨fun f g => register_eq_error_iff, fun f hf => ⟨rfl, ?_⟩, fun name hname => ?_,
    fun name hname => ?_, ?_, ?_, ?_, fun text pipes hpipes => ?_⟩
  · rw [registered_concat, registering_of_builtin hf]
  · obtain ⟨f, hf, hfname⟩ := List.mem_map.1 hname
    rw [get?_registered, if_pos hname]
    cases hget : builtin.get? name with
    | none => exact absurd (by simpa using hfname) (List.find?_eq_none.1 hget f hf)
    | some g =>
      exact ⟨g, List.mem_of_find?_eq_some hget, by simpa using List.find?_some hget, rfl⟩
  · rw [get?_registered, if_neg hname]
  · show (registered fs).map entryOf = _
    rw [registered_eq, List.map_append, List.map_filterMap]
    rfl
  · rw [hnames, names_registered]
  · rw [hnames]
    exact nodup_names_registered fs
  · refine applyPipes_congr (fun pipe hpipe => ?_) text
    rw [get?_registered, if_pos (hpipes pipe hpipe)]

/-- A filter that adds a text to the end. -/
def ending (name text : String) : Filter := .plain name "Add a text" (· ++ text)

/-- One filter is registered twice, with another one in between and an attempt on `sort`. -/
theorem registered_keeps_builtins_endings :
    let fs := [ending "shout" "!", ending "sort" "?", ending "ask" "?", ending "shout" "!!"]
    let r := registered fs
    r.register (ending "sort" "?") = .error (.builtinFilter "sort") ∧
    registered (fs ++ [ending "sort" "?"]) = r ∧
    (∃ f ∈ Filter.builtins, f.name = "sort" ∧ r.get? "sort" = some f) ∧
    r.get? "shout" = some (ending "shout" "!!") ∧
    r.available.map (·.name) = builtin.names ++ ["shout", "ask"] ∧
    r.applyPipes "b\na" ["sort", "head 1"] = builtin.applyPipes "b\na" ["sort", "head 1"] := by
  intro fs r
  obtain ⟨hrefused, hkept, hold, hnew, -, hlisted, -, hpipes⟩ := registered_keeps_builtins fs
  have hsort : "sort" ∈ builtin.names := by decide
  have hwords : ∀ pipe ∈ ["sort", "head 1"], (Text.words pipe).headD "" ∈ builtin.names := by
    decide +kernel
  have hnames : newNames fs = ["shout", "ask"] := by decide +kernel
  refine ⟨(hrefused _ _).2 ⟨hsort, rfl⟩, (hkept _ hsort).2, hold "sort" hsort, ?_, ?_,
    hpipes _ _ hwords⟩
  · rw [hnew "shout" (by decide)]
    rfl
  · rw [hlisted, hnames]

end StreetConsole.FilterRegistry
