import Mathlib.Data.List.Nodup
import StreetConsole.Command.Discovery
import StreetConsole.Dict
import StreetConsole.Proofs.Pieces

/-!
# What is discovered

**Theorem (`discover_last_file`).** Under a command's name stands what the last file defines
`handle_<command>` as, among the files that load and define it as something that can be called; and
under the name of a help text the last text that a file defines `<name>_help_text` as, unless that
is the name of a command. Files come in the order of the parts of their paths. A file that fails to
load makes no difference at all.

Each file changes what is under a name in one way only: what it contributes counts, and where it
contributes nothing all stays as it was (`get?_commands_addEntry`, `get?_help_addEntry`). So what is
found in the end is the last contribution (`foldl_eq_findSome?_reverse`), and the order of the
paths, no two of which are equal, says which one that is (`findSome?_reverse_inOrder`).
-/

namespace StreetConsole

/-! ## Contributions in a row -/

/-- If each step replaces what is seen by what it contributes, the last contribution is seen in the
end. -/
theorem foldl_eq_findSome?_reverse {σ α β : Type} {step : σ → α → σ} (seen : σ → Option β)
    (contribution : α → Option β) (h : ∀ s a, seen (step s a) = (contribution a).or (seen s))
    (s : σ) (l : List α) :
    seen (l.foldl step s) = (l.reverse.findSome? contribution).or (seen s) := by
  induction l generalizing s with
  | nil => simp
  | cons a l ih =>
    rw [List.foldl_cons, ih, h, List.reverse_cons, List.findSome?_append, Option.or_assoc,
      List.findSome?_singleton]

theorem findSome?_reverse_eq_some_iff {α β : Type} {f : α → Option β} {l : List α} {b : β} :
    l.reverse.findSome? f = some b ↔
      ∃ before a after, l = before ++ a :: after ∧ f a = some b ∧ ∀ x ∈ after, f x = none := by
  rw [List.findSome?_eq_some_iff]
  constructor
  · rintro ⟨after, a, before, hsplit, ha, hafter⟩
    refine ⟨before.reverse, a, after.reverse, ?_, ha, by simpa using hafter⟩
    rw [List.reverse_eq_append_iff] at hsplit
    simpa using hsplit
  · rintro ⟨before, a, after, rfl, ha, hafter⟩
    exact ⟨after.reverse, a, before.reverse, by simp, ha, by simpa using hafter⟩

theorem Text.afterStart?_eq_some_iff {start cs rest : List Char} :
    Text.afterStart? start cs = some rest ↔ cs = start ++ rest := by
  induction start generalizing cs with
  | nil => simp [Text.afterStart?]
  | cons e start ih =>
    cases cs with
    | nil => simp [Text.afterStart?]
    | cons c cs =>
      by_cases h : e = c
      · simp [Text.afterStart?, h, ih]
      · simp [Text.afterStart?, h, Ne.symm h]

namespace Dict

variable {α : Type} {d : Dict α}

theorem nodup_keys_update (h : (keys d).Nodup) (pairs : List (String × α)) :
    (keys (update d pairs)).Nodup := by
  induction pairs generalizing d with
  | nil => exact h
  | cons p pairs ih => exact ih (nodup_keys_put h p.1 p.2)

theorem get?_update (d : Dict α) (pairs : List (String × α)) (key : String) :
    get? (update d pairs) key =
      (pairs.reverse.findSome? fun p => if p.1 = key then some p.2 else none).or (get? d key) := by
  refine foldl_eq_findSome?_reverse (get? · key) _ (fun d p => ?_) d pairs
  by_cases h : p.1 = key
  · rw [if_pos h, h, get?_put_self, Option.some_or]
  · rw [if_neg h, get?_put_of_ne (Ne.symm h), Option.none_or]

/-- Where no key is there twice, the order of the entries does not matter. -/
theorem findSome?_reverse_entries {β : Type} (h : (keys d).Nodup) (key : String)
    (f : α → Option β) :
    (d.reverse.findSome? fun p => if p.1 = key then f p.2 else none) = (get? d key).bind f := by
  induction d with
  | nil => rfl
  | cons p rest ih =>
    rw [keys_cons, List.nodup_cons] at h
    rw [List.reverse_cons, List.findSome?_append, ih h.2, List.findSome?_singleton]
    by_cases hp : p.1 = key
    · have hnone : get? rest key = none := by
        rw [← hp, ← Option.not_isSome_iff_eq_none, ← mem_keys_iff]
        exact h.1
      simp [hnone, get?, hp]
    · simp [get?, hp]

/-- Of several entries with one key the last one counts. -/
theorem get?_update_nil_eq_some_iff {pairs : List (String × α)} {key : String} {a : α} :
    get? (update [] pairs) key = some a ↔
      ∃ before after, pairs = before ++ (key, a) :: after ∧ ∀ p ∈ after, p.1 ≠ key := by
  have hnil : get? ([] : Dict α) key = none := rfl
  rw [get?_update, hnil, Option.or_none, findSome?_reverse_eq_some_iff]
  constructor
  · rintro ⟨before, p, after, rfl, hp, hafter⟩
    obtain ⟨rfl, rfl⟩ : p.1 = key ∧ p.2 = a := by simpa using hp
    exact ⟨before, after, rfl, fun q hq => by simpa using hafter q hq⟩
  · rintro ⟨before, after, rfl, hafter⟩
    exact ⟨before, (key, a), after, rfl, by simp, fun q hq => by simpa using hafter q hq⟩

end Dict

namespace Discovery

/-! ## What a file defines -/

/-- What the statement defines, if it can be run. -/
def Statement.definition? : Statement → Option (String × Definition)
  | .callable name tag => some (name, .callable tag)
  | .value name v => some (name, .value v)
  | .fails | .malformed => none

/-- Each statement of the file can be run. -/
def Loads (statements : List Statement) : Prop := ∀ s ∈ statements, s.definition?.isSome

instance (statements : List Statement) : Decidable (Loads statements) :=
  inferInstanceAs (Decidable (∀ s ∈ statements, s.definition?.isSome))

theorem loads_cons {s : Statement} {statements : List Statement} :
    Loads (s :: statements) ↔ s.definition?.isSome ∧ Loads statements :=
  List.forall_mem_cons

/-- The file loads, and the last of its definitions with this name is `d`. -/
def Entry.Defines (entry : Entry) (name : String) (d : Definition) : Prop :=
  ∃ statements, entry = .file statements ∧ Loads statements ∧ ∃ before after,
    statements.filterMap Statement.definition? = before ++ (name, d) :: after ∧
      ∀ p ∈ after, p.1 ≠ name

theorem definitions_eq (defs : Dict Definition) (statements : List Statement) :
    definitions defs statements =
      if Loads statements then some (Dict.update defs (statements.filterMap Statement.definition?))
      else none := by
  fun_induction definitions defs statements with
  | case1 defs => simp [Loads, Dict.update]
  | case2 defs name tag rest ih => simp [ih, loads_cons, Statement.definition?, Dict.update]
  | case3 defs name v rest ih => simp [ih, loads_cons, Statement.definition?, Dict.update]
  | case4 defs rest => simp [loads_cons, Statement.definition?]
  | case5 defs rest => simp [loads_cons, Statement.definition?]

theorem nodup_keys_definitions {statements : List Statement} {defs : Dict Definition}
    (h : definitions [] statements = some defs) : defs.keys.Nodup := by
  rw [definitions_eq] at h
  split at h
  · cases h
    exact Dict.nodup_keys_update (by simp) _
  · cases h

/-- What a name is defined as in the end, where the file loads. -/
def Entry.defined? (entry : Entry) (name : String) : Option Definition :=
  match entry with
  | .directory => none
  | .file statements => (definitions [] statements).bind (Dict.get? · name)

theorem Entry.defined?_eq_some_iff {entry : Entry} {name : String} {d : Definition} :
    entry.defined? name = some d ↔ entry.Defines name d := by
  cases entry with
  | directory => simp [defined?, Defines]
  | file statements =>
    by_cases h : Loads statements
    · simp [defined?, Defines, definitions_eq, h, Dict.get?_update_nil_eq_some_iff]
    · simp [defined?, Defines, definitions_eq, h]

/-! ## What a file contributes -/

def Definition.callable? : Definition → Option String
  | .callable tag => some tag
  | .value _ => none

def Definition.text? : Definition → Option String
  | .value (.text text) => some text
  | _ => none

theorem commandOf?_eq_some_iff {name command : String} :
    commandOf? name = some command ↔ name = "handle_" ++ command := by
  rw [commandOf?, Option.map_eq_some_iff]
  simp only [Text.afterStart?_eq_some_iff]
  constructor
  · rintro ⟨cs, hname, rfl⟩
    rw [← String.toList_inj, hname]
    simp
  · rintro rfl
    exact ⟨command.toList, by simp, by simp⟩

theorem helpOf?_eq_some_iff {name command : String} :
    helpOf? name = some command ↔ name = command ++ "_help_text" := by
  rw [helpOf?, Option.map_eq_some_iff]
  simp only [Text.afterStart?_eq_some_iff]
  constructor
  · rintro ⟨cs, hname, rfl⟩
    rw [← String.toList_inj, ← List.reverse_inj, hname]
    simp
  · rintro rfl
    exact ⟨command.toList.reverse, by simp, by simp⟩

/-- What the entry contributes under the name of a command. -/
def Entry.command? (entry : Entry) (command : String) : Option String :=
  (entry.defined? ("handle_" ++ command)).bind Definition.callable?

/-- What the entry contributes under the name of a help text. -/
def Entry.help? (entry : Entry) (command : String) : Option String :=
  (entry.defined? (command ++ "_help_text")).bind fun d =>
    if (commandOf? (command ++ "_help_text")).isSome then none else d.text?

theorem get?_commands_addDefinition (found : Found) (name : String) (d : Definition)
    (command : String) :
    (addDefinition found name d).commands.get? command =
      (if name = "handle_" ++ command then d.callable? else none).or
        (found.commands.get? command) := by
  simp only [← commandOf?_eq_some_iff, addDefinition]
  split
  · next command' tag hname =>
    by_cases h : command' = command
    · simp [h, hname, Definition.callable?]
    · simp [h, hname, Dict.get?_put_of_ne (Ne.symm h)]
  · next command' v hname => simp [hname, Definition.callable?]
  · next text hname => split <;> simp [hname]
  · next hname _ => simp [hname]

theorem get?_help_addDefinition (found : Found) (name : String) (d : Definition)
    (command : String) :
    (addDefinition found name d).help.get? command =
      (if name = command ++ "_help_text" then
        if (commandOf? (command ++ "_help_text")).isSome then none else d.text? else none).or
        (found.help.get? command) := by
  by_cases hkey : name = command ++ "_help_text"
  · have hhelp : helpOf? name = some command := helpOf?_eq_some_iff.2 hkey
    rw [if_pos hkey, ← hkey]
    cases hname : commandOf? name with
    | some command' => cases d <;> simp [addDefinition, hname]
    | none =>
      rcases d with tag | (_ | _ | _ | _ | text | _ | _) <;>
        simp [addDefinition, hname, hhelp, Definition.text?]
  · have hhelp : helpOf? name ≠ some command := mt helpOf?_eq_some_iff.1 hkey
    rw [if_neg hkey, Option.none_or]
    unfold addDefinition
    split
    · rfl
    · rfl
    · split
      · next command' hcommand =>
        have h : command ≠ command' := by
          rintro rfl
          exact hhelp hcommand
        exact Dict.get?_put_of_ne h
      · rfl
    · rfl

/-- A file changes what is seen as its definition of one name does. -/
theorem seen_addEntry (seen : Found → Option String) {key : String}
    {pick : Definition → Option String}
    (h : ∀ found name d, seen (addDefinition found name d) =
      (if name = key then pick d else none).or (seen found))
    (found : Found) (entry : Entry) :
    seen (addEntry found entry) = ((entry.defined? key).bind pick).or (seen found) := by
  cases entry with
  | directory => rfl
  | file statements =>
    rw [Entry.defined?, addEntry]
    cases hdefs : definitions [] statements with
    | none => rfl
    | some defs =>
      dsimp only [Option.bind_some]
      rw [foldl_eq_findSome?_reverse seen
          (fun p : String × Definition => if p.1 = key then pick p.2 else none)
          (fun found p => h found p.1 p.2),
        Dict.findSome?_reverse_entries (nodup_keys_definitions hdefs)]

theorem get?_commands_addEntry (command : String) (found : Found) (entry : Entry) :
    (addEntry found entry).commands.get? command =
      (entry.command? command).or (found.commands.get? command) :=
  seen_addEntry (·.commands.get? command)
    (fun found name d => get?_commands_addDefinition found name d command) found entry

theorem get?_help_addEntry (command : String) (found : Found) (entry : Entry) :
    (addEntry found entry).help.get? command =
      (entry.help? command).or (found.help.get? command) :=
  seen_addEntry (·.help.get? command)
    (fun found name d => get?_help_addDefinition found name d command) found entry

theorem addEntry_of_not_loads {statements : List Statement} (h : ¬ Loads statements)
    (found : Found) : addEntry found (.file statements) = found := by
  rw [addEntry, definitions_eq, if_neg h]

/-- No name is there twice. -/
def Found.Keyed (found : Found) : Prop := found.commands.keys.Nodup ∧ found.help.keys.Nodup

theorem keyed_addDefinition {found : Found} (h : found.Keyed) (name : String) (d : Definition) :
    (addDefinition found name d).Keyed := by
  unfold addDefinition
  split
  · exact ⟨Dict.nodup_keys_put h.1 _ _, h.2⟩
  · exact h
  · split
    · exact ⟨h.1, Dict.nodup_keys_put h.2 _ _⟩
    · exact h
  · exact h

theorem keyed_addEntry {found : Found} (h : found.Keyed) (entry : Entry) :
    (addEntry found entry).Keyed := by
  unfold addEntry
  split
  · exact h
  · split
    · exact h
    · exact List.foldlRecOn _ _ h fun found h d _ => keyed_addDefinition h d.1 d.2

/-! ## The files in their order -/

/-- The files to be loaded, in order. -/
def handlerFiles (entries : List (String × Entry)) : List (String × Entry) :=
  (entries.filter fun e => isHandlerPath e.1).mergeSort
    fun a b => !decide (partsOf b.1 < partsOf a.1)

theorem discover_eq (entries : List (String × Entry)) :
    discover entries = (handlerFiles entries).foldl (fun found e => addEntry found e.2) ⟨[], []⟩ :=
  rfl

theorem partsOf_injective : Function.Injective partsOf := by
  intro a b h
  have hparts (path : String) :
      path.toList = ['/'].intercalate ((partsOf path).map String.toList) :=
    (Text.intercalate_splitAt '/' path).symm
  rw [← String.toList_inj, hparts a, hparts b, h]

variable {entries : List (String × Entry)}

theorem handlerFiles_perm (entries : List (String × Entry)) :
    (handlerFiles entries).Perm (entries.filter fun e => isHandlerPath e.1) :=
  List.mergeSort_perm _ _

theorem mem_handlerFiles {e : String × Entry} :
    e ∈ handlerFiles entries ↔ e ∈ entries ∧ isHandlerPath e.1 = true := by
  rw [(handlerFiles_perm entries).mem_iff, List.mem_filter]

/-- Where no path is there twice, each file comes before the next one. -/
theorem pairwise_handlerFiles (hpaths : (entries.map Prod.fst).Nodup) :
    (handlerFiles entries).Pairwise fun a b => partsOf a.1 < partsOf b.1 := by
  have hsorted : (handlerFiles entries).Pairwise
      fun a b => (!decide (partsOf b.1 < partsOf a.1)) = true := by
    refine List.pairwise_mergeSort (fun a b c hab hbc => ?_) (fun a b => ?_) _
    · simp only [Bool.not_eq_true', decide_eq_false_iff_not] at hab hbc ⊢
      exact List.le_trans hab hbc
    · simp only [Bool.or_eq_true, Bool.not_eq_true', decide_eq_false_iff_not]
      exact List.le_total (partsOf a.1) (partsOf b.1)
  have hdistinct : (handlerFiles entries).Pairwise fun a b => a.1 ≠ b.1 := by
    rw [← List.pairwise_map]
    exact ((handlerFiles_perm entries).map _).nodup_iff.2
      (hpaths.sublist (List.filter_sublist.map _))
  refine hsorted.imp₂ (fun a b hab hne => ?_) hdistinct
  by_contra hba
  simp only [Bool.not_eq_true', decide_eq_false_iff_not] at hab
  exact hne (partsOf_injective (List.le_antisymm hab hba))

/-- The last contribution is that of the file whose path comes last. -/
theorem findSome?_reverse_inOrder (hpaths : (entries.map Prod.fst).Nodup)
    {contribution : Entry → Option String} {text : String} :
    (handlerFiles entries).reverse.findSome? (fun e => contribution e.2) = some text ↔
      ∃ e ∈ handlerFiles entries, contribution e.2 = some text ∧
        ∀ e' ∈ handlerFiles entries, contribution e'.2 ≠ none → ¬ partsOf e.1 < partsOf e'.1 := by
  have hsorted := pairwise_handlerFiles hpaths
  rw [findSome?_reverse_eq_some_iff]
  constructor
  · rintro ⟨before, e, after, hsplit, he, hafter⟩
    refine ⟨e, by simp [hsplit], he, fun e' he' hsome => ?_⟩
    rw [hsplit, List.mem_append, List.mem_cons] at he'
    rw [hsplit, List.pairwise_append] at hsorted
    rcases he' with hbefore | rfl | hmem
    · exact List.lt_asymm (hsorted.2.2 e' hbefore e List.mem_cons_self)
    · exact List.lt_irrefl _
    · exact absurd (hafter e' hmem) hsome
  · rintro ⟨e, hmem, he, hlast⟩
    obtain ⟨before, after, hsplit⟩ := List.append_of_mem hmem
    refine ⟨before, e, after, hsplit, he, fun e' he' => ?_⟩
    by_contra hsome
    refine hlast e' (by simp [hsplit, he']) hsome ?_
    rw [hsplit, List.pairwise_append, List.pairwise_cons] at hsorted
    exact hsorted.2.1.1 e' he'

/-- Files that are left out leave the others in their order. -/
theorem handlerFiles_filter (hpaths : (entries.map Prod.fst).Nodup) (p : String × Entry → Bool) :
    handlerFiles (entries.filter p) = (handlerFiles entries).filter p := by
  have hpaths' : ((entries.filter p).map Prod.fst).Nodup :=
    hpaths.sublist (List.filter_sublist.map _)
  refine List.Perm.eq_of_pairwise (fun a b _ _ hab hba => absurd hab (List.lt_asymm hba))
    (pairwise_handlerFiles hpaths') ((pairwise_handlerFiles hpaths).filter p) ?_
  have hleft := handlerFiles_perm (entries.filter p)
  have hright := (handlerFiles_perm entries).filter p
  rw [List.filter_comm] at hleft
  exact hleft.trans hright.symm

def Entry.loads : Entry → Bool
  | .directory => false
  | .file statements => Loads statements

theorem discover_filter_loads (hpaths : (entries.map Prod.fst).Nodup) :
    discover (entries.filter (·.2.loads)) = discover entries := by
  rw [discover_eq, discover_eq, handlerFiles_filter hpaths, List.foldl_filter]
  refine List.foldl_ext _ _ _ fun found e _ => ?_
  obtain ⟨path, entry⟩ := e
  split
  · rfl
  · next h =>
    cases entry with
    | directory => rfl
    | file statements => exact (addEntry_of_not_loads (by simpa [Entry.loads] using h) found).symm

/-! ## The last file counts -/

/-- The file at the path loads, and defines the name in this way. -/
def DefinedAt (entries : List (String × Entry)) (path name : String) (d : Definition) : Prop :=
  isHandlerPath path = true ∧ ∃ entry, (path, entry) ∈ entries ∧ entry.Defines name d

/-- The file comes last among those that define the name in one of these ways. -/
def LastDefinedAt (entries : List (String × Entry)) (name : String) (ways : String → Definition)
    (text path : String) : Prop :=
  DefinedAt entries path name (ways text) ∧
    ∀ path' text', DefinedAt entries path' name (ways text') → ¬ partsOf path < partsOf path'

theorem findSome?_eq_some_iff_lastDefinedAt (hpaths : (entries.map Prod.fst).Nodup) {name : String}
    {ways : String → Definition} {contribution : Entry → Option String}
    (h : ∀ entry text, contribution entry = some text ↔ entry.Defines name (ways text))
    {text : String} :
    (handlerFiles entries).reverse.findSome? (fun e => contribution e.2) = some text ↔
      ∃ path, LastDefinedAt entries name ways text path := by
  rw [findSome?_reverse_inOrder hpaths]
  constructor
  · rintro ⟨⟨path, entry⟩, hmem, hentry, hlast⟩
    obtain ⟨hmem, hpath⟩ := mem_handlerFiles.1 hmem
    refine ⟨path, ⟨hpath, entry, hmem, (h entry text).1 hentry⟩, fun path' text' hdefined => ?_⟩
    obtain ⟨hpath', entry', hmem', hentry'⟩ := hdefined
    refine hlast (path', entry') (mem_handlerFiles.2 ⟨hmem', hpath'⟩) ?_
    simp [(h entry' text').2 hentry']
  · rintro ⟨path, ⟨hpath, entry, hmem, hentry⟩, hlast⟩
    refine ⟨(path, entry), mem_handlerFiles.2 ⟨hmem, hpath⟩, (h entry text).2 hentry,
      fun e' hmem' hsome => ?_⟩
    obtain ⟨hmem', hpath'⟩ := mem_handlerFiles.1 hmem'
    obtain ⟨text', htext'⟩ := Option.ne_none_iff_exists'.1 hsome
    exact hlast e'.1 text' ⟨hpath', e'.2, hmem', (h e'.2 text').1 htext'⟩

theorem callable?_eq_some_iff {d : Definition} {tag : String} :
    d.callable? = some tag ↔ d = .callable tag := by
  cases d <;> simp [Definition.callable?]

theorem text?_eq_some_iff {d : Definition} {text : String} :
    d.text? = some text ↔ d = .value (.text text) := by
  rcases d with tag | (_ | _ | _ | _ | _ | _ | _) <;> simp [Definition.text?]

theorem command?_eq_some_iff {entry : Entry} {command tag : String} :
    entry.command? command = some tag ↔ entry.Defines ("handle_" ++ command) (.callable tag) := by
  rw [Entry.command?, Option.bind_eq_some_iff, ← Entry.defined?_eq_some_iff]
  simp only [callable?_eq_some_iff, exists_eq_right]

theorem help?_eq_some_iff {entry : Entry} {command text : String}
    (h : commandOf? (command ++ "_help_text") = none) :
    entry.help? command = some text ↔
      entry.Defines (command ++ "_help_text") (.value (.text text)) := by
  rw [Entry.help?, Option.bind_eq_some_iff, ← Entry.defined?_eq_some_iff]
  simp [h, text?_eq_some_iff]

theorem commandOf?_eq_none_iff {name : String} :
    commandOf? name = none ↔ ¬ "handle_".toList <+: name.toList := by
  rw [commandOf?, Option.map_eq_none_iff, ← not_iff_not, not_not, ← ne_eq,
    Option.ne_none_iff_exists']
  exact exists_congr fun rest => Text.afterStart?_eq_some_iff.trans eq_comm

theorem get?_commands_discover (entries : List (String × Entry)) (command : String) :
    (discover entries).commands.get? command =
      (handlerFiles entries).reverse.findSome? fun e => e.2.command? command := by
  rw [discover_eq, foldl_eq_findSome?_reverse (·.commands.get? command) (·.2.command? command)
    fun found e => get?_commands_addEntry command found e.2]
  exact Option.or_none

theorem get?_help_discover (entries : List (String × Entry)) (command : String) :
    (discover entries).help.get? command =
      (handlerFiles entries).reverse.findSome? fun e => e.2.help? command := by
  rw [discover_eq, foldl_eq_findSome?_reverse (·.help.get? command) (·.2.help? command)
    fun found e => get?_help_addEntry command found e.2]
  exact Option.or_none

theorem keyed_discover (entries : List (String × Entry)) : (discover entries).Keyed := by
  rw [discover_eq]
  exact List.foldlRecOn _ _ ⟨by simp, by simp⟩ fun found h e _ => keyed_addEntry h e.2

/-- **The last file that loads and defines a command counts**, and so for help texts, whose names
must not be those of commands; no other names are found. A file that fails may as well not be
there. -/
theorem discover_last_file (hpaths : (entries.map Prod.fst).Nodup) :
    (discover entries).Keyed ∧
    (∀ command tag, (discover entries).commands.get? command = some tag ↔
      ∃ path, LastDefinedAt entries ("handle_" ++ command) .callable tag path) ∧
    (∀ command text, (discover entries).help.get? command = some text ↔
      ¬ "handle_".toList <+: (command ++ "_help_text").toList ∧
        ∃ path, LastDefinedAt entries (command ++ "_help_text") (fun t => .value (.text t)) text
          path) ∧
    ∀ before path statements after, entries = before ++ (path, .file statements) :: after →
      ¬ Loads statements → discover (before ++ after) = discover entries := by
  refine ⟨keyed_discover entries, fun command tag => ?_, fun command text => ?_, ?_⟩
  · rw [get?_commands_discover]
    exact findSome?_eq_some_iff_lastDefinedAt hpaths fun entry tag => command?_eq_some_iff
  · rw [get?_help_discover, ← commandOf?_eq_none_iff]
    cases hname : commandOf? (command ++ "_help_text") with
    | some other =>
      have hnone : ((handlerFiles entries).reverse.findSome? fun e => e.2.help? command) = none :=
        List.findSome?_eq_none_iff.2 fun e _ => by simp [Entry.help?, hname]
      simp [hnone]
    | none =>
      rw [findSome?_eq_some_iff_lastDefinedAt hpaths fun entry text => help?_eq_some_iff hname]
      simp
  · rintro before path statements after rfl hfails
    have hpaths' : ((before ++ after).map Prod.fst).Nodup :=
      hpaths.sublist ((List.sublist_cons_self _ _).append_left before |>.map _)
    rw [← discover_filter_loads hpaths, ← discover_filter_loads hpaths']
    simp [List.filter_append, Entry.loads, hfails]

/-- A directory in which `go` is defined four times: where it cannot be called, in a file that fails
later on, and in two files of which the deeper one comes first. -/
def sampleFiles : List (String × Entry) :=
  [("z_handler.py", .file [.value "handle_go" (.int 4)]),
    ("go_handler.py",
      .file [.callable "handle_go" "last", .value "go_help_text" (.text "go away")]),
    ("m_handler.py", .file [.callable "handle_go" "broken", .fails]),
    ("go/go_handler.py", .file [.callable "handle_go" "first"])]

theorem lastDefinedAt_sampleFiles :
    LastDefinedAt sampleFiles ("handle_" ++ "go") .callable "last" "go_handler.py" := by
  constructor
  · refine ⟨by decide +kernel, _, List.mem_cons_of_mem _ List.mem_cons_self, ?_⟩
    exact Entry.defined?_eq_some_iff.1 rfl
  · rintro path tag ⟨-, entry, hmem, hentry⟩
    rw [← Entry.defined?_eq_some_iff] at hentry
    simp only [sampleFiles, List.mem_cons, Prod.mk.injEq, List.not_mem_nil, or_false] at hmem
    obtain ⟨rfl, rfl⟩ | ⟨rfl, rfl⟩ | ⟨rfl, rfl⟩ | ⟨rfl, rfl⟩ := hmem
    · cases hentry
    · exact List.lt_irrefl _
    · cases hentry
    · decide +kernel

theorem discover_last_file_sampleFiles :
    (sampleFiles.map Prod.fst).Nodup ∧
    (discover sampleFiles).commands.get? "go" = some "last" ∧
    discover (sampleFiles.eraseIdx 2) = discover sampleFiles := by
  have hpaths : (sampleFiles.map Prod.fst).Nodup := by decide
  obtain ⟨-, hcommands, -, hfails⟩ := discover_last_file hpaths
  refine ⟨hpaths, (hcommands "go" "last").2 ⟨_, lastDefinedAt_sampleFiles⟩, ?_⟩
  exact hfails (sampleFiles.take 2) _ _ (sampleFiles.drop 3) rfl (by decide)

end Discovery

end StreetConsole
