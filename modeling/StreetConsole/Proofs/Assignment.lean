import StreetConsole.Proofs.Pieces
import StreetConsole.Settings.Basic

/-!
# Putting a value into the settings

A value is put into the tree of settings on the way down: sections that are missing are made before
it is known what the path ends at. So it has to be shown that a refusal leaves no traces.

`find?` is the view of the tree that all statements use: what is at the end of a path of keys, if
there is anything. `Refused` lists the causes for which an assignment is refused, and `Assigned` says
what it does to the tree when it is not.

**Theorem (`set_eq_error_iff`).** An assignment is refused for exactly four causes: the path runs
through a value that is no section, or ends at a section, the value is not of the kind of the one it
would replace, or the settings as a whole are no section. In each case the settings stay as they are.

The proof is an induction along the path. A new section is empty and refuses nothing
(`not_refused_nil`); so where something is refused, no section has been made on the way, and each
section on the way is put back as it was.

**Theorem (`assigned_of_assignIn`).** An assignment that returns has changed what is at the path and
below it, has made all that is above it sections, and has left all else alone.
-/

namespace StreetConsole

/-- The value is a section of settings. -/
def Value.IsSection (v : Value) : Prop := ∃ t : Table, v = .table t

theorem Value.isSection_table (t : Table) : (Value.table t).IsSection := ⟨t, rfl⟩

namespace Settings

variable {path key : String} {keys rest : List String} {t t' inner inner' : Table}
  {v w stored root : Value} {f : Fault}

/-! ## What is in the tree -/

/-- What is at the end of a path of keys, if there is anything. -/
def find? : List String → Value → Option Value
  | [], v => some v
  | key :: rest, .table entries => (Dict.get? entries key).bind (find? rest)
  | _ :: _, _ => none

theorem find?_cons_table (key : String) (rest : List String) (t : Table) :
    find? (key :: rest) (.table t) = (Dict.get? t key).bind (find? rest) := rfl

theorem find?_singleton (key : String) (t : Table) : find? [key] (.table t) = Dict.get? t key := by
  rw [find?_cons_table]
  cases Dict.get? t key <;> rfl

theorem find?_append (before after : List String) (v : Value) :
    find? (before ++ after) v = (find? before v).bind (find? after) := by
  induction before generalizing v with
  | nil => rfl
  | cons key before ih =>
    cases v with
    | table t =>
      rw [List.cons_append, find?_cons_table, find?_cons_table, Option.bind_assoc]
      exact congrArg _ (funext ih)
    | _ => rfl

theorem find?_of_not_isSection (hv : ¬ v.IsSection) (hkeys : keys ≠ []) : find? keys v = none := by
  cases keys with
  | nil => exact absurd rfl hkeys
  | cons key rest =>
    cases v with
    | table t => exact absurd (Value.isSection_table t) hv
    | _ => rfl

theorem isSection_of_find? (h : find? keys v = some w) (hkeys : keys ≠ []) : v.IsSection := by
  refine Classical.byContradiction fun hv => ?_
  rw [find?_of_not_isSection hv hkeys] at h
  cases h

theorem find?_cons_of_get? (h : Dict.get? t key = some w) :
    find? (key :: rest) (.table t) = find? rest w := by
  rw [find?_cons_table, h, Option.bind_some]

theorem valueAt_eq_find? (keys : List String) (v : Value) :
    valueAt keys v = (find? keys v).getD .null := by
  fun_induction valueAt keys v with
  | case1 v => rfl
  | case2 key rest entries ih =>
    rw [ih, find?_cons_table]
    cases Dict.get? entries key with
    | none => cases rest <;> rfl
    | some v => rfl
  | case3 key rest v hv =>
    have hsection : ¬ v.IsSection := fun ⟨t, ht⟩ => hv t ht
    rw [find?_of_not_isSection hsection (List.cons_ne_nil key rest), Option.getD_none]

/-- What is below a key is what is in its section. A section that is missing counts as empty. -/
theorem find?_cons_of_section (h : (Dict.get? t key).getD (.table []) = .table inner)
    (hrest : rest ≠ []) : find? (key :: rest) (.table t) = find? rest (.table inner) := by
  rw [find?_cons_table]
  cases hget : Dict.get? t key with
  | none =>
    rw [hget, Option.getD_none, Value.table.injEq] at h
    subst h
    cases rest with
    | nil => exact absurd rfl hrest
    | cons next rest => rfl
  | some w =>
    rw [hget, Option.getD_some] at h
    rw [h, Option.bind_some]

/-- Only a key with something under it has no section. -/
theorem exists_get?_of_not_isSection (h : ¬ ((Dict.get? t key).getD (.table [])).IsSection) :
    ∃ w, Dict.get? t key = some w := by
  cases hget : Dict.get? t key with
  | none =>
    rw [hget] at h
    exact absurd (Value.isSection_table []) h
  | some w => exact ⟨w, rfl⟩

/-! ## One step on the way down -/

theorem assignIn_nil_of_section (h : Dict.get? t key = some w) (hw : w.IsSection) :
    assignIn path key [] t v = (.error (.isSection path), t) := by
  obtain ⟨inner, rfl⟩ := hw
  rw [assignIn, h]

theorem assignIn_nil (h : ∀ w, Dict.get? t key = some w → ¬ w.IsSection) :
    assignIn path key [] t v = match convert ((Dict.get? t key).getD .null) v with
      | .ok stored => (.ok stored, Dict.put t key stored)
      | .error f => (.error f, t) := by
  rw [assignIn]
  split
  · next inner hget => exact absurd (Value.isSection_table inner) (h _ hget)
  · rfl

theorem assignIn_cons_of_section {next : String}
    (h : (Dict.get? t key).getD (.table []) = .table inner) :
    assignIn path key (next :: rest) t v =
      ((assignIn path next rest inner v).1,
        Dict.put t key (.table (assignIn path next rest inner v).2)) := by
  rw [assignIn]
  dsimp only
  rw [Dict.get?_putMissing_self, h]
  dsimp only
  rw [Dict.put_putMissing]

theorem assignIn_cons_of_not_section {next : String} (h : Dict.get? t key = some w)
    (hw : ¬ w.IsSection) :
    assignIn path key (next :: rest) t v = (.error (.notSection key path), t) := by
  rw [assignIn]
  dsimp only
  rw [Dict.putMissing_of_some h, h]
  cases w with
  | table inner => exact absurd (Value.isSection_table inner) hw
  | _ => rfl

/-! ## Refusals -/

/-- Why a value is not put at the end of a path. -/
inductive Refused (path : String) (keys : List String) (v root : Value) : Fault → Prop
  /-- The tree is no section, and has nothing below it. -/
  | rootless : ¬ root.IsSection → Refused path keys v root
      (.missingMember root.kindName (if keys.length = 1 then "get" else "setdefault"))
  /-- The path runs through a value that is no section. -/
  | through {before after : List String} {key : String} {w : Value} :
      keys = before ++ key :: after → after ≠ [] → find? (before ++ [key]) root = some w →
      ¬ w.IsSection → Refused path keys v root (.notSection key path)
  /-- The path ends at a section. -/
  | atSection {w : Value} : find? keys root = some w → w.IsSection →
      Refused path keys v root (.isSection path)
  /-- The value does not have the kind of the one that it would replace. -/
  | unfit {w : Value} {f : Fault} : find? keys root = some w → convert w v = .error f →
      Refused path keys v root f

theorem refused_rootless_iff (hroot : ¬ root.IsSection) (hkeys : keys ≠ []) :
    Refused path keys v root f ↔ f = .missingMember root.kindName
      (if keys.length = 1 then "get" else "setdefault") := by
  constructor
  · intro hrefused
    cases hrefused with
    | rootless _ => rfl
    | through _ _ hfind => exact absurd (isSection_of_find? hfind (by simp)) hroot
    | atSection hfind => exact absurd (isSection_of_find? hfind hkeys) hroot
    | unfit hfind => exact absurd (isSection_of_find? hfind hkeys) hroot
  · rintro rfl
    exact .rootless hroot

/-- **Refusals one key at a time.** There is something under the first key. It refuses the value
itself, if the path ends there; otherwise it is no section, or it is one and refuses the value. -/
theorem refused_cons_iff :
    Refused path (key :: rest) v (.table t) f ↔ ∃ w, Dict.get? t key = some w ∧
      (rest = [] ∧ (w.IsSection ∧ f = .isSection path ∨ convert w v = .error f) ∨
        rest ≠ [] ∧ (¬ w.IsSection ∧ f = .notSection key path ∨
          w.IsSection ∧ Refused path rest v w f)) := by
  constructor
  · intro hrefused
    cases hrefused with
    | rootless hroot => exact absurd (Value.isSection_table t) hroot
    | @through before after _ u hkeys hafter hfind hsection =>
      cases before with
      | nil =>
        obtain ⟨rfl, rfl⟩ := List.cons.inj hkeys
        rw [List.nil_append, find?_singleton] at hfind
        exact ⟨u, hfind, Or.inr ⟨hafter, Or.inl ⟨hsection, rfl⟩⟩⟩
      | cons first before =>
        obtain ⟨rfl, rfl⟩ := List.cons.inj hkeys
        obtain ⟨w, hw, hbelow⟩ := Option.bind_eq_some_iff.1 hfind
        have hwsection : w.IsSection := isSection_of_find? hbelow (by simp)
        exact ⟨w, hw, Or.inr ⟨by simp, Or.inr ⟨hwsection, .through rfl hafter hbelow hsection⟩⟩⟩
    | atSection hfind hsection =>
      obtain ⟨w, hw, hbelow⟩ := Option.bind_eq_some_iff.1 hfind
      refine ⟨w, hw, ?_⟩
      by_cases hrest : rest = []
      · subst hrest
        cases hbelow
        exact Or.inl ⟨rfl, Or.inl ⟨hsection, rfl⟩⟩
      · exact Or.inr ⟨hrest, Or.inr ⟨isSection_of_find? hbelow hrest, .atSection hbelow hsection⟩⟩
    | unfit hfind hf =>
      obtain ⟨w, hw, hbelow⟩ := Option.bind_eq_some_iff.1 hfind
      refine ⟨w, hw, ?_⟩
      by_cases hrest : rest = []
      · subst hrest
        cases hbelow
        exact Or.inl ⟨rfl, Or.inr hf⟩
      · exact Or.inr ⟨hrest, Or.inr ⟨isSection_of_find? hbelow hrest, .unfit hbelow hf⟩⟩
  · rintro ⟨w, hw, ⟨rfl, ⟨hsection, rfl⟩ | hf⟩ | ⟨hrest, ⟨hsection, rfl⟩ | ⟨hsection, hbelow⟩⟩⟩
    · exact .atSection ((find?_singleton key t).trans hw) hsection
    · exact .unfit ((find?_singleton key t).trans hw) hf
    · have hkeys : key :: rest = [] ++ key :: rest := rfl
      exact .through hkeys hrest ((find?_singleton key t).trans hw) hsection
    · cases hbelow with
      | rootless hroot => exact absurd hsection hroot
      | @through before after k _ hkeys hafter hfind hother =>
        have hall : key :: rest = (key :: before) ++ k :: after := by rw [hkeys, List.cons_append]
        exact .through hall hafter ((find?_cons_of_get? hw).trans hfind) hother
      | atSection hfind hother => exact .atSection ((find?_cons_of_get? hw).trans hfind) hother
      | unfit hfind hf => exact .unfit ((find?_cons_of_get? hw).trans hfind) hf

/-- A new section refuses nothing. -/
theorem not_refused_nil : ¬ Refused path (key :: rest) v (.table []) f := by
  intro h
  obtain ⟨w, hw, -⟩ := refused_cons_iff.1 h
  cases hw

theorem convert_of_isSection (hw : w.IsSection) (v : Value) : convert w v = .ok v := by
  obtain ⟨t, rfl⟩ := hw
  rfl

/-- **A refusal below a section leaves the section as it is.** -/
theorem assignIn_eq_error_iff :
    assignIn path key rest t v = (.error f, t') ↔
      Refused path (key :: rest) v (.table t) f ∧ t' = t := by
  rw [refused_cons_iff]
  induction rest generalizing key t t' with
  | nil =>
    cases hget : Dict.get? t key with
    | none =>
      rw [assignIn_nil (by simp [hget]), hget]
      simp [convert]
    | some w =>
      by_cases hw : w.IsSection
      · rw [assignIn_nil_of_section hget hw]
        simp [hw, convert_of_isSection hw, eq_comm]
      · rw [assignIn_nil (by simpa [hget] using hw), hget, Option.getD_some]
        cases hconvert : convert w v <;> simp [hw, hconvert, eq_comm]
  | cons next rest ih =>
    simp only [← refused_cons_iff] at ih
    cases hget : Dict.get? t key with
    | none =>
      -- The section under the key is new, and nothing is refused below it.
      rw [assignIn_cons_of_section (by rw [hget, Option.getD_none])]
      rcases hbelow : assignIn path next rest [] v with ⟨result, below⟩
      constructor
      · intro h
        obtain ⟨rfl, -⟩ := Prod.mk.inj h
        exact absurd (ih.1 hbelow).1 not_refused_nil
      · rintro ⟨⟨w, hw, -⟩, -⟩
        cases hw
    | some w =>
      by_cases hw : w.IsSection
      · obtain ⟨inner, rfl⟩ := hw
        -- The section under the key is put back, and below it all is as it was.
        rw [assignIn_cons_of_section (by rw [hget, Option.getD_some])]
        rcases hbelow : assignIn path next rest inner v with ⟨result, below⟩
        constructor
        · intro h
          obtain ⟨rfl, rfl⟩ := Prod.mk.inj h
          obtain ⟨hrefused, rfl⟩ := ih.1 hbelow
          exact ⟨⟨_, rfl, by simp [Value.isSection_table, hrefused]⟩, Dict.put_eq_self hget⟩
        · rintro ⟨⟨_, ⟨⟩, h⟩, rfl⟩
          have hrefused : Refused path (next :: rest) v (.table inner) f := by
            simpa [Value.isSection_table] using h
          rw [ih.2 ⟨hrefused, rfl⟩] at hbelow
          cases hbelow
          rw [Dict.put_eq_self hget]
      · rw [assignIn_cons_of_not_section hget hw]
        simp [hw, eq_comm]

theorem exists_keysOf_eq_cons (path : String) : ∃ key rest, keysOf path = key :: rest :=
  List.exists_cons_of_ne_nil (Text.splitAt_ne_nil '.' path)

theorem assign_table {path key : String} {rest : List String} (h : keysOf path = key :: rest)
    (t : Table) (v : Value) :
    assign (.table t) path v =
      ((assignIn path key rest t v).1, .table (assignIn path key rest t v).2) := by
  simp only [assign, h]

theorem assign_of_not_section (h : ¬ root.IsSection) :
    assign root path v = (.error (.missingMember root.kindName
      (if (keysOf path).length = 1 then "get" else "setdefault")), root) := by
  unfold assign
  split
  · next t _ => exact absurd (Value.isSection_table t) h
  · next hkeys _ => rw [hkeys, List.length_singleton, if_pos rfl]
  · next hmany _ =>
    rw [if_neg]
    intro hlength
    obtain ⟨key, hkey⟩ := List.length_eq_one_iff.1 hlength
    exact hmany key hkey

theorem assign_eq_error_iff {root' : Value} :
    assign root path v = (.error f, root') ↔
      Refused path (keysOf path) v root f ∧ root' = root := by
  obtain ⟨key, rest, hkeys⟩ := exists_keysOf_eq_cons path
  by_cases hroot : root.IsSection
  · obtain ⟨t, rfl⟩ := hroot
    rw [assign_table hkeys, hkeys]
    constructor
    · intro h
      rcases hbelow : assignIn path key rest t v with ⟨result, below⟩
      rw [hbelow] at h
      obtain ⟨rfl, rfl⟩ := Prod.mk.inj h
      obtain ⟨hrefused, rfl⟩ := assignIn_eq_error_iff.1 hbelow
      exact ⟨hrefused, rfl⟩
    · rintro ⟨hrefused, rfl⟩
      rw [assignIn_eq_error_iff.2 ⟨hrefused, rfl⟩]
  · have hne : keysOf path ≠ [] := hkeys ▸ List.cons_ne_nil key rest
    rw [assign_of_not_section hroot, refused_rootless_iff hroot hne]
    simp [eq_comm]

/-- **An assignment that is refused changes nothing.** It is refused for exactly the causes that
`Refused` lists, whatever the settings, the path and the value are, and then all settings are as they
were: in particular no section has been made on the way. -/
theorem set_eq_error_iff {s s' : Settings} :
    s.set path v = (.error f, s') ↔ Refused path (keysOf path) v s.root f ∧ s' = s := by
  rw [set]
  rcases hassign : assign s.root path v with ⟨result, root⟩
  constructor
  · intro h
    obtain ⟨rfl, rfl⟩ := Prod.mk.inj h
    obtain ⟨hrefused, rfl⟩ := assign_eq_error_iff.1 hassign
    exact ⟨hrefused, rfl⟩
  · rintro ⟨hrefused, rfl⟩
    rw [assign_eq_error_iff.2 ⟨hrefused, rfl⟩] at hassign
    cases hassign
    rfl

example : (⟨packaged, .packaged⟩ : Settings).set "shell.prompt.colour" (.text "red") =
    (.error (.notSection "prompt" "shell.prompt.colour"), ⟨packaged, .packaged⟩) := rfl

/-! ## Changes -/

/-- What an assignment does that is not refused: the value, converted to the kind of what it
replaces, is at the end of the path, all that is above is a section, and all that is apart from the
path is as before. -/
structure Assigned (keys : List String) (v stored root root' : Value) : Prop where
  /-- What is replaced is no section. -/
  setting : ∀ w, find? keys root = some w → ¬ w.IsSection
  converted : convert ((find? keys root).getD .null) v = .ok stored
  below : ∀ more, find? (keys ++ more) root' = find? more stored
  above : ∀ before, before <+: keys → before ≠ keys → ∃ w, find? before root' = some w ∧ w.IsSection
  apart : ∀ other, ¬ other <+: keys → ¬ keys <+: other → find? other root' = find? other root

theorem find?_put_of_ne {other : String} (h : other ≠ key) (more : List String) :
    find? (other :: more) (.table (Dict.put t key w)) = find? (other :: more) (.table t) := by
  rw [find?_cons_table, find?_cons_table, Dict.get?_put_of_ne h]

theorem find?_put_self (more : List String) :
    find? (key :: more) (.table (Dict.put t key w)) = find? more w := by
  rw [find?_cons_table, Dict.get?_put_self, Option.bind_some]

theorem assigned_singleton (hsetting : ∀ w, Dict.get? t key = some w → ¬ w.IsSection)
    (hconverted : convert ((Dict.get? t key).getD .null) v = .ok stored) :
    Assigned [key] v stored (.table t) (.table (Dict.put t key stored)) where
  setting w hw := hsetting w (find?_singleton key t ▸ hw)
  converted := by rwa [find?_singleton]
  below more := find?_put_self more
  above before hbefore hne := by
    have hempty : before = [] := by
      rcases List.prefix_cons_iff.1 hbefore with rfl | ⟨more, rfl, hmore⟩
      · rfl
      · rw [List.prefix_nil.1 hmore] at hne
        exact absurd rfl hne
    exact ⟨_, by rw [hempty]; rfl, Value.isSection_table _⟩
  apart other hother hkey := by
    cases other with
    | nil => exact absurd (List.nil_prefix) hother
    | cons first more =>
      refine find?_put_of_ne ?_ more
      rintro rfl
      exact hkey (List.prefix_append [first] more)

/-- An assignment to a section is one to the tree that holds it. -/
theorem Assigned.cons (h : (Dict.get? t key).getD (.table []) = .table inner) (hrest : rest ≠ [])
    (hinner : Assigned rest v stored (.table inner) (.table inner')) :
    Assigned (key :: rest) v stored (.table t) (.table (Dict.put t key (.table inner'))) where
  setting w hw := hinner.setting w (find?_cons_of_section h hrest ▸ hw)
  converted := by
    rw [find?_cons_of_section h hrest]
    exact hinner.converted
  below more := by rw [List.cons_append, find?_put_self, hinner.below]
  above before hbefore hne := by
    rcases List.prefix_cons_iff.1 hbefore with rfl | ⟨more, rfl, hmore⟩
    · exact ⟨_, rfl, Value.isSection_table _⟩
    · rw [find?_put_self]
      exact hinner.above more hmore fun hsame => hne (hsame ▸ rfl)
  apart other hother hkeys := by
    cases other with
    | nil => exact absurd (List.nil_prefix) hother
    | cons first more =>
      by_cases hfirst : first = key
      · subst hfirst
        rw [List.cons_prefix_cons, not_and] at hother hkeys
        -- The empty path is in front of every other one, so this one goes on.
        have hmore : more ≠ [] := by
          rintro rfl
          exact hother rfl List.nil_prefix
        rw [find?_put_self, find?_cons_of_section h hmore]
        exact hinner.apart more (hother rfl) (hkeys rfl)
      · exact find?_put_of_ne hfirst more

/-- **What an assignment below a section does.** -/
theorem assigned_of_assignIn (h : assignIn path key rest t v = (.ok stored, t')) :
    Assigned (key :: rest) v stored (.table t) (.table t') := by
  induction rest generalizing key t t' with
  | nil =>
    have hsetting : ∀ w, Dict.get? t key = some w → ¬ w.IsSection := by
      intro w hw hsection
      rw [assignIn_nil_of_section hw hsection] at h
      cases h
    rw [assignIn_nil hsetting] at h
    cases hconvert : convert ((Dict.get? t key).getD .null) v with
    | error f =>
      rw [hconvert] at h
      cases h
    | ok v' =>
      rw [hconvert] at h
      cases h
      exact assigned_singleton hsetting hconvert
  | cons next rest ih =>
    by_cases hsection : ((Dict.get? t key).getD (.table [])).IsSection
    · obtain ⟨inner, hinner⟩ := hsection
      rw [assignIn_cons_of_section hinner] at h
      rcases hbelow : assignIn path next rest inner v with ⟨result, below⟩
      rw [hbelow] at h
      obtain ⟨rfl, rfl⟩ := Prod.mk.inj h
      exact (ih hbelow).cons hinner (List.cons_ne_nil next rest)
    · obtain ⟨w, hw⟩ := exists_get?_of_not_isSection hsection
      rw [hw, Option.getD_some] at hsection
      rw [assignIn_cons_of_not_section hw hsection] at h
      cases h

theorem assigned_of_set {s s' : Settings} (h : s.set path v = (.ok stored, s')) :
    Assigned (keysOf path) v stored s.root s'.root := by
  obtain ⟨key, rest, hkeys⟩ := exists_keysOf_eq_cons path
  by_cases hroot : s.root.IsSection
  · obtain ⟨t, ht⟩ := hroot
    rw [set, ht, assign_table hkeys] at h
    rcases hbelow : assignIn path key rest t v with ⟨result, below⟩
    rw [hbelow] at h
    obtain ⟨rfl, rfl⟩ := Prod.mk.inj h
    rw [hkeys, ht]
    exact assigned_of_assignIn hbelow
  · rw [set, assign_of_not_section hroot] at h
    cases h

end Settings

end StreetConsole
