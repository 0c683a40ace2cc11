import StreetConsole.Proofs.ReadBack

/-!
# Settings keep their kinds

Texts are put into the settings one after the other, as a console does; some of them may be refused.
`kindAt?` is the kind of what is at the end of a path, if there is anything, and `KindChange` says
what may become of it: it stays, or it gives way to a text, or a section is made where nothing was.

**Theorem (`kinds_kept`).** However many texts are put into the settings, sections stay sections, and
truth values, integers, doubles and texts stay what they are. A null or a list may only become a
text, and what was missing may only become a text or a section. An edit that does not return is
refused with a `ValueError`.

One edit (`kindChange_set`) is looked at by the place of the observed path. Above the path of the
edit there are sections only, before and after; at its end the text takes on the kind of what it
replaces; and no other path leads to anything new. `KindChange` is transitive, since what has become
a text or a section never changes again, and so a whole run makes no other change than one edit
(`kindChange_edited`).
-/

namespace StreetConsole

/-! ## Kinds -/

namespace Value

/-- The kinds of values. -/
inductive Kind where
  | null
  | bool
  | int
  | double
  | text
  | list
  | table
deriving DecidableEq, Repr

/-- The kind of a value. -/
def kind : Value → Kind
  | .null => .null
  | .bool _ => .bool
  | .int _ => .int
  | .double _ => .double
  | .text _ => .text
  | .list _ => .list
  | .table _ => .table

theorem kind_of_isSection {v : Value} (h : v.IsSection) : v.kind = .table := by
  obtain ⟨t, rfl⟩ := h
  rfl

end Value

namespace Settings

open Value (Kind)

variable {path text : String} {keys before : List String} {v w stored root root' : Value}
  {s s' : Settings} {f : Fault}

/-- The kind of what is at the end of a path of keys, if there is anything. -/
def kindAt? (keys : List String) (root : Value) : Option Kind := (find? keys root).map Value.kind

/-- What may become of the kind at a path when texts are put into the settings. -/
inductive KindChange : Option Kind → Option Kind → Prop
  | kept (kind : Option Kind) : KindChange kind kind
  /-- A null, a list or nothing at all gives way to a text. -/
  | written {kind : Option Kind} (h : kind ∈ [none, some .null, some .list]) :
      KindChange kind (some .text)
  /-- A section is made where there was nothing. -/
  | opened : KindChange none (some .table)

/-- What has become a text or a section stays one. -/
theorem KindChange.trans {a b c : Option Kind} (hab : KindChange a b) (hbc : KindChange b c) :
    KindChange a c := by
  cases hab with
  | kept => exact hbc
  | written h =>
    cases hbc with
    | kept => exact .written h
    | written htext => simp at htext
  | opened =>
    cases hbc with
    | kept => exact .opened
    | written htable => simp at htable

/-! ## One edit -/

/-- A text takes on the kind of what it replaces, unless that is a null or a list. -/
theorem kindChange_of_convert (hw : ¬ w.IsSection) (h : convert w (.text text) = .ok stored) :
    KindChange (some w.kind) (some stored.kind) := by
  cases w with
  | bool b =>
    have hread : (readBool text).map Value.bool = .ok stored := h
    obtain ⟨b', rfl⟩ := exists_of_map_eq_ok hread
    exact .kept _
  | int n =>
    have hread : (readInt text).map Value.int = .ok stored := h
    obtain ⟨n', rfl⟩ := exists_of_map_eq_ok hread
    exact .kept _
  | double x =>
    have hread : (readDouble text).map Value.double = .ok stored := h
    obtain ⟨x', rfl⟩ := exists_of_map_eq_ok hread
    exact .kept _
  | text s =>
    cases h
    exact .kept _
  | null | list =>
    cases h
    exact .written (by simp [Value.kind])
  | table t => exact absurd (Value.isSection_table t) hw

theorem assign_of_set {result : Except Fault Value} (h : s.set path v = (result, s')) :
    assign s.root path v = (result, s'.root) := by
  rw [set] at h
  rcases hassign : assign s.root path v with ⟨result', root⟩
  rw [hassign] at h
  cases h
  rfl

/-- What an assignment that returns passes on its way down is a section already. -/
theorem isSection_of_above (h : s.set path v = (.ok stored, s')) (hbefore : before <+: keysOf path)
    (hne : before ≠ keysOf path) (hw : find? before s.root = some w) : w.IsSection := by
  refine Classical.byContradiction fun hsection => ?_
  -- Otherwise the assignment would have been refused.
  have hrefused : ∃ f, Refused path (keysOf path) v s.root f := by
    obtain ⟨after, hafter⟩ := hbefore
    have hrest : after ≠ [] := by
      rintro rfl
      rw [List.append_nil] at hafter
      exact hne hafter
    rcases List.eq_nil_or_concat before with rfl | ⟨front, key, rfl⟩
    · cases hw
      exact ⟨_, .rootless hsection⟩
    · have hkeys : keysOf path = front ++ key :: after := by
        rw [← hafter, List.concat_eq_append, List.append_assoc, List.singleton_append]
      rw [List.concat_eq_append] at hw
      exact ⟨_, .through hkeys hrest hw hsection⟩
  obtain ⟨f, hf⟩ := hrefused
  have hassign := assign_of_set h
  rw [assign_eq_error_iff.2 ⟨hf, rfl⟩] at hassign
  cases hassign

/-- **What one edit does to kinds.** -/
theorem kindChange_set (s : Settings) (path text : String) (keys : List String) :
    KindChange (kindAt? keys s.root) (kindAt? keys (s.set path (.text text)).2.root) := by
  rcases hset : s.set path (.text text) with ⟨f | stored, s'⟩
  · -- The edit is refused, and all is as it was.
    rw [(assign_eq_error_iff.1 (assign_of_set hset)).2]
    exact .kept _
  · have hassigned := assigned_of_set hset
    by_cases hkeys : keys = keysOf path
    · -- The path of the edit itself.
      subst hkeys
      have hconverted := hassigned.converted
      rw [kindAt?, kindAt?, hassigned.find?_self]
      cases hw : find? (keysOf path) s.root with
      | none =>
        rw [hw] at hconverted
        cases hconverted
        exact .written (by simp)
      | some w =>
        rw [hw, Option.getD_some] at hconverted
        exact kindChange_of_convert (hassigned.setting w hw) hconverted
    · by_cases habove : keys <+: keysOf path
      · -- A path that leads up to it: there is a section now, and there was one or nothing.
        obtain ⟨w', hw', hsection'⟩ := hassigned.above keys habove hkeys
        rw [kindAt?, kindAt?, hw', Option.map_some, Value.kind_of_isSection hsection']
        cases hw : find? keys s.root with
        | none => exact .opened
        | some w =>
          have hsection := isSection_of_above hset habove hkeys hw
          rw [Option.map_some, Value.kind_of_isSection hsection]
          exact .kept _
      · have htext : ¬ (Value.text text).IsSection := by rintro ⟨_, ⟨⟩⟩
        rw [kindAt?, kindAt?, hassigned.find?_of_not_above htext habove]
        exact .kept _

theorem name_of_readBool (h : readBool text = .error f) : f.name = "ValueError" := by
  unfold readBool at h
  dsimp only at h
  split at h
  · cases h
  · split at h <;> cases h
    rfl

theorem name_of_readInt (h : readInt text = .error f) : f.name = "ValueError" := by
  unfold readInt at h
  split at h
  split at h
  · cases h
    rfl
  · split at h
    · cases h
      rfl
    · split at h <;> cases h
      rfl

theorem name_of_readDouble (h : readDouble text = .error f) : f.name = "ValueError" := by
  unfold readDouble at h
  dsimp only at h
  split at h <;> cases h
  rfl

theorem eq_error_of_map {α : Type} {m : Except Fault α} {g : α → Value} (h : m.map g = .error f) :
    m = .error f := by
  cases m with
  | error f => cases h; rfl
  | ok a => cases h

/-- A text that has not the kind of what it would replace is refused with a `ValueError`. -/
theorem name_of_convert (h : convert w (.text text) = .error f) : f.name = "ValueError" := by
  cases w with
  | bool b =>
    have hread : (readBool text).map Value.bool = .error f := h
    exact name_of_readBool (eq_error_of_map hread)
  | int n =>
    have hread : (readInt text).map Value.int = .error f := h
    exact name_of_readInt (eq_error_of_map hread)
  | double x =>
    have hread : (readDouble text).map Value.double = .error f := h
    exact name_of_readDouble (eq_error_of_map hread)
  | null | text | list | table => cases h

/-- Where the settings are a section, a text is refused with a `ValueError` only. -/
theorem name_of_refused (hroot : root.IsSection) (h : Refused path keys (.text text) root f) :
    f.name = "ValueError" := by
  cases h with
  | rootless hno => exact absurd hroot hno
  | through | atSection => rfl
  | unfit _ hconvert => exact name_of_convert hconvert

/-! ## Any number of edits -/

/-- The settings after some texts have been put into them, one after the other. -/
def edited (s : Settings) (edits : List (String × String)) : Settings :=
  edits.foldl (fun s edit => (s.set edit.1 (.text edit.2)).2) s

/-- **What a run of edits does to kinds.** -/
theorem kindChange_edited (s : Settings) (edits : List (String × String)) (keys : List String) :
    KindChange (kindAt? keys s.root) (kindAt? keys (s.edited edits).root) := by
  induction edits generalizing s with
  | nil => exact .kept _
  | cons edit edits ih => exact (kindChange_set s edit.1 edit.2 keys).trans (ih _)

theorem isSection_edited (hroot : s.root.IsSection) (edits : List (String × String)) :
    (s.edited edits).root.IsSection := by
  have hchange := kindChange_edited s edits []
  rw [kindAt?, kindAt?, find?, find?, Option.map_some, Option.map_some,
    Value.kind_of_isSection hroot] at hchange
  have hkind : (s.edited edits).root.kind = .table := by
    generalize (s.edited edits).root.kind = kind at hchange
    cases hchange with
    | kept => rfl
    | written h => simp at h
  cases hvalue : (s.edited edits).root with
  | table t => exact Value.isSection_table t
  | _ =>
    rw [hvalue] at hkind
    cases hkind

/-- **Kinds are stable.** Texts are put into settings that are a section, one after the other. Each
one is stored, or refused with a `ValueError`. At every path, a section stays a section, and a truth
value, an integer, a double or a text gives way to one of its own kind only. A null or a list stays
or gives way to a text, and where there was nothing, there may be a text or a section. -/
theorem kinds_kept {s : Settings} (hroot : s.root.IsSection) (edits : List (String × String)) :
    (∀ before path text after, edits = before ++ (path, text) :: after →
      (∃ stored, ((s.edited before).set path (.text text)).1 = .ok stored) ∨
      ∃ f, ((s.edited before).set path (.text text)).1 = .error f ∧ f.name = "ValueError") ∧
    ∀ keys,
      (∀ kind ∈ [Kind.table, .bool, .int, .double, .text], kindAt? keys s.root = some kind →
        kindAt? keys (s.edited edits).root = some kind) ∧
      (∀ kind ∈ [Kind.null, .list], kindAt? keys s.root = some kind →
        kindAt? keys (s.edited edits).root ∈ [some kind, some .text]) ∧
      (kindAt? keys s.root = none →
        kindAt? keys (s.edited edits).root ∈ [none, some .text, some .table]) := by
  refine ⟨fun before path text after _ => ?_, fun keys => ?_⟩
  · rcases hset : (s.edited before).set path (.text text) with ⟨f | stored, s'⟩
    · have hrefused := (assign_eq_error_iff.1 (assign_of_set hset)).1
      exact Or.inr ⟨f, rfl, name_of_refused (isSection_edited hroot before) hrefused⟩
    · exact Or.inl ⟨stored, rfl⟩
  · have hchange := kindChange_edited s edits keys
    generalize kindAt? keys (s.edited edits).root = after at hchange
    refine ⟨fun kind hkind h => ?_, fun kind hkind h => ?_, fun h => ?_⟩
    · rw [h] at hchange
      cases hchange with
      | kept => rfl
      | written hgiven =>
        have hgiven : kind = .null ∨ kind = .list := by simpa using hgiven
        rcases hgiven with rfl | rfl <;> simp at hkind
    · rw [h] at hchange
      cases hchange <;> simp
    · rw [h] at hchange
      cases hchange <;> simp

/-- The settings that come with the console. A switch stays a switch, a number stays a number though
one edit of it is refused, a section is not overwritten, and a new section is made. -/
theorem kinds_kept_packaged :
    let s : Settings := ⟨packaged, .packaged⟩
    let edits := [("autocomplete.enabled", "off"), ("state.heat", "hot"), ("state.heat", " +6_0 "),
      ("shell", "none"), ("shell.theme.colour", "red")]
    let after := s.edited edits
    s.root.IsSection ∧
    (∃ f, ((s.edited [("autocomplete.enabled", "off")]).set "state.heat" (.text "hot")).1 =
      .error f ∧ f.name = "ValueError") ∧
    kindAt? ["autocomplete", "enabled"] after.root = some .bool ∧
    kindAt? ["state", "heat"] after.root = some .int ∧
    find? ["state", "heat"] after.root = some (.int 60) ∧
    kindAt? ["shell"] after.root = some .table ∧
    kindAt? ["shell", "theme"] s.root = none ∧
    kindAt? ["shell", "theme"] after.root ∈ [none, some .text, some .table] := by
  intro s edits after
  have hroot : s.root.IsSection := Value.isSection_table _
  obtain ⟨hedits, hkinds⟩ := kinds_kept hroot edits
  have hrefused :
      ((s.edited [("autocomplete.enabled", "off")]).set "state.heat" (.text "hot")).1 =
        .error (.notInteger "hot") := rfl
  refine ⟨hroot, ?_, (hkinds _).1 .bool (by simp) rfl, (hkinds _).1 .int (by simp) rfl, rfl,
    (hkinds _).1 .table (by simp) rfl, rfl, (hkinds _).2.2 rfl⟩
  rcases hedits [("autocomplete.enabled", "off")] "state.heat" "hot" _ rfl with ⟨stored, h⟩ | h
  · rw [hrefused] at h
    cases h
  · exact h

end Settings

end StreetConsole
