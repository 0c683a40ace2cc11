import Mathlib.Data.List.Sort
import Mathlib.Data.String.Basic
import StreetConsole.Proofs.Listing

/-!
# Settings are rebuilt from their listing

A listing is a list of names and values, and so is a list of assignments. `replay` makes them one
after the other, and stops at the first one that is refused.

**Theorem (`listing_rebuilds`).** Where no key is empty or has a dot in it, the listing of settings
can be replayed from nothing, and no assignment is refused. This gives settings with the same
listing. They differ from the given ones only in that sections without leaves are not there.

No path to a leaf leads on to another one (`LeafAt.apart`). So when the leaves are assigned in turn,
each of them is put where nothing is. `Rebuilt` says what there is at each time: the leaves that
have been assigned, and sections only where they lead to one of these (`Rebuilt.set` for one
assignment, `Rebuilt.exists_replay` for all).

That the new listing is the old one, in the same order, is seen from the leaves alone: their paths
ascend (`ascending_leaves`), so that trees with the same leaves list them alike
(`leaves_eq_of_leafAt_iff`), in whatever order their sections were made.
-/

namespace StreetConsole

theorem Value.Keyed.imp {P Q : String → Prop} {v : Value} (h : v.Keyed P)
    (himp : ∀ key, P key → Q key) : v.Keyed Q := by
  induction h with
  | leaf hleaf => exact .leaf hleaf
  | table hnodup hkeys _ ih => exact .table hnodup (fun key hkey => himp key (hkeys key hkey)) ih

namespace Settings

variable {P Q : String → Prop} {path : String} {keys other more : List String}
  {v w root root' : Value} {t : Table} {s s' : Settings} {done : List (List String × Value)}

/-! ## Leaves in order -/

/-- No key comes twice, so that each one is below the next. -/
theorem ascending_mergeSort (ht : (Dict.keys t).Nodup) :
    ((leavesBelow t).mergeSort fun a b => decide (a.1 ≤ b.1)).Pairwise fun a b => a.1 < b.1 := by
  have hperm := List.mergeSort_perm (leavesBelow t) fun a b => decide (a.1 ≤ b.1)
  have hsorted : ((leavesBelow t).mergeSort fun a b => decide (a.1 ≤ b.1)).Pairwise
      fun a b => decide (a.1 ≤ b.1) = true := by
    refine List.pairwise_mergeSort (fun a b c hab hbc => ?_) (fun a b => ?_) _
    · exact decide_eq_true ((of_decide_eq_true hab).trans (of_decide_eq_true hbc))
    · simpa using le_total a.1 b.1
  have hkeys : (leavesBelow t).Pairwise fun a b => a.1 ≠ b.1 := by
    rw [leavesBelow_eq, List.pairwise_map]
    exact List.pairwise_map.1 ht
  have hdistinct := hperm.symm.pairwise hkeys fun hne => hne.symm
  exact (hsorted.and hdistinct).imp fun ⟨hle, hne⟩ => lt_of_le_of_ne (of_decide_eq_true hle) hne

/-- **The paths to the leaves ascend.** -/
theorem ascending_leaves (hv : v.Keyed P) : (leaves v).Pairwise fun a b => a.1 < b.1 := by
  induction hv with
  | leaf hleaf => simp [leaves_of_not_isSection hleaf]
  | @table t hnodup _ _ ih =>
    have hbelow : ∀ b ∈ (leavesBelow t).mergeSort fun a b => decide (a.1 ≤ b.1),
        ∃ u, (b.1, u) ∈ t ∧ b.2 = (leaves u).map fun leaf => (b.1 :: leaf.1, leaf.2) := by
      intro b hb
      rw [List.mem_mergeSort, leavesBelow_eq, List.mem_map] at hb
      obtain ⟨⟨key, u⟩, hmem, rfl⟩ := hb
      exact ⟨u, hmem, rfl⟩
    rw [leaves, List.pairwise_flatMap]
    constructor
    · intro b hb
      obtain ⟨u, hu, hleaves⟩ := hbelow b hb
      rw [hleaves, List.pairwise_map]
      exact (ih _ hu).imp fun hlt => List.cons_lt_cons_iff.2 (Or.inr ⟨rfl, hlt⟩)
    · refine (ascending_mergeSort hnodup).imp_of_mem ?_
      intro a b ha hb hlt leaf hleaf leaf' hleaf'
      obtain ⟨_, -, hleaves⟩ := hbelow a ha
      obtain ⟨_, -, hleaves'⟩ := hbelow b hb
      rw [hleaves, List.mem_map] at hleaf
      rw [hleaves', List.mem_map] at hleaf'
      obtain ⟨_, -, rfl⟩ := hleaf
      obtain ⟨_, -, rfl⟩ := hleaf'
      exact List.cons_lt_cons_iff.2 (Or.inl hlt)

/-- Trees with the same leaves list them in the same order. -/
theorem leaves_eq_of_leafAt_iff (hv : v.Keyed P) (hw : w.Keyed Q)
    (h : ∀ keys u, LeafAt v keys u ↔ LeafAt w keys u) : leaves v = leaves w := by
  have hmem : ∀ leaf, leaf ∈ leaves v ↔ leaf ∈ leaves w := by
    rintro ⟨keys, u⟩
    rw [mem_leaves_iff hv, mem_leaves_iff hw, h]
  have hnodup := (nodup_paths_leaves hv).of_map
  have hnodup' := (nodup_paths_leaves hw).of_map
  have hperm := (List.perm_ext_iff_of_nodup hnodup hnodup').2 hmem
  refine hperm.eq_of_pairwise ?_ (ascending_leaves hv) (ascending_leaves hw)
  intro a b _ _ hab hba
  exact absurd hba (lt_asymm hab)

/-! ## Leaves apart -/

/-- Neither of the paths leads on to the other one. -/
def Apart (keys other : List String) : Prop := ¬ keys <+: other ∧ ¬ other <+: keys

/-- There is a section at the end of the path. -/
def SectionAt (root : Value) (keys : List String) : Prop :=
  ∃ w, find? keys root = some w ∧ w.IsSection

namespace LeafAt

theorem not_sectionAt (h : LeafAt root keys v) : ¬ SectionAt root keys := by
  rintro ⟨w, hw, hsection⟩
  rw [h.1] at hw
  exact h.2 (Option.some.inj hw ▸ hsection)

/-- What leads on to a leaf is a section. -/
theorem sectionAt (h : LeafAt root (keys ++ more) v) (hmore : more ≠ []) : SectionAt root keys := by
  have hfind := h.1
  rw [find?_append] at hfind
  obtain ⟨w, hw, hbelow⟩ := Option.bind_eq_some_iff.1 hfind
  exact ⟨w, hw, isSection_of_find? hbelow hmore⟩

theorem eq_of_leads (h : LeafAt root keys v) (h' : LeafAt root other w) (hle : keys <+: other) :
    keys = other := by
  obtain ⟨more, rfl⟩ := hle
  by_cases hmore : more = []
  · rw [hmore, List.append_nil]
  · exact absurd (h'.sectionAt hmore) h.not_sectionAt

/-- **No path to a leaf leads on to another leaf.** -/
theorem apart (h : LeafAt root keys v) (h' : LeafAt root other w) (hne : keys ≠ other) :
    Apart keys other :=
  ⟨fun hle => hne (h.eq_of_leads h' hle), fun hle => hne (h'.eq_of_leads h hle).symm⟩

end LeafAt

theorem apart_leaves (hv : v.Keyed P) : (leaves v).Pairwise fun a b => Apart a.1 b.1 := by
  have hpaths : (leaves v).Pairwise fun a b => a.1 ≠ b.1 :=
    List.pairwise_map.1 (nodup_paths_leaves hv)
  refine hpaths.imp_of_mem fun ha hb hne => ?_
  exact ((mem_leaves_iff hv).1 ha).apart ((mem_leaves_iff hv).1 hb) hne

/-! ## Assignments one after the other -/

/-- Makes the assignments in turn, up to the first one that is refused. -/
def replay (items : List (String × Value)) (s : Settings) : Except Fault Settings :=
  items.foldlM (fun s p =>
    match s.set p.1 p.2 with
    | (.ok _, s') => .ok s'
    | (.error f, _) => .error f) s

theorem replay_cons_of_set {stored : Value} (h : s.set path v = (.ok stored, s'))
    (items : List (String × Value)) : replay ((path, v) :: items) s = replay items s' := by
  rw [replay, List.foldlM_cons, h]
  rfl

/-- The assignment with its path read. -/
def target (p : String × Value) : List String × Value := (keysOf p.1, p.2)

/-- What there is after some assignments: what they assigned, and the sections that lead to it. -/
structure Rebuilt (done : List (List String × Value)) (root : Value) : Prop where
  keyed : root.Keyed Dotless
  isSection : root.IsSection
  leafAt_iff : ∀ keys v, LeafAt root keys v ↔ (keys, v) ∈ done
  leads : ∀ keys, SectionAt root keys → keys ≠ [] → ∃ leaf ∈ done, keys <+: leaf.1

namespace Rebuilt

theorem empty : Rebuilt [] (.table []) where
  keyed := .nil
  isSection := Value.isSection_table []
  leafAt_iff keys v := by
    rw [← mem_leaves_iff (.nil : (Value.table []).Keyed Dotless)]
    simp [leaves, leavesBelow]
  leads keys hsection hne := by
    obtain ⟨key, rest, rfl⟩ := List.exists_cons_of_ne_nil hne
    obtain ⟨w, hw, -⟩ := hsection
    cases hw

section Step

variable (h : Rebuilt done s.root) (hapart : ∀ leaf ∈ done, Apart leaf.1 (keysOf path))

include h hapart

/-- Nothing is at a path that is apart from those that were assigned to. -/
theorem find?_eq_none : find? (keysOf path) s.root = none := by
  cases hfind : find? (keysOf path) s.root with
  | none => rfl
  | some w =>
    by_cases hw : w.IsSection
    · obtain ⟨leaf, hmem, hle⟩ :=
        h.leads (keysOf path) ⟨w, hfind, hw⟩ (Text.splitAt_ne_nil '.' path)
      exact absurd hle (hapart leaf hmem).2
    · have hmem := (h.leafAt_iff (keysOf path) w).1 ⟨hfind, hw⟩
      exact absurd (List.prefix_refl _) (hapart _ hmem).1

theorem not_refused (f : Fault) : ¬ Refused path (keysOf path) v s.root f := by
  intro hrefused
  have hnone := h.find?_eq_none hapart
  cases hrefused with
  | rootless hroot => exact hroot h.isSection
  | @through before after key w hkeys _ hfind hw =>
    have hmem := (h.leafAt_iff (before ++ [key]) w).1 ⟨hfind, hw⟩
    exact (hapart _ hmem).1 ⟨after, by rw [hkeys, List.append_assoc, List.singleton_append]⟩
  | atSection hfind _ =>
    rw [hnone] at hfind
    cases hfind
  | unfit hfind _ =>
    rw [hnone] at hfind
    cases hfind

/-- The value is stored as it is, since it replaces nothing. -/
theorem exists_set (v : Value) : ∃ s', s.set path v = (.ok v, s') := by
  rcases hset : s.set path v with ⟨result, s'⟩
  cases result with
  | error f => exact absurd (set_eq_error_iff.1 hset).1 (h.not_refused hapart f)
  | ok stored =>
    have hconverted := (assigned_of_set hset).converted
    rw [h.find?_eq_none hapart, Option.getD_none] at hconverted
    have hstored : v = stored := Except.ok.inj hconverted
    rw [hstored]
    exact ⟨s', rfl⟩

/-- **One assignment**, to a path that is apart from those before. -/
theorem set (hv : ¬ v.IsSection) (hset : s.set path v = (.ok v, s')) :
    Rebuilt (done ++ [(keysOf path, v)]) s'.root where
  keyed := keyed_set hv h.keyed (fun _ => dotless_of_mem_keysOf) hset
  isSection := isSection_of_set hset
  leafAt_iff keys w := by
    rw [leafAt_set_iff hv hset, h.leafAt_iff, List.mem_append, List.mem_singleton, Prod.mk.injEq]
    constructor
    · rintro (hnew | ⟨-, hold⟩)
      · exact Or.inr hnew
      · exact Or.inl hold
    · rintro (hold | hnew)
      · refine Or.inr ⟨?_, hold⟩
        rintro rfl
        exact (hapart _ hold).1 (List.prefix_refl _)
      · exact Or.inl hnew
  leads keys hsection hne := by
    by_cases hle : keys <+: keysOf path
    · exact ⟨_, List.mem_append_right done (List.mem_singleton_self _), hle⟩
    · -- The section was there before.
      rw [SectionAt, (assigned_of_set hset).find?_of_not_above hv hle] at hsection
      obtain ⟨leaf, hmem, hbelow⟩ := h.leads keys hsection hne
      exact ⟨leaf, List.mem_append_left _ hmem, hbelow⟩

end Step

/-- **Assignments to paths that are apart are all made.** -/
theorem exists_replay (h : Rebuilt done s.root) {items : List (String × Value)}
    (hitems : ∀ p ∈ items, ¬ p.2.IsSection)
    (hapart : (done ++ items.map target).Pairwise fun a b => Apart a.1 b.1) :
    ∃ s', replay items s = .ok s' ∧ Rebuilt (done ++ items.map target) s'.root := by
  induction items generalizing s done with
  | nil => exact ⟨s, rfl, by rwa [List.map_nil, List.append_nil]⟩
  | cons p items ih =>
    obtain ⟨path, v⟩ := p
    have hall : done ++ ((path, v) :: items).map target =
        done ++ [(keysOf path, v)] ++ items.map target := by
      rw [List.append_assoc]
      rfl
    rw [hall] at hapart ⊢
    have hbefore : ∀ leaf ∈ done, Apart leaf.1 (keysOf path) := fun leaf hleaf =>
      (List.pairwise_append.1 (List.pairwise_append.1 hapart).1).2.2 leaf hleaf _
        (List.mem_singleton_self _)
    obtain ⟨s', hset⟩ := h.exists_set hbefore v
    have hrebuilt := h.set hbefore (hitems (path, v) List.mem_cons_self) hset
    rw [replay_cons_of_set hset]
    exact ih hrebuilt (fun p hp => hitems p (List.mem_cons_of_mem _ hp)) hapart

end Rebuilt

/-! ## A listing as a list of assignments -/

/-- The key is not empty and has no dot in it. -/
def Proper (key : String) : Prop := key ≠ "" ∧ Dotless key

instance : DecidablePred Proper := fun key =>
  inferInstanceAs (Decidable (key ≠ "" ∧ Dotless key))

section Proper

variable (hs : s.root.Keyed Proper) (hroot : s.root.IsSection)

include hs hroot

theorem exists_cons_of_leafAt (hleaf : LeafAt s.root keys v) :
    ∃ key rest, keys = key :: rest ∧ key ≠ "" := by
  cases keys with
  | nil => exact absurd ⟨s.root, rfl, hroot⟩ hleaf.not_sectionAt
  | cons key rest => exact ⟨key, rest, rfl, (hs.of_find? hleaf.1 key List.mem_cons_self).1⟩

theorem nameOf_of_leafAt (hleaf : LeafAt s.root keys v) : nameOf keys = dotted keys := by
  obtain ⟨key, rest, rfl, hkey⟩ := exists_cons_of_leafAt hs hroot hleaf
  rw [nameOf_eq, List.dropWhile_cons_of_neg (by simpa using hkey)]

theorem keysOf_dotted_of_leafAt (hleaf : LeafAt s.root keys v) : keysOf (dotted keys) = keys := by
  obtain ⟨key, rest, rfl, -⟩ := exists_cons_of_leafAt hs hroot hleaf
  exact keysOf_dotted (List.cons_ne_nil key rest) fun k hk => (hs.of_find? hleaf.1 k hk).2

theorem readsBack_of_proper : s.ReadsBack := by
  refine readsBack_of_not_misnamed (hs.imp fun _ => And.right) hroot fun keys v hleaf => ?_
  obtain ⟨key, rest, rfl, hkey⟩ := exists_cons_of_leafAt hs hroot hleaf
  exact not_misnamed_cons hkey rest

/-- The names of a listing are read as the paths that they were made of. -/
theorem map_target_items : s.items.map target = leaves s.root := by
  rw [items_eq, List.map_map]
  refine (List.map_congr_left fun leaf hmem => ?_).trans (List.map_id _)
  have hleaf := (mem_leaves_iff hs).1 hmem
  simp only [Function.comp_apply, target, nameOf_of_leafAt hs hroot hleaf,
    keysOf_dotted_of_leafAt hs hroot hleaf, id]

/-- A leaf is listed under the path to it, as it is written. -/
theorem mem_items_iff_dotted {name : String} :
    (name, v) ∈ s.items ↔ ∃ keys, LeafAt s.root keys v ∧ dotted keys = name := by
  rw [mem_items_iff hs]
  constructor
  · rintro ⟨keys, hleaf, rfl⟩
    exact ⟨keys, hleaf, (nameOf_of_leafAt hs hroot hleaf).symm⟩
  · rintro ⟨keys, hleaf, rfl⟩
    exact ⟨keys, hleaf, nameOf_of_leafAt hs hroot hleaf⟩

theorem exists_replay_items (file : SettingsFile) :
    ∃ s', replay s.items ⟨.table [], file⟩ = .ok s' ∧ Rebuilt (leaves s.root) s'.root := by
  have hitems : ∀ p ∈ s.items, ¬ p.2.IsSection := by
    rintro ⟨name, v⟩ hp
    obtain ⟨keys, hleaf, -⟩ := (mem_items_iff hs).1 hp
    exact hleaf.2
  have hstart : Rebuilt [] (Settings.root ⟨.table [], file⟩) := .empty
  have hreplay := hstart.exists_replay hitems
  rw [List.nil_append, map_target_items hs hroot] at hreplay
  exact hreplay (apart_leaves hs)

end Proper

namespace Rebuilt

variable (hs : s.root.Keyed P) (h : Rebuilt (leaves s.root) root')

include hs h

theorem leafAt_iff_leafAt (keys : List String) (v : Value) :
    LeafAt root' keys v ↔ LeafAt s.root keys v := by
  rw [h.leafAt_iff, mem_leaves_iff hs]

/-- Of the sections, those that lead to a leaf are there again. -/
theorem sectionAt_iff (hroot : s.root.IsSection) (keys : List String) :
    SectionAt root' keys ↔
      SectionAt s.root keys ∧ (keys = [] ∨ ∃ more v, LeafAt s.root (keys ++ more) v) := by
  by_cases hkeys : keys = []
  · subst hkeys
    simp [SectionAt, find?, h.isSection, hroot]
  · constructor
    · intro hsection
      obtain ⟨⟨_, v⟩, hmem, more, rfl⟩ := h.leads keys hsection hkeys
      have hleaf := (mem_leaves_iff hs).1 hmem
      have hmore : more ≠ [] := by
        rintro rfl
        rw [List.append_nil, ← h.leafAt_iff_leafAt hs] at hleaf
        exact hleaf.not_sectionAt hsection
      exact ⟨hleaf.sectionAt hmore, Or.inr ⟨more, v, hleaf⟩⟩
    · rintro ⟨hsection, hleads⟩
      obtain ⟨more, v, hleaf⟩ := hleads.resolve_left hkeys
      have hmore : more ≠ [] := by
        rintro rfl
        rw [List.append_nil] at hleaf
        exact hleaf.not_sectionAt hsection
      exact ((h.leafAt_iff_leafAt hs _ v).2 hleaf).sectionAt hmore

end Rebuilt

/-- **Settings are rebuilt from their listing.** No key is empty or has a dot in it. Each leaf is
listed once, under its path as it is written: the name is read as this path again, and no name comes
twice. The listing can be replayed from nothing without a refusal. The settings that it gives have
the same listing and the same answer to every look-up of a listed name. They have the same leaves,
and those sections that lead to a leaf. -/
theorem listing_rebuilds (hs : s.root.Keyed Proper) (hroot : s.root.IsSection)
    (file : SettingsFile) :
    ((∀ name v, (name, v) ∈ s.items ↔ ∃ keys, LeafAt s.root keys v ∧ dotted keys = name) ∧
      (∀ keys v, LeafAt s.root keys v → keysOf (dotted keys) = keys) ∧
      (s.items.map (·.1)).Nodup) ∧
    ∃ s', replay s.items ⟨.table [], file⟩ = .ok s' ∧
      s'.items = s.items ∧
      (∀ p ∈ s.items, ∀ d, s'.get p.1 d = s.get p.1 d) ∧
      (∀ keys v, LeafAt s'.root keys v ↔ LeafAt s.root keys v) ∧
      ∀ keys, SectionAt s'.root keys ↔
        SectionAt s.root keys ∧ (keys = [] ∨ ∃ more v, LeafAt s.root (keys ++ more) v) := by
  refine ⟨⟨fun name v => mem_items_iff_dotted hs hroot,
    fun keys v => keysOf_dotted_of_leafAt hs hroot, (readsBack_of_proper hs hroot).2⟩, ?_⟩
  obtain ⟨s', hreplay, hrebuilt⟩ := exists_replay_items hs hroot file
  have hleaves := hrebuilt.leafAt_iff_leafAt hs
  refine ⟨s', hreplay, ?_, ?_, hleaves, hrebuilt.sectionAt_iff hs hroot⟩
  · rw [items_eq, items_eq, leaves_eq_of_leafAt_iff hrebuilt.keyed hs hleaves]
  · rintro ⟨name, v⟩ hp d
    obtain ⟨keys, hleaf, rfl⟩ := (mem_items_iff_dotted hs hroot).1 hp
    rw [get, get, lookup_eq, lookup_eq, keysOf_dotted_of_leafAt hs hroot hleaf, hleaf.1,
      ((hleaves keys v).2 hleaf).1]

/-- Settings with two leaves and, besides the section of one of them, three sections without any.
The keys within a list are none of the tree. -/
def hollow : Value := .table [
  ("zone", .table [("night", .table [])]),
  ("crew", .table [("boss", .null), ("bench", .table [])]),
  ("odds", .list [.table [("a.b", .int 3)]])]

theorem keyed_hollow : hollow.Keyed Proper := by
  have hempty : (Value.table []).Keyed Proper := .nil
  have hnull : Value.null.Keyed Proper := .leaf (by rintro ⟨_, ⟨⟩⟩)
  have hlist : (Value.list [.table [("a.b", .int 3)]]).Keyed Proper := .leaf (by rintro ⟨_, ⟨⟩⟩)
  have hzone : (Value.table [("night", .table [])]).Keyed Proper :=
    .table (by decide) (by decide +kernel) (by simpa using hempty)
  have hcrew : (Value.table [("boss", .null), ("bench", .table [])]).Keyed Proper :=
    .table (by decide) (by decide +kernel) (by simpa using ⟨hnull, hempty⟩)
  exact .table (by decide) (by decide +kernel) (by simpa using ⟨hzone, hcrew, hlist⟩)

theorem leafAt_hollow (h : LeafAt hollow keys v) : keys = ["crew", "boss"] ∨ keys = ["odds"] := by
  have hnull : leaves .null = [([], .null)] := rfl
  have hlist : ∀ items, leaves (.list items) = [([], .list items)] := fun _ => rfl
  have hmem : (keys, v) ∈ leaves hollow := (mem_leaves_iff keyed_hollow).2 h
  simp [hollow, (leaves_table_perm _).mem_iff, hnull, hlist] at hmem
  rcases hmem with ⟨rfl, -⟩ | ⟨rfl, -⟩
  · exact Or.inl rfl
  · exact Or.inr rfl

/-- The null is rebuilt with the section around it. The empty sections are gone, and so is the one
that held nothing else. -/
theorem listing_rebuilds_hollow :
    let s : Settings := ⟨hollow, .missing⟩
    s.root.Keyed Proper ∧ s.root.IsSection ∧ ("crew.boss", .null) ∈ s.items ∧
    ∃ s', replay s.items ⟨.table [], .missing⟩ = .ok s' ∧ s'.items = s.items ∧
      SectionAt s'.root ["crew"] ∧ ¬ SectionAt s'.root ["crew", "bench"] ∧
      ¬ SectionAt s'.root ["zone"] ∧ ¬ SectionAt s'.root ["zone", "night"] := by
  intro s
  have hroot : s.root.IsSection := Value.isSection_table _
  have hboss : LeafAt s.root ["crew", "boss"] .null := ⟨rfl, by rintro ⟨_, ⟨⟩⟩⟩
  obtain ⟨⟨hlisted, -, -⟩, s', hreplay, hitems, -, -, hsections⟩ :=
    listing_rebuilds (s := s) keyed_hollow hroot .missing
  have hgone : ∀ keys, keys ≠ [] → ¬ keys <+: ["crew", "boss"] → ¬ keys <+: ["odds"] →
      ¬ SectionAt s'.root keys := by
    intro keys hne hcrew hodds hsection
    obtain ⟨-, hnil | ⟨more, v, hleaf⟩⟩ := (hsections keys).1 hsection
    · exact hne hnil
    · rcases leafAt_hollow hleaf with hkeys | hkeys
      · exact hcrew ⟨more, hkeys⟩
      · exact hodds ⟨more, hkeys⟩
  refine ⟨keyed_hollow, hroot, (hlisted _ _).2 ⟨_, hboss, by decide⟩, s', hreplay, hitems, ?_,
    hgone _ (by decide) (by decide) (by decide), hgone _ (by decide) (by decide) (by decide),
    hgone _ (by decide) (by decide) (by decide)⟩
  exact (hsections ["crew"]).2 ⟨⟨_, rfl, Value.isSection_table _⟩, Or.inr ⟨["boss"], .null, hboss⟩⟩

end Settings

end StreetConsole
