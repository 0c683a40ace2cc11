import Mathlib.Data.List.Nodup
import StreetConsole.Proofs.Assignment

/-!
# The leaves of a settings tree

A leaf is a setting that is no section. `LeafAt` says that there is one at the end of a path of keys,
and `leaves` lists them all with their paths, in the order in which the settings are listed.

**Theorem (`listingOf_eq`).** The listing has the leaves, with names made of their paths.

**Theorem (`mem_leaves_iff`).** In a tree without a key that a section has twice (`Keyed`), `leaves`
has exactly the leaves that a look-up along a path finds, and no path twice
(`nodup_paths_leaves`).

Paths are written with dots between their keys (`dotted`), and are read again by `keysOf` if no key
has a dot in it. The name in a listing is made of a path key by key, and is the path written with
dots but for the empty keys in front: these are lost (`nameOf_eq`).
-/

namespace StreetConsole

/-- No section of the tree has a key twice, and all keys satisfy `P`. -/
inductive Value.Keyed (P : String → Prop) : Value → Prop
  | leaf {v : Value} : ¬ v.IsSection → Keyed P v
  | table {t : Table} : (Dict.keys t).Nodup → (∀ key ∈ Dict.keys t, P key) →
      (∀ p ∈ t, Keyed P p.2) → Keyed P (.table t)

namespace Settings

variable {P : String → Prop} {v w : Value} {t : Table} {key name path : String}
  {keys rest : List String}

/-! ## Names and paths -/

/-- A path as it is written. -/
def dotted (keys : List String) : String := ".".intercalate keys

/-- The key has no dot in it, so that it is one key wherever it is written. -/
def Dotless (key : String) : Prop := '.' ∉ key.toList

instance : DecidablePred Dotless := fun key => inferInstanceAs (Decidable ('.' ∉ key.toList))

theorem keysOf_dotted (hkeys : keys ≠ []) (hdots : ∀ key ∈ keys, Dotless key) :
    keysOf (dotted keys) = keys :=
  Text.splitAt_of_toList_eq hkeys hdots String.toList_intercalate

theorem dotless_of_mem_keysOf (h : key ∈ keysOf path) : Dotless key :=
  Text.not_mem_of_mem_splitAt h

/-- The name of the setting at the end of a path, as it is made in a listing. -/
def nameOf (keys : List String) : String := keys.foldl childName ""

theorem foldl_childName (hname : name ≠ "") (keys : List String) :
    keys.foldl childName name = dotted (name :: keys) := by
  induction keys generalizing name with
  | nil => exact String.intercalate_singleton.symm
  | cons key keys ih =>
    have hchild : childName name key = name ++ "." ++ key := by
      rw [childName, if_neg (by simpa using hname)]
    have hne : name ++ "." ++ key ≠ "" := by
      simp [hname]
    rw [List.foldl_cons, hchild, ih hne]
    cases keys with
    | nil => simp [dotted, String.intercalate_cons_cons]
    | cons next keys => simp [dotted, String.intercalate_cons_cons, String.append_assoc]

/-- **A name is the written path without the empty keys in front.** -/
theorem nameOf_eq (keys : List String) : nameOf keys = dotted (keys.dropWhile (· = "")) := by
  induction keys with
  | nil => rfl
  | cons key keys ih =>
    by_cases hkey : key = ""
    · rw [List.dropWhile_cons_of_pos (by simpa using hkey), ← ih, hkey]
      rfl
    · rw [List.dropWhile_cons_of_neg (by simpa using hkey), ← foldl_childName hkey]
      rfl

/-! ## Leaves -/

/-- There is a setting at the end of the path, and it is no section. -/
def LeafAt (root : Value) (keys : List String) (v : Value) : Prop :=
  find? keys root = some v ∧ ¬ v.IsSection

mutual

/-- The leaves at and below a value, with the paths to them. In each section the keys are in
order. -/
def leaves : Value → List (List String × Value)
  | .table entries =>
    ((leavesBelow entries).mergeSort fun a b => decide (a.1 ≤ b.1)).flatMap (·.2)
  | v => [([], v)]

/-- The leaves below each of the entries of a section. -/
def leavesBelow : List (String × Value) → List (String × List (List String × Value))
  | [] => []
  | (key, v) :: rest =>
    (key, (leaves v).map fun leaf => (key :: leaf.1, leaf.2)) :: leavesBelow rest

end

/-- A leaf as it is listed below a section with the given name. -/
def named (name : String) (leaf : List String × Value) : String × Value :=
  (leaf.1.foldl childName name, leaf.2)

mutual

/-- **A listing has the leaves under their names.** -/
theorem listingOf_eq (name : String) (v : Value) : listingOf name v = (leaves v).map (named name) := by
  cases v with
  | table entries =>
    rw [listingOf, leaves, listingsOf_eq, List.map_flatMap, ← List.map_mergeSort, List.flatMap_map]
    intro a _ b _
    rfl
  | _ => rfl

theorem listingsOf_eq (name : String) (entries : List (String × Value)) :
    listingsOf name entries = (leavesBelow entries).map fun b => (b.1, b.2.map (named name)) := by
  cases entries with
  | nil => rfl
  | cons entry rest =>
    obtain ⟨key, v⟩ := entry
    rw [listingsOf, leavesBelow, List.map_cons, listingOf_eq, listingsOf_eq, List.map_map]
    rfl

end

theorem leavesBelow_eq (t : Table) :
    leavesBelow t = t.map fun p => (p.1, (leaves p.2).map fun leaf => (p.1 :: leaf.1, leaf.2)) := by
  induction t with
  | nil => rfl
  | cons p rest ih => rw [leavesBelow, ih, List.map_cons]

theorem leaves_of_not_isSection (hv : ¬ v.IsSection) : leaves v = [([], v)] := by
  cases v with
  | table t => exact absurd (Value.isSection_table t) hv
  | _ => rfl

/-- The leaves of a section are those of its entries, in another order. -/
theorem leaves_table_perm (t : Table) :
    (leaves (.table t)).Perm
      (t.flatMap fun p => (leaves p.2).map fun leaf => (p.1 :: leaf.1, leaf.2)) := by
  rw [leaves, leavesBelow_eq]
  refine ((List.mergeSort_perm _ _).flatMap_right _).trans ?_
  rw [List.flatMap_map]

theorem mem_leaves_table : (keys, w) ∈ leaves (.table t) ↔
    ∃ key rest v, keys = key :: rest ∧ (key, v) ∈ t ∧ (rest, w) ∈ leaves v := by
  rw [(leaves_table_perm t).mem_iff, List.mem_flatMap]
  constructor
  · rintro ⟨⟨key, v⟩, hp, hleaf⟩
    obtain ⟨⟨rest, u⟩, hmem, hsame⟩ := List.mem_map.1 hleaf
    obtain ⟨rfl, rfl⟩ := Prod.mk.inj hsame
    exact ⟨key, rest, v, rfl, hp, hmem⟩
  · rintro ⟨key, rest, v, rfl, hp, hmem⟩
    exact ⟨(key, v), hp, List.mem_map.2 ⟨(rest, w), hmem, rfl⟩⟩

/-- **`leaves` has what a look-up finds.** -/
theorem mem_leaves_iff (hv : v.Keyed P) : (keys, w) ∈ leaves v ↔ LeafAt v keys w := by
  induction hv generalizing keys with
  | @leaf v hleaf =>
    rw [leaves_of_not_isSection hleaf, List.mem_singleton, Prod.mk.injEq, LeafAt]
    constructor
    · rintro ⟨rfl, rfl⟩
      exact ⟨rfl, hleaf⟩
    · rintro ⟨hfind, -⟩
      have hkeys : keys = [] := by
        by_contra hne
        exact hleaf (isSection_of_find? hfind hne)
      subst hkeys
      exact ⟨rfl, (Option.some.inj hfind).symm⟩
  | @table t hnodup _ _ ih =>
    rw [mem_leaves_table]
    constructor
    · rintro ⟨key, rest, u, rfl, hmem, hleaf⟩
      obtain ⟨hfind, hw⟩ := (ih (key, u) hmem).1 hleaf
      exact ⟨(find?_cons_of_get? ((Dict.get?_eq_some_iff_mem hnodup).2 hmem)).trans hfind, hw⟩
    · rintro ⟨hfind, hw⟩
      cases keys with
      | nil =>
        cases hfind
        exact absurd (Value.isSection_table t) hw
      | cons key rest =>
        obtain ⟨u, hget, hbelow⟩ := Option.bind_eq_some_iff.1 hfind
        have hmem := (Dict.get?_eq_some_iff_mem hnodup).1 hget
        exact ⟨key, rest, u, rfl, hmem, (ih (key, u) hmem).2 ⟨hbelow, hw⟩⟩

/-- No path leads to two leaves. -/
theorem nodup_paths_leaves (hv : v.Keyed P) : ((leaves v).map (·.1)).Nodup := by
  induction hv with
  | leaf hleaf => simp [leaves_of_not_isSection hleaf]
  | @table t hnodup _ _ ih =>
    rw [((leaves_table_perm t).map _).nodup_iff, List.map_flatMap, List.nodup_flatMap]
    refine ⟨fun p hp => ?_, ?_⟩
    · have hcons : ((leaves p.2).map fun leaf => (p.1 :: leaf.1, leaf.2)).map (·.1) =
          ((leaves p.2).map (·.1)).map (p.1 :: ·) := by
        rw [List.map_map, List.map_map]
        rfl
      rw [hcons]
      exact (ih p hp).map (List.cons_injective)
    · have hkeys : t.Pairwise fun p q => p.1 ≠ q.1 := List.pairwise_map.1 hnodup
      refine hkeys.imp fun {p q} hne => ?_
      intro keys hp hq
      simp only [List.mem_map] at hp hq
      obtain ⟨_, ⟨leaf, -, rfl⟩, rfl⟩ := hp
      obtain ⟨_, ⟨leaf', -, rfl⟩, hsame⟩ := hq
      exact hne (List.cons.inj hsame).1.symm

end Settings

end StreetConsole
