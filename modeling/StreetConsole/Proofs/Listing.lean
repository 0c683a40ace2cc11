import StreetConsole.Proofs.Kinds
import StreetConsole.Proofs.Leaves

/-!
# Which settings can be read under the names they are listed with

The settings that come with a console are changed by assignments of texts to any paths (`Reached`).
A listing shows every leaf under a name made of its path. One kind of path is named wrongly
(`Misnamed`): where the first key is empty and others follow, the empty key is lost, and the name is
that of another path.

**Theorem (`items_read_back_iff`).** All settings that are listed can be looked up under the names
that they are listed with, and no name is listed twice, exactly if no assignment was made to a path
that begins with a dot.

A name that is not lost in this way is read as the path that it was made of (`keysOf_nameOf`), so that
names are as distinct as paths. A lost one is read as a path with the same name: either nothing of
the same value is there, or the name is listed twice. That such a leaf exists is a matter of the
paths that were assigned to, because an assignment makes a leaf of its path and leaves all other
leaves alone (`leafAt_set_iff`).
-/

namespace StreetConsole

/-! ## Trees without double keys -/

namespace Value.Keyed

variable {P : String → Prop} {t : Table} {key : String} {v w : Value}

theorem nodup_keys (h : (Value.table t).Keyed P) : (Dict.keys t).Nodup := by
  cases h with
  | leaf hleaf => exact absurd (isSection_table t) hleaf
  | table hnodup _ _ => exact hnodup

theorem of_mem_keys (h : (Value.table t).Keyed P) (hkey : key ∈ Dict.keys t) : P key := by
  cases h with
  | leaf hleaf => exact absurd (isSection_table t) hleaf
  | table _ hkeys _ => exact hkeys key hkey

theorem of_get? (h : (Value.table t).Keyed P) (hget : Dict.get? t key = some w) :
    w.Keyed P := by
  cases h with
  | leaf hleaf => exact absurd (isSection_table t) hleaf
  | table hnodup _ hvalues =>
    exact hvalues (key, w) ((Dict.get?_eq_some_iff_mem hnodup).1 hget)

theorem nil : (Value.table []).Keyed P := .table (by simp) (by simp) (by simp)

theorem put (h : (Value.table t).Keyed P) (hkey : P key) (hw : w.Keyed P) :
    (Value.table (Dict.put t key w)).Keyed P := by
  have hnodup := Dict.nodup_keys_put h.nodup_keys key w
  refine .table hnodup (fun k hk => ?_) fun p hp => ?_
  · rw [Dict.keys_put] at hk
    split at hk
    · exact h.of_mem_keys hk
    · rcases List.mem_append.1 hk with hk | hk
      · exact h.of_mem_keys hk
      · rwa [List.mem_singleton.1 hk]
  · have hget := (Dict.get?_eq_some_iff_mem hnodup).2 hp
    by_cases hsame : p.1 = key
    · rw [hsame, Dict.get?_put_self] at hget
      rwa [← Option.some.inj hget]
    · rw [Dict.get?_put_of_ne hsame] at hget
      exact h.of_get? hget

/-- All keys on the way to a value satisfy `P`. -/
theorem of_find? {keys : List String} (h : v.Keyed P) (hfind : Settings.find? keys v = some w) :
    ∀ key ∈ keys, P key := by
  induction keys generalizing v with
  | nil => simp
  | cons key rest ih =>
    obtain ⟨t, rfl⟩ := Settings.isSection_of_find? hfind (List.cons_ne_nil key rest)
    obtain ⟨u, hget, hbelow⟩ := Option.bind_eq_some_iff.1 hfind
    refine List.forall_mem_cons.2 ⟨h.of_mem_keys (Dict.mem_keys_iff.2 (by simp [hget])), ?_⟩
    exact ih (h.of_get? hget) hbelow

end Value.Keyed

namespace Settings

variable {P : String → Prop} {path key name text : String} {keys rest : List String}
  {v w stored root : Value} {t t' inner : Table} {s s' : Settings}

theorem keyed_assignIn (hv : ¬ v.IsSection) (ht : (Value.table t).Keyed P)
    (hkeys : ∀ k ∈ key :: rest, P k) (h : assignIn path key rest t v = (.ok stored, t')) :
    (Value.table t').Keyed P := by
  induction rest generalizing key t t' with
  | nil =>
    have hassigned := assigned_of_assignIn h
    have hsetting : ∀ w, Dict.get? t key = some w → ¬ w.IsSection := fun w hw =>
      hassigned.setting w ((find?_singleton key t).trans hw)
    have hconverted := hassigned.converted
    rw [find?_singleton] at hconverted
    rw [assignIn_nil hsetting, hconverted] at h
    cases h
    exact ht.put (hkeys key (by simp)) (.leaf (not_isSection_of_convert hconverted hv))
  | cons next rest ih =>
    obtain ⟨hkey, hrest⟩ := List.forall_mem_cons.1 hkeys
    by_cases hsection : ((Dict.get? t key).getD (.table [])).IsSection
    · obtain ⟨inner, hinner⟩ := hsection
      rw [assignIn_cons_of_section hinner] at h
      rcases hbelow : assignIn path next rest inner v with ⟨result, below⟩
      rw [hbelow] at h
      obtain ⟨rfl, rfl⟩ := Prod.mk.inj h
      have hkeyed : (Value.table inner).Keyed P := by
        cases hget : Dict.get? t key with
        | none =>
          rw [hget] at hinner
          cases hinner
          exact .nil
        | some w =>
          rw [hget] at hinner
          cases hinner
          exact ht.of_get? hget
      exact ht.put hkey (ih hkeyed hrest hbelow)
    · obtain ⟨w, hw⟩ := exists_get?_of_not_isSection hsection
      rw [hw, Option.getD_some] at hsection
      rw [assignIn_cons_of_not_section hw hsection] at h
      cases h

theorem keyed_set (hv : ¬ v.IsSection) (hs : s.root.Keyed P) (hkeys : ∀ k ∈ keysOf path, P k)
    (h : s.set path v = (.ok stored, s')) : s'.root.Keyed P := by
  obtain ⟨key, rest, hpath⟩ := exists_keysOf_eq_cons path
  have hassign := assign_of_set h
  by_cases hroot : s.root.IsSection
  · obtain ⟨t, ht⟩ := hroot
    rw [ht, assign_table hpath] at hassign
    rcases hbelow : assignIn path key rest t v with ⟨result, below⟩
    rw [hbelow] at hassign
    obtain ⟨rfl, hroot'⟩ := Prod.mk.inj hassign
    rw [← hroot']
    exact keyed_assignIn hv (ht ▸ hs) (hpath ▸ hkeys) hbelow
  · rw [assign_of_not_section hroot] at hassign
    cases hassign

theorem isSection_of_set (h : s.set path v = (.ok stored, s')) : s'.root.IsSection := by
  obtain ⟨w, hw, hsection⟩ :=
    (assigned_of_set h).above [] List.nil_prefix (Text.splitAt_ne_nil '.' path).symm
  exact Option.some.inj hw ▸ hsection

/-- **What an assignment does to the leaves**: it makes one of its path, and leaves all others
alone. -/
theorem leafAt_set_iff (hv : ¬ v.IsSection) (h : s.set path v = (.ok stored, s')) :
    LeafAt s'.root keys w ↔
      keys = keysOf path ∧ w = stored ∨ keys ≠ keysOf path ∧ LeafAt s.root keys w := by
  have hassigned := assigned_of_set h
  by_cases hkeys : keys = keysOf path
  · subst hkeys
    have hstored := not_isSection_of_convert hassigned.converted hv
    rw [LeafAt, hassigned.find?_self, Option.some.injEq]
    constructor
    · rintro ⟨rfl, -⟩
      exact Or.inl ⟨rfl, rfl⟩
    · rintro (⟨-, rfl⟩ | ⟨hne, -⟩)
      · exact ⟨rfl, hstored⟩
      · exact absurd rfl hne
  · by_cases habove : keys <+: keysOf path
    · -- On the way to the path there are sections only, before and after.
      obtain ⟨w', hw', hsection'⟩ := hassigned.above keys habove hkeys
      constructor
      · rintro ⟨hw, hleaf⟩
        rw [hw'] at hw
        exact absurd (Option.some.inj hw ▸ hsection') hleaf
      · rintro (⟨hsame, -⟩ | ⟨-, hw, hleaf⟩)
        · exact absurd hsame hkeys
        · exact absurd (isSection_of_above h habove hkeys hw) hleaf
    · rw [LeafAt, LeafAt, hassigned.find?_of_not_above hv habove]
      simp [hkeys]

/-! ## Names that are lost -/

/-- The first key of the path is empty and others follow, so that it is lost from the name. -/
def Misnamed (keys : List String) : Prop := ∃ key rest, keys = "" :: key :: rest

theorem misnamed_keysOf_iff : Misnamed (keysOf path) ↔ path.toList.head? = some '.' := by
  have hkeys : keysOf path = (Text.splitWhere (· == '.') path.toList).map String.ofList := rfl
  rw [hkeys]
  cases path.toList with
  | nil => simp [Text.splitWhere, Misnamed]
  | cons c cs =>
    obtain ⟨first, more, hsplit⟩ :=
      List.exists_cons_of_ne_nil (Text.splitWhere_ne_nil (· == '.') cs)
    by_cases hc : c = '.'
    · simp [Text.splitWhere, hc, hsplit, Misnamed]
    · simp [Text.splitWhere, hc, hsplit, Misnamed]

theorem not_misnamed_cons (h : key ≠ "") (rest : List String) : ¬ Misnamed (key :: rest) := by
  rintro ⟨next, more, hkeys⟩
  exact h (List.cons.inj hkeys).1

/-- A name that is not lost is read as the path that it was made of. -/
theorem keysOf_nameOf (hne : keys ≠ []) (hdots : ∀ key ∈ keys, Dotless key)
    (hkeys : ¬ Misnamed keys) : keysOf (nameOf keys) = keys := by
  obtain ⟨key, rest, rfl⟩ := List.exists_cons_of_ne_nil hne
  by_cases hkey : key = ""
  · subst hkey
    cases rest with
    | nil => rfl
    | cons next rest => exact absurd ⟨next, rest, rfl⟩ hkeys
  · rw [nameOf_eq, List.dropWhile_cons_of_neg (by simpa using hkey),
      keysOf_dotted hne hdots]

/-- **A name is read as a path that has the same name and is not misnamed.** -/
theorem nameOf_keysOf_nameOf (hdots : ∀ key ∈ keys, Dotless key) :
    ¬ Misnamed (keysOf (nameOf keys)) ∧ nameOf (keysOf (nameOf keys)) = nameOf keys := by
  rw [nameOf_eq keys]
  cases hrest : keys.dropWhile (· = "") with
  | nil =>
    -- All keys are empty, and the name is read as one empty key.
    have hempty : keysOf (dotted []) = [""] := rfl
    rw [hempty]
    refine ⟨?_, rfl⟩
    rintro ⟨key, rest, ⟨⟩⟩
  | cons key rest =>
    have hkey : key ≠ "" := by
      simpa [hrest] using List.head?_dropWhile_not (· = "") keys
    have hall : ∀ k ∈ key :: rest, Dotless k := fun k hk =>
      hdots k ((List.dropWhile_sublist _).mem (hrest ▸ hk))
    rw [keysOf_dotted (List.cons_ne_nil key rest) hall]
    refine ⟨not_misnamed_cons hkey rest, ?_⟩
    rw [nameOf_eq, List.dropWhile_cons_of_neg (by simpa using hkey)]

/-! ## Reading a listing -/

/-- All settings that are listed can be looked up under the names they are listed with, and no name
is listed twice. -/
def ReadsBack (s : Settings) : Prop :=
  (∀ p ∈ s.items, s.get p.1 .null = p.2) ∧ (s.items.map (·.1)).Nodup

theorem items_eq (s : Settings) :
    s.items = (leaves s.root).map fun leaf => (nameOf leaf.1, leaf.2) := by
  rw [items, listing, listingOf_eq]
  rfl

theorem mem_items_iff (hs : s.root.Keyed P) :
    (name, v) ∈ s.items ↔ ∃ keys, LeafAt s.root keys v ∧ nameOf keys = name := by
  rw [items_eq, List.mem_map]
  constructor
  · rintro ⟨⟨keys, w⟩, hleaf, hsame⟩
    obtain ⟨rfl, rfl⟩ := Prod.mk.inj hsame
    exact ⟨keys, (mem_leaves_iff hs).1 hleaf, rfl⟩
  · rintro ⟨keys, hleaf, rfl⟩
    exact ⟨(keys, v), (mem_leaves_iff hs).2 hleaf, rfl⟩

/-- A look-up gives what is at the end of the path. It gives a null for nothing, too. -/
theorem get_null_eq (s : Settings) (path : String) :
    s.get path .null = (find? (keysOf path) s.root).getD .null := by
  rw [get, lookup_eq]
  split
  · next hnull =>
    cases hvalue : (find? (keysOf path) s.root).getD .null with
    | null => rfl
    | _ =>
      rw [hvalue] at hnull
      cases hnull
  · rfl

section Tree

variable (hs : s.root.Keyed Dotless) (hroot : s.root.IsSection)

include hs hroot

theorem keysOf_nameOf_of_leafAt (hleaf : LeafAt s.root keys v) (hkeys : ¬ Misnamed keys) :
    keysOf (nameOf keys) = keys := by
  refine keysOf_nameOf ?_ (hs.of_find? hleaf.1) hkeys
  rintro rfl
  obtain ⟨hfind, hv⟩ := hleaf
  exact hv (Option.some.inj hfind ▸ hroot)

/-- Where no leaf is misnamed, the listing can be read. -/
theorem readsBack_of_not_misnamed
    (h : ∀ keys v, LeafAt s.root keys v → ¬ Misnamed keys) : s.ReadsBack := by
  constructor
  · rintro ⟨name, v⟩ hp
    obtain ⟨keys, hleaf, rfl⟩ := (mem_items_iff hs).1 hp
    dsimp only
    rw [get_null_eq, keysOf_nameOf_of_leafAt hs hroot hleaf (h keys v hleaf), hleaf.1,
      Option.getD_some]
  · have hnames : s.items.map (·.1) = ((leaves s.root).map (·.1)).map nameOf := by
      rw [items_eq, List.map_map, List.map_map]
      rfl
    rw [hnames]
    refine (nodup_paths_leaves hs).map_on ?_
    -- A path can be had again from its name.
    have hread : ∀ keys ∈ (leaves s.root).map (·.1), keysOf (nameOf keys) = keys := by
      intro keys hkeys
      obtain ⟨⟨_, v⟩, hmem, rfl⟩ := List.mem_map.1 hkeys
      have hleaf := (mem_leaves_iff hs).1 hmem
      exact keysOf_nameOf_of_leafAt hs hroot hleaf (h _ v hleaf)
    intro keys hkeys keys' hkeys' hsame
    rw [← hread keys hkeys, ← hread keys' hkeys', hsame]

omit hroot in
/-- A leaf that is misnamed keeps the listing from being read: if the name leads to the value after
all, there are two leaves of this name. -/
theorem not_readsBack_of_misnamed (hleaf : LeafAt s.root keys v) (hv : v.isNull = false)
    (hkeys : Misnamed keys) : ¬ s.ReadsBack := by
  rintro ⟨hread, hnodup⟩
  obtain ⟨hother, hname⟩ := nameOf_keysOf_nameOf (hs.of_find? hleaf.1)
  have hget : s.get (nameOf keys) .null = v :=
    hread (nameOf keys, v) ((mem_items_iff hs).2 ⟨keys, hleaf, rfl⟩)
  rw [get_null_eq] at hget
  have hleaf' : LeafAt s.root (keysOf (nameOf keys)) v := by
    refine ⟨?_, hleaf.2⟩
    cases hfind : find? (keysOf (nameOf keys)) s.root with
    | none =>
      rw [hfind, Option.getD_none] at hget
      rw [← hget] at hv
      cases hv
    | some w => exact congrArg some (by rwa [hfind] at hget)
  rw [items_eq, List.map_map] at hnodup
  have hsame := List.inj_on_of_nodup_map hnodup ((mem_leaves_iff hs).2 hleaf)
    ((mem_leaves_iff hs).2 hleaf') hname.symm
  exact hother ((Prod.mk.inj hsame).1 ▸ hkeys)

end Tree

/-! ## Settings that can be reached -/

/-- The settings are reached from those that come with the console, by assignments of texts to the
given paths, one after the other. -/
inductive Reached : List String → Settings → Prop
  | packaged : Reached [] ⟨packaged, .packaged⟩
  | set {paths : List String} {s s' : Settings} {path text : String} {stored : Value} :
      Reached paths s → s.set path (.text text) = (.ok stored, s') → Reached (paths ++ [path]) s'

theorem not_isSection_text (text : String) : ¬ (Value.text text).IsSection := by rintro ⟨_, ⟨⟩⟩

/-- A section of leaves only. -/
theorem keyed_of_leaves (hnodup : (Dict.keys t).Nodup) (hkeys : ∀ key ∈ Dict.keys t, P key)
    (hleaves : ∀ p ∈ t, p.2.kind ≠ .table) : (Value.table t).Keyed P :=
  .table hnodup hkeys fun p hp => .leaf fun h => hleaves p hp (Value.kind_of_isSection h)

/-- What holds of these keys holds of all keys of the settings that come with the console. -/
theorem keyed_packaged_of (h : ∀ key ∈ ["debug", "shell", "autocomplete", "state", "prompt",
    "banner", "enabled", "heat", "cash", "level", "energy"], P key) : packaged.Keyed P := by
  simp only [List.forall_mem_cons] at h
  refine .table (by decide) (by simp [h]) fun p hp => ?_
  simp only [List.mem_cons, List.not_mem_nil, or_false] at hp
  rcases hp with rfl | rfl | rfl | rfl <;>
    exact keyed_of_leaves (by decide) (by simp [h]) (by simp [Value.kind])

theorem keyed_packaged : packaged.Keyed Dotless := keyed_packaged_of (by decide +kernel)

/-- No leaf of the settings that come with the console is a null, and none is misnamed. -/
theorem leafAt_packaged (h : LeafAt packaged keys w) : w.isNull = false ∧ ¬ Misnamed keys := by
  have hbelow : ∀ {t : Table} {rest : List String}, (rest, w) ∈ leaves (.table t) →
      (∀ p ∈ t, leaves p.2 = [([], p.2)] ∧ p.2.isNull = false) → w.isNull = false := by
    intro t rest hmem ht
    obtain ⟨key, more, u, -, hu, hleaf⟩ := mem_leaves_table.1 hmem
    obtain ⟨hleaves, hnull⟩ := ht (key, u) hu
    rw [hleaves, List.mem_singleton] at hleaf
    rwa [(Prod.mk.inj hleaf).2]
  obtain ⟨key, rest, u, rfl, hu, hleaf⟩ := mem_leaves_table.1 ((mem_leaves_iff keyed_packaged).2 h)
  simp only [List.mem_cons, List.not_mem_nil, or_false, Prod.mk.injEq] at hu
  rcases hu with ⟨rfl, rfl⟩ | ⟨rfl, rfl⟩ | ⟨rfl, rfl⟩ | ⟨rfl, rfl⟩ <;>
    exact ⟨hbelow hleaf (by simp [leaves, Value.isNull]), not_misnamed_cons (by decide) rest⟩

namespace Reached

variable {paths : List String}

theorem keyed (h : Reached paths s) : s.root.Keyed Dotless := by
  induction h with
  | packaged => exact keyed_packaged
  | set _ hset ih =>
    exact keyed_set (not_isSection_text _) ih (fun _ => dotless_of_mem_keysOf) hset

theorem isSection (h : Reached paths s) : s.root.IsSection := by
  induction h with
  | packaged => exact Value.isSection_table _
  | set _ hset _ => exact isSection_of_set hset

theorem isNull_of_leafAt (h : Reached paths s) (hleaf : LeafAt s.root keys w) :
    w.isNull = false := by
  induction h generalizing keys w with
  | packaged => exact (leafAt_packaged hleaf).1
  | set _ hset ih =>
    rcases (leafAt_set_iff (not_isSection_text _) hset).1 hleaf with ⟨-, rfl⟩ | ⟨-, hbefore⟩
    · exact isNull_of_convert_text (assigned_of_set hset).converted
    · exact ih hbefore

/-- The paths that were assigned to are leaves for good. -/
theorem exists_leafAt (h : Reached paths s) (hpath : path ∈ paths) :
    ∃ v, LeafAt s.root (keysOf path) v := by
  induction h with
  | packaged => cases hpath
  | @set paths s s' last text stored _ hset ih =>
    have hiff : ∀ v, LeafAt s'.root (keysOf path) v ↔ _ := fun v =>
      leafAt_set_iff (not_isSection_text text) hset
    by_cases hsame : keysOf path = keysOf last
    · exact ⟨stored, (hiff stored).2 (Or.inl ⟨hsame, rfl⟩)⟩
    · have hbefore : path ∈ paths := by
        rcases List.mem_append.1 hpath with hbefore | hlast
        · exact hbefore
        · exact absurd (congrArg keysOf (List.mem_singleton.1 hlast)) hsame
      obtain ⟨v, hv⟩ := ih hbefore
      exact ⟨v, (hiff v).2 (Or.inr ⟨hsame, hv⟩)⟩

/-- A misnamed leaf comes from an assignment to its path. -/
theorem exists_path_of_misnamed (h : Reached paths s) (hleaf : LeafAt s.root keys w)
    (hkeys : Misnamed keys) : ∃ path ∈ paths, keysOf path = keys := by
  induction h generalizing w with
  | packaged => exact absurd hkeys (leafAt_packaged hleaf).2
  | @set paths s s' last text stored _ hset ih =>
    rcases (leafAt_set_iff (not_isSection_text _) hset).1 hleaf with ⟨rfl, -⟩ | ⟨-, hbefore⟩
    · exact ⟨last, by simp, rfl⟩
    · obtain ⟨path, hpath, hsame⟩ := ih hbefore
      exact ⟨path, List.mem_append_left _ hpath, hsame⟩

/-- **Settings can be read from their listing exactly if no assigned path begins with a dot.** -/
theorem readsBack_iff (h : Reached paths s) :
    s.ReadsBack ↔ ∀ path ∈ paths, path.toList.head? ≠ some '.' := by
  constructor
  · intro hread path hpath hdot
    obtain ⟨v, hleaf⟩ := h.exists_leafAt hpath
    exact not_readsBack_of_misnamed h.keyed hleaf (h.isNull_of_leafAt hleaf)
      (misnamed_keysOf_iff.2 hdot) hread
  · intro hpaths
    refine readsBack_of_not_misnamed h.keyed h.isSection fun keys v hleaf hkeys => ?_
    obtain ⟨path, hpath, rfl⟩ := h.exists_path_of_misnamed hleaf hkeys
    exact hpaths path hpath (misnamed_keysOf_iff.1 hkeys)

end Reached

/-- **A listing can be read exactly if no assigned path begins with a dot.** The settings are any that
can be reached from those that come with the console, by assignments of texts to any paths. Every
pair that is listed gives a name and what is looked up under it, and no two names are the same, if
and only if none of these paths begins with a dot. Then `config get` shows each setting as it is
listed. -/
theorem items_read_back_iff {paths : List String} (h : Reached paths s) :
    ((∀ p ∈ s.items, s.get p.1 .null = p.2) ∧ (s.items.map (·.1)).Nodup ↔
      ∀ path ∈ paths, path.toList.head? ≠ some '.') ∧
    ((∀ path ∈ paths, path.toList.head? ≠ some '.') → ∀ p ∈ s.items, ∀ context,
      Command.config ["get", p.1] ⟨context, s⟩ =
        ((Command.settingLine p).map fun line => .outcome (.ok line), ⟨context, s⟩)) := by
  refine ⟨h.readsBack_iff, fun hpaths p hp context => ?_⟩
  have hget := (h.readsBack_iff.2 hpaths).1 p hp
  obtain ⟨keys, hleaf, -⟩ := (mem_items_iff h.keyed).1 hp
  rw [Command.config_get, Command.showSetting_of_get]
  · simp only [hget]
  · simp only [hget, h.isNull_of_leafAt hleaf]

/-- Empty keys do no harm behind the first one, nor does one that stands alone. -/
theorem items_read_back_iff_empty_keys :
    let start : Settings := ⟨packaged, .packaged⟩
    let s := (((start.set "" (.text "top")).2.set "a..b" (.text "deep")).2.set "x." (.text "end")).2
    Reached ["", "a..b", "x."] s ∧ (∀ p ∈ s.items, s.get p.1 .null = p.2) ∧
    (s.items.map (·.1)).Nodup ∧ ("a..b", .text "deep") ∈ s.items := by
  intro start s
  have hreached : Reached ["", "a..b", "x."] s := .set (.set (.set .packaged rfl) rfl) rfl
  have hpaths : ∀ path ∈ ["", "a..b", "x."], path.toList.head? ≠ some '.' := by decide
  obtain ⟨hread, hnodup⟩ := (items_read_back_iff hreached).1.2 hpaths
  refine ⟨hreached, hread, hnodup, (mem_items_iff hreached.keyed).2 ⟨["a", "", "b"], ?_, by decide⟩⟩
  exact ⟨rfl, not_isSection_text "deep"⟩

/-- A setting below the empty key is listed under a name at which there is nothing, or under that of
another setting. -/
theorem items_leading_dot :
    let start : Settings := ⟨packaged, .packaged⟩
    let s := (start.set ".zone" (.text "docks")).2
    let s' := (start.set ".state.heat" (.text "high")).2
    (Reached [".zone"] s ∧ ("zone", .text "docks") ∈ s.items ∧ s.get "zone" .null = .null) ∧
    Reached [".state.heat"] s' ∧ ("state.heat", .text "high") ∈ s'.items ∧
      ("state.heat", .int 0) ∈ s'.items := by
  intro start s s'
  have hreached : Reached [".zone"] s := .set .packaged rfl
  have hreached' : Reached [".state.heat"] s' := .set .packaged rfl
  refine ⟨⟨hreached, ?_, rfl⟩, hreached', ?_, ?_⟩
  · exact (mem_items_iff hreached.keyed).2
      ⟨["", "zone"], ⟨rfl, not_isSection_text "docks"⟩, by decide⟩
  · exact (mem_items_iff hreached'.keyed).2
      ⟨["", "state", "heat"], ⟨rfl, not_isSection_text "high"⟩, by decide⟩
  · refine (mem_items_iff hreached'.keyed).2 ⟨["state", "heat"], ⟨rfl, ?_⟩, by decide⟩
    rintro ⟨_, ⟨⟩⟩

end Settings

end StreetConsole
