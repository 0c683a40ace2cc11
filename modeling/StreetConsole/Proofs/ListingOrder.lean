import StreetConsole.Proofs.LineSets
import StreetConsole.Proofs.Rebuilding

/-!
# The order of a listing

A listing goes through a tree section by section and takes the keys of each section in order. So the
paths to the leaves ascend, compared key by key. What is listed are their names, in which the keys
are put together with dots, and names are not always in the order of the paths. A section `shell` is
listed before a key `shell-theme` beside it, but the name `shell.prompt` is greater than
`shell-theme`, because a dot is greater than a hyphen.

**Theorem (`items_ascend_iff`).** The names of a listing ascend exactly if nowhere in the tree a
section with leaves stands beside another key with leaves that is the section's key and a character
below the dot and whatever follows (`Misplaced`).

Two paths in order, neither of which leads on to the other, part at two keys in order. If these
differ at a character, the names differ there too. Otherwise the second key continues the first,
and where the first path goes on, the names compare a dot with the next character of the second key
(`dotted_lt_of_swapped`, `dotted_lt_of_not_swapped`).
-/

namespace StreetConsole

/-! ## Texts in order -/

namespace Text

theorem lt_append_cons (cs : List Char) (c : Char) (tail : List Char) : cs < cs ++ c :: tail := by
  have h : cs ++ [] < cs ++ c :: tail := List.append_left_lt (List.nil_lt_cons c tail)
  rwa [List.append_nil] at h

/-- Of two texts in order, the second continues the first, or they are in order whatever is put
behind them. -/
theorem continues_or_append_lt {cs ds : List Char} (h : cs < ds) :
    (∃ c tail, ds = cs ++ c :: tail) ∨ ∀ u v, cs ++ u < ds ++ v := by
  induction cs generalizing ds with
  | nil =>
    cases ds with
    | nil => simp at h
    | cons d ds => exact Or.inl ⟨d, ds, rfl⟩
  | cons c cs ih =>
    cases ds with
    | nil => simp at h
    | cons d ds =>
      rcases List.cons_lt_cons_iff.1 h with hlt | ⟨rfl, hlt⟩
      · exact Or.inr fun u v => List.cons_lt_cons_iff.2 (Or.inl hlt)
      · rcases ih hlt with ⟨e, tail, rfl⟩ | happend
        · exact Or.inl ⟨e, tail, rfl⟩
        · exact Or.inr fun u v => List.cons_lt_cons_iff.2 (Or.inr ⟨rfl, happend u v⟩)

end Text

namespace Settings

variable {key longer : String} {keys other rest rest' : List String} {v w root : Value}
  {s : Settings}

/-! ## Names of paths in order -/

/-- The first key is the second one, then a character below the dot, and then anything. -/
def Undercuts (longer key : String) : Prop :=
  ∃ c tail, longer.toList = key.toList ++ c :: tail ∧ c < '.'

/-- The paths part at two keys of which the second undercuts the first, and the first path goes
on. -/
inductive Swapped : List String → List String → Prop
  | here {key longer next : String} {more rest : List String} :
      Undercuts longer key → Swapped (key :: next :: more) (longer :: rest)
  | onward {key : String} {rest rest' : List String} :
      Swapped rest rest' → Swapped (key :: rest) (key :: rest')

theorem dotted_singleton (key : String) : dotted [key] = key := String.intercalate_singleton

theorem toList_dotted_cons (key : String) (hrest : rest ≠ []) :
    (dotted (key :: rest)).toList = key.toList ++ '.' :: (dotted rest).toList := by
  obtain ⟨next, more, rfl⟩ := List.exists_cons_of_ne_nil hrest
  simp [dotted, String.intercalate_cons_cons]

/-- The written path begins with its first key. -/
theorem exists_toList_dotted (key : String) (rest : List String) :
    ∃ behind, (dotted (key :: rest)).toList = key.toList ++ behind := by
  by_cases hrest : rest = []
  · exact ⟨[], by rw [hrest, dotted_singleton, List.append_nil]⟩
  · exact ⟨_, toList_dotted_cons key hrest⟩

/-- A key in front, the same of both paths, changes nothing. -/
theorem dotted_cons_lt (key : String) (hrest : rest ≠ []) (hrest' : rest' ≠ [])
    (h : dotted rest < dotted rest') : dotted (key :: rest) < dotted (key :: rest') := by
  rw [String.lt_iff_toList_lt] at h ⊢
  rw [toList_dotted_cons key hrest, toList_dotted_cons key hrest']
  exact List.append_left_lt (List.cons_lt_cons_iff.2 (Or.inr ⟨rfl, h⟩))

theorem Swapped.ne_nil (h : Swapped keys other) : keys ≠ [] ∧ other ≠ [] := by
  cases h <;> simp

/-- **The names of swapped paths are in the other order.** -/
theorem dotted_lt_of_swapped (h : Swapped keys other) : dotted other < dotted keys := by
  induction h with
  | @here key longer next more rest hunder =>
    obtain ⟨c, tail, hlonger, hc⟩ := hunder
    obtain ⟨behind, hbehind⟩ := exists_toList_dotted longer rest
    rw [String.lt_iff_toList_lt, hbehind, hlonger, toList_dotted_cons key (List.cons_ne_nil _ _),
      List.append_assoc, List.cons_append]
    exact List.append_left_lt (List.cons_lt_cons_iff.2 (Or.inl hc))
  | onward hswapped ih =>
    exact dotted_cons_lt _ hswapped.ne_nil.2 hswapped.ne_nil.1 ih

/-- Where the second key continues the first, the names compare what comes next: a dot or nothing
in the first name, a character other than the dot in the second. -/
theorem dotted_lt_of_continues {c : Char} {tail : List Char} (hdots : Dotless longer)
    (hlonger : longer.toList = key.toList ++ c :: tail)
    (hswapped : ¬ Swapped (key :: rest) (longer :: rest')) :
    dotted (key :: rest) < dotted (longer :: rest') := by
  obtain ⟨behind, hbehind⟩ := exists_toList_dotted longer rest'
  rw [String.lt_iff_toList_lt, hbehind, hlonger, List.append_assoc, List.cons_append]
  cases rest with
  | nil =>
    rw [dotted_singleton]
    exact Text.lt_append_cons _ _ _
  | cons next more =>
    have hne : '.' ≠ c := by
      rintro rfl
      exact hdots (by simp [hlonger])
    have hle : '.' ≤ c := by
      by_contra hlt
      exact hswapped (.here ⟨c, tail, hlonger, not_le.1 hlt⟩)
    rw [toList_dotted_cons key (List.cons_ne_nil _ _)]
    exact List.append_left_lt (List.cons_lt_cons_iff.2 (Or.inl (lt_of_le_of_ne hle hne)))

/-- **The names of other paths are in the order of the paths.** -/
theorem dotted_lt_of_not_swapped (hlt : keys < other) (hapart : Apart keys other)
    (hdots : ∀ key ∈ other, Dotless key) (h : ¬ Swapped keys other) :
    dotted keys < dotted other := by
  induction keys generalizing other with
  | nil => exact absurd List.nil_prefix hapart.1
  | cons key rest ih =>
    cases other with
    | nil => exact absurd List.nil_prefix hapart.2
    | cons key' rest' =>
      rcases List.cons_lt_cons_iff.1 hlt with hkey | ⟨rfl, hrest⟩
      · rcases Text.continues_or_append_lt (String.lt_iff_toList_lt.1 hkey) with
          ⟨c, tail, hlonger⟩ | happend
        · exact dotted_lt_of_continues (hdots key' List.mem_cons_self) hlonger h
        · obtain ⟨behind, hbehind⟩ := exists_toList_dotted key rest
          obtain ⟨behind', hbehind'⟩ := exists_toList_dotted key' rest'
          rw [String.lt_iff_toList_lt, hbehind, hbehind']
          exact happend behind behind'
      · have hapart' : Apart rest rest' :=
          ⟨fun hle => hapart.1 (List.cons_prefix_cons.2 ⟨rfl, hle⟩),
            fun hle => hapart.2 (List.cons_prefix_cons.2 ⟨rfl, hle⟩)⟩
        have hne : rest ≠ [] := by
          rintro rfl
          exact hapart'.1 List.nil_prefix
        have hne' : rest' ≠ [] := by
          rintro rfl
          exact hapart'.2 List.nil_prefix
        refine dotted_cons_lt key hne hne' (ih hrest hapart' ?_ fun hswapped => h (.onward hswapped))
        exact fun k hk => hdots k (List.mem_cons_of_mem key hk)

/-! ## Sections that are out of place -/

/-- There is a leaf at the end of the path or further on. -/
def LeadsToLeaf (root : Value) (keys : List String) : Prop := ∃ more v, LeafAt root (keys ++ more) v

/-- Somewhere in the tree there is a section with a leaf in it, and beside it a key that undercuts
it and has a leaf, too. -/
def Misplaced (root : Value) : Prop :=
  ∃ above key longer, Undercuts longer key ∧ SectionAt root (above ++ [key]) ∧
    LeadsToLeaf root (above ++ [key]) ∧ LeadsToLeaf root (above ++ [longer])

theorem Swapped.exists_eq (h : Swapped keys other) :
    ∃ above key next more longer rest, keys = above ++ key :: next :: more ∧
      other = above ++ longer :: rest ∧ Undercuts longer key := by
  induction h with
  | here hunder => exact ⟨[], _, _, _, _, _, rfl, rfl, hunder⟩
  | @onward key rest rest' _ ih =>
    obtain ⟨above, k, next, more, longer, behind, rfl, rfl, hunder⟩ := ih
    exact ⟨key :: above, k, next, more, longer, behind, rfl, rfl, hunder⟩

theorem swapped_append (above : List String) {next : String} {more : List String}
    (h : Undercuts longer key) :
    Swapped (above ++ key :: next :: more) (above ++ longer :: rest) := by
  induction above with
  | nil => exact .here h
  | cons k above ih => exact .onward ih

/-- A tree has something out of place if the paths to two of its leaves are swapped. -/
theorem misplaced_iff :
    Misplaced root ↔ ∃ keys v other w, LeafAt root keys v ∧ LeafAt root other w ∧
      Swapped keys other := by
  constructor
  · rintro ⟨above, key, longer, hunder, hsection, ⟨more, v, hleaf⟩, rest, w, hleaf'⟩
    rw [List.append_assoc, List.singleton_append] at hleaf'
    cases more with
    | nil =>
      rw [List.append_nil] at hleaf
      exact absurd hsection hleaf.not_sectionAt
    | cons next more =>
      rw [List.append_assoc, List.singleton_append] at hleaf
      exact ⟨_, v, _, w, hleaf, hleaf', swapped_append above hunder⟩
  · rintro ⟨_, v, _, w, hleaf, hleaf', hswapped⟩
    obtain ⟨above, key, next, more, longer, rest, rfl, rfl, hunder⟩ := hswapped.exists_eq
    have hkeys : above ++ key :: next :: more = above ++ [key] ++ next :: more := by simp
    have hother : above ++ longer :: rest = above ++ [longer] ++ rest := by simp
    rw [hkeys] at hleaf
    rw [hother] at hleaf'
    exact ⟨above, key, longer, hunder, hleaf.sectionAt (List.cons_ne_nil _ _),
      ⟨_, v, hleaf⟩, rest, w, hleaf'⟩

/-- The path to a leaf that undercuts another comes after that one, so its leaf is listed later. -/
theorem Swapped.lt (h : Swapped keys other) : keys < other := by
  induction h with
  | @here key longer next more rest hunder =>
    obtain ⟨c, tail, hlonger, -⟩ := hunder
    refine List.cons_lt_cons_iff.2 (Or.inl ?_)
    rw [String.lt_iff_toList_lt, hlonger]
    exact Text.lt_append_cons _ c tail
  | onward _ ih => exact List.cons_lt_cons_iff.2 (Or.inr ⟨rfl, ih⟩)

/-! ## Listings in order -/

/-- The names of the listing ascend, by their code points. -/
def NamesAscend (s : Settings) : Prop :=
  (s.items.map (·.1)).Pairwise fun a b => Text.codes a ≤ Text.codes b

section Proper

variable (hs : s.root.Keyed Proper) (hroot : s.root.IsSection)

include hs hroot

/-- The names are the paths to the leaves as they are written, in the order of the leaves. -/
theorem namesAscend_iff_pairwise :
    s.NamesAscend ↔ (leaves s.root).Pairwise fun a b => dotted a.1 ≤ dotted b.1 := by
  have hnames : s.items.map (·.1) = (leaves s.root).map fun leaf => dotted leaf.1 := by
    rw [items_eq, List.map_map]
    refine List.map_congr_left fun leaf hmem => ?_
    exact nameOf_of_leafAt hs hroot ((mem_leaves_iff hs).1 hmem)
  simp only [NamesAscend, hnames, List.pairwise_map, ← Text.le_iff_codes]

/-- **The names ascend exactly if nothing is out of place.** -/
theorem namesAscend_iff : s.NamesAscend ↔ ¬ Misplaced s.root := by
  rw [namesAscend_iff_pairwise hs hroot, misplaced_iff]
  constructor
  · rintro hnames ⟨keys, v, other, w, hleaf, hleaf', hswapped⟩
    -- The leaves are listed in the order of their paths, and so are these two.
    have hlisted : ∀ a ∈ leaves s.root, ∀ b ∈ leaves s.root, a.1 < b.1 →
        dotted a.1 ≤ dotted b.1 := by
      refine List.Pairwise.forall_of_forall_of_flip ?_ ?_ ?_
      · intro a _ hlt
        exact absurd hlt (lt_irrefl _)
      · exact hnames.imp fun {a b} hle (_ : a.1 < b.1) => hle
      · exact (ascending_leaves hs).imp fun hlt hgt => absurd hgt (lt_asymm hlt)
    have hle := hlisted _ ((mem_leaves_iff hs).2 hleaf) _ ((mem_leaves_iff hs).2 hleaf')
      hswapped.lt
    exact absurd (dotted_lt_of_swapped hswapped) (not_lt.2 hle)
  · intro hplaced
    refine ((ascending_leaves hs).and (apart_leaves hs)).imp_of_mem ?_
    rintro ⟨keys, v⟩ ⟨other, w⟩ hmem hmem' ⟨hlt, hapart⟩
    have hleaf := (mem_leaves_iff hs).1 hmem
    have hleaf' := (mem_leaves_iff hs).1 hmem'
    refine le_of_lt (dotted_lt_of_not_swapped hlt hapart ?_ ?_)
    · exact fun key hkey => (hs.of_find? hleaf'.1 key hkey).2
    · exact fun hswapped => hplaced ⟨keys, v, other, w, hleaf, hleaf', hswapped⟩

/-- Read as paths, the names ascend in any case. -/
theorem paths_ascend : (s.items.map fun p => keysOf p.1).Pairwise (· < ·) := by
  have hpaths : (s.items.map fun p => keysOf p.1) = (leaves s.root).map (·.1) := by
    rw [← map_target_items hs hroot, List.map_map]
    rfl
  rw [hpaths, List.pairwise_map]
  exact ascending_leaves hs

end Proper

/-- Nothing is out of place where no key has a character below the dot. -/
theorem not_misplaced (h : root.Keyed fun key => ∀ c ∈ key.toList, '.' ≤ c) : ¬ Misplaced root := by
  rintro ⟨above, key, longer, ⟨c, tail, hlonger, hc⟩, -, -, more, v, hleaf⟩
  have hchars := h.of_find? hleaf.1 longer (by simp)
  exact absurd hc (not_lt.2 (hchars c (by simp [hlonger])))

/-- **A listing is in the order of its names exactly if nothing is out of place.** No key of the tree
is empty or has a dot in it. The names of the listing ascend if and only if no section with a leaf in
it stands beside a key with a leaf that undercuts it; for this it is enough that no key has a
character below the dot. The paths that are listed always ascend, compared key by key. -/
theorem items_ascend_iff (hs : s.root.Keyed Proper) (hroot : s.root.IsSection) :
    (s.NamesAscend ↔ ¬ Misplaced s.root) ∧
    ((s.root.Keyed fun key => ∀ c ∈ key.toList, '.' ≤ c) → s.NamesAscend) ∧
    (s.items.map fun p => keysOf p.1).Pairwise (· < ·) := by
  have hiff := namesAscend_iff hs hroot
  exact ⟨hiff, fun hchars => hiff.2 (not_misplaced hchars), paths_ascend hs hroot⟩

/-- The keys of the settings that come with the console are all letters. -/
theorem items_ascend_iff_packaged :
    let s : Settings := ⟨packaged, .packaged⟩
    s.root.Keyed Proper ∧ s.root.IsSection ∧ s.NamesAscend := by
  intro s
  have hs : s.root.Keyed Proper := keyed_packaged_of (by decide +kernel)
  have hall : s.root.Keyed fun key => key.toList.all (fun c => decide ('.' ≤ c)) = true :=
    keyed_packaged_of (by decide +kernel)
  have hchars : s.root.Keyed fun key => ∀ c ∈ key.toList, '.' ≤ c :=
    hall.imp fun key hkey c hc => of_decide_eq_true (List.all_eq_true.1 hkey c hc)
  have hroot : s.root.IsSection := Value.isSection_table _
  exact ⟨hs, hroot, (items_ascend_iff hs hroot).2.1 hchars⟩

/-- A setting beside a section, with a hyphen behind the section's key: it is listed after the
settings in the section, and its name is below theirs. -/
theorem items_hyphen_out_of_order :
    let start : Settings := ⟨packaged, .packaged⟩
    let s := (start.set "shell-theme" (.text "dark")).2
    s.root.Keyed Proper ∧ s.root.IsSection ∧ ("shell.prompt", .text "street> ") ∈ s.items ∧
      ("shell-theme", .text "dark") ∈ s.items ∧ ¬ s.NamesAscend := by
  intro start s
  have hset : start.set "shell-theme" (.text "dark") = (.ok (.text "dark"), s) := rfl
  have hstart : start.root.Keyed Proper := keyed_packaged_of (by decide +kernel)
  have hs : s.root.Keyed Proper :=
    keyed_set (not_isSection_text "dark") hstart (by decide +kernel) hset
  have hroot : s.root.IsSection := isSection_of_set hset
  have hprompt : LeafAt s.root ["shell", "prompt"] (.text "street> ") :=
    ⟨rfl, not_isSection_text _⟩
  have htheme : LeafAt s.root ["shell-theme"] (.text "dark") := ⟨rfl, not_isSection_text _⟩
  have hunder : Undercuts "shell-theme" "shell" := ⟨'-', "theme".toList, by decide, by decide⟩
  have hmisplaced : Misplaced s.root :=
    misplaced_iff.2 ⟨_, _, _, _, hprompt, htheme, .here hunder⟩
  refine ⟨hs, hroot, (mem_items_iff hs).2 ⟨_, hprompt, by decide⟩,
    (mem_items_iff hs).2 ⟨_, htheme, by decide⟩, fun hnames => ?_⟩
  exact (namesAscend_iff hs hroot).1 hnames hmisplaced

end Settings

end StreetConsole
