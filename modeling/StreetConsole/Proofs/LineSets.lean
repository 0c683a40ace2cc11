import Mathlib.Data.List.Lex
import Mathlib.Data.List.Sort
import StreetConsole.Proofs.Escape
import StreetConsole.Proofs.Lines
import StreetConsole.Proofs.Registration

/-!
# Sorting, dropping repetitions, and searching

`sort`, `sort -r`, `uniq` and `reverse` leave the set of lines alone and arrange it; `grep` keeps
the lines that pass a test, and the arrangement of these does not depend on those that do not pass.
So a search may be made before the lines are arranged or afterwards (`Arrangement.filter_arrange`).

**Theorem (`line_set_algebra`).** `sort` puts the lines into the ascending order of their code
points, `sort -r` into the descending one; `uniq` keeps the first occurrence of each line; `sort`
and `uniq` together give the strictly ascending list of the lines. `grep` changes places with each
of these, with `reverse` and with another `grep`, and a second time it changes nothing.

A search may leave no lines, and then the next filter gets an empty one. That does no harm: an
arrangement leaves it as it is, and a second search keeps it or leaves no lines again. A search may
also be given up on one of the lines, but it is given up then wherever the line stands.
-/

namespace StreetConsole

open Text

/-! ## The order of code points -/

namespace Text

/-- The code points of a text. -/
def codes (s : String) : List Nat := s.toList.map Char.toNat

theorem map_toNat_lt_iff (cs ds : List Char) :
    cs.map Char.toNat < ds.map Char.toNat ↔ cs < ds := by
  induction cs generalizing ds with
  | nil => cases ds <;> simp
  | cons c cs ih =>
    cases ds with
    | nil => simp
    | cons d ds =>
      have hlt : c.toNat < d.toNat ↔ c < d := Iff.rfl
      simp only [List.map_cons, List.cons_lt_cons_iff, ih, hlt, Char.toNat_inj]

/-- Texts are ordered by their code points. -/
theorem lt_iff_codes {a b : String} : a < b ↔ codes a < codes b :=
  (map_toNat_lt_iff a.toList b.toList).symm

theorem le_iff_codes {a b : String} : a ≤ b ↔ codes a ≤ codes b := by
  rw [← String.not_lt, ← not_lt, lt_iff_codes]

end Text

namespace Filter

variable {ls ls' : List String} {l : String}

/-- No line has a greater one in front of it. -/
def Ascending (ls : List String) : Prop := ls.Pairwise fun a b => codes a ≤ codes b

/-- Every line is greater than those in front of it. -/
def StrictlyAscending (ls : List String) : Prop := ls.Pairwise fun a b => codes a < codes b

theorem ascending_iff : Ascending ls ↔ ls.Pairwise (· ≤ ·) := by
  simp only [Ascending, ← le_iff_codes]

theorem strictlyAscending_iff : StrictlyAscending ls ↔ Ascending ls ∧ ls.Nodup := by
  rw [StrictlyAscending, Ascending, List.Nodup, ← List.pairwise_and_iff]
  refine List.Pairwise.iff fun {a b} => ?_
  rw [← le_iff_codes, ← lt_iff_codes]
  constructor
  · intro hlt
    refine ⟨String.not_lt.1 fun hgt => ?_, ?_⟩
    · exact String.lt_irrefl a (String.lt_trans hlt hgt)
    · rintro rfl
      exact String.lt_irrefl a hlt
  · rintro ⟨hle, hne⟩
    exact String.not_le.1 fun hge => hne (String.le_antisymm hle hge)

/-- Ascending lists are equal if they hold the same lines equally often. -/
theorem Ascending.eq_of_perm (h : Ascending ls) (h' : Ascending ls') (hperm : ls.Perm ls') :
    ls = ls' :=
  hperm.eq_of_pairwise (fun _ _ _ _ => String.le_antisymm) (ascending_iff.1 h) (ascending_iff.1 h')

/-- Strictly ascending lists are equal if they hold the same lines. -/
theorem StrictlyAscending.eq_of_mem_iff (h : StrictlyAscending ls) (h' : StrictlyAscending ls')
    (hmem : ∀ l, l ∈ ls ↔ l ∈ ls') : ls = ls' := by
  rw [strictlyAscending_iff] at h h'
  exact h.1.eq_of_perm h'.1 ((List.perm_ext_iff_of_nodup h.2 h'.2).2 hmem)

/-! ## Sorted lines -/

theorem sortLines_perm (ls : List String) : (sortLines ls).Perm ls := List.mergeSort_perm ls _

theorem ascending_sortLines (ls : List String) : Ascending (sortLines ls) := by
  have htrans (a b c : String) (hab : decide (a ≤ b) = true) (hbc : decide (b ≤ c) = true) :
      decide (a ≤ c) = true := by
    simpa using String.le_trans (by simpa using hab) (by simpa using hbc)
  have htotal (a b : String) : (decide (a ≤ b) || decide (b ≤ a)) = true := by
    simpa using String.le_total a b
  rw [ascending_iff]
  simpa [sortLines] using List.pairwise_mergeSort htrans htotal ls

theorem mem_sortLines : l ∈ sortLines ls ↔ l ∈ ls := (sortLines_perm ls).mem_iff

theorem filter_sortLines (test : String → Bool) (ls : List String) :
    (sortLines ls).filter test = sortLines (ls.filter test) := by
  have hfiltered : Ascending ((sortLines ls).filter test) := (ascending_sortLines ls).filter test
  refine hfiltered.eq_of_perm (ascending_sortLines _) ?_
  exact ((sortLines_perm ls).filter test).trans (sortLines_perm _).symm

/-! ## Lines without repetitions -/

open FilterRegistry (eraseDups_concat)

/-- The lines that are not among those in front of them. -/
def firstOccurrences (ls : List String) : List String :=
  (ls.zipIdx.filter fun p => p.1 ∉ ls.take p.2).map Prod.fst

theorem firstOccurrences_concat (ls : List String) (l : String) :
    firstOccurrences (ls ++ [l]) =
      if l ∈ ls then firstOccurrences ls else firstOccurrences ls ++ [l] := by
  have hfront : ls.zipIdx.filter (fun p => decide (p.1 ∉ (ls ++ [l]).take p.2)) =
      ls.zipIdx.filter fun p => decide (p.1 ∉ ls.take p.2) := by
    refine List.filter_congr fun p hp => ?_
    have hlt : p.2 < ls.length := by simpa using List.snd_lt_add_of_mem_zipIdx hp
    rw [List.take_append_of_le_length hlt.le]
  have hback : (ls ++ [l]).take ls.length = ls := List.take_left
  simp only [firstOccurrences, List.zipIdx_append, List.filter_append, List.map_append, hfront]
  by_cases h : l ∈ ls <;> simp [h]

theorem eraseDups_eq_firstOccurrences (ls : List String) : ls.eraseDups = firstOccurrences ls := by
  induction ls using List.reverseRecOn with
  | nil => rfl
  | append_singleton ls l ih => rw [eraseDups_concat, firstOccurrences_concat, ih]

theorem nodup_eraseDups (ls : List String) : ls.eraseDups.Nodup := by
  induction ls using List.reverseRecOn with
  | nil => exact List.nodup_nil
  | append_singleton ls l ih =>
    rw [eraseDups_concat]
    split
    · exact ih
    · next h =>
      have hnew : l ∉ ls.eraseDups := mt List.mem_eraseDups.1 h
      rw [List.nodup_append_comm]
      exact List.nodup_cons.2 ⟨hnew, ih⟩

theorem eraseDups_sublist (ls : List String) : ls.eraseDups.Sublist ls := by
  induction ls using List.reverseRecOn with
  | nil => exact List.Sublist.refl _
  | append_singleton ls l ih =>
    rw [eraseDups_concat]
    split
    · exact ih.trans (List.sublist_append_left ls [l])
    · exact ih.append (List.Sublist.refl [l])

theorem filter_eraseDups (test : String → Bool) (ls : List String) :
    ls.eraseDups.filter test = (ls.filter test).eraseDups := by
  induction ls using List.reverseRecOn with
  | nil => rfl
  | append_singleton ls l ih =>
    by_cases htest : test l = true
    · have hfilter : (ls ++ [l]).filter test = ls.filter test ++ [l] := by simp [htest]
      rw [hfilter, eraseDups_concat, eraseDups_concat, ← ih]
      by_cases h : l ∈ ls <;> simp [h, htest]
    · have hfilter : (ls ++ [l]).filter test = ls.filter test := by simp [htest]
      rw [hfilter, eraseDups_concat, ← ih]
      by_cases h : l ∈ ls <;> simp [h, htest]

theorem strictlyAscending_sortLines_eraseDups (ls : List String) :
    StrictlyAscending (sortLines ls.eraseDups) :=
  strictlyAscending_iff.2 ⟨ascending_sortLines _,
    (sortLines_perm _).nodup_iff.2 (nodup_eraseDups ls)⟩

theorem strictlyAscending_eraseDups_sortLines (ls : List String) :
    StrictlyAscending (sortLines ls).eraseDups :=
  strictlyAscending_iff.2 ⟨(ascending_sortLines ls).sublist (eraseDups_sublist _),
    nodup_eraseDups _⟩

theorem eraseDups_sortLines (ls : List String) :
    (sortLines ls).eraseDups = sortLines ls.eraseDups := by
  refine (strictlyAscending_eraseDups_sortLines ls).eq_of_mem_iff
    (strictlyAscending_sortLines_eraseDups ls) fun l => ?_
  rw [List.mem_eraseDups, mem_sortLines, mem_sortLines, List.mem_eraseDups]

end Filter

open StreetConsole.Filter

/-! ## Arrangements -/

/-- A way to put lines in order, which keeps all of them, though perhaps not each time they occur.
Whether a line stands in front of another one does not depend on the other lines. -/
structure Arrangement where
  arrange : List String → List String
  mem_arrange : ∀ {ls : List String} {l : String}, l ∈ arrange ls ↔ l ∈ ls
  filter_arrange : ∀ (test : String → Bool) (ls : List String),
    (arrange ls).filter test = arrange (ls.filter test)
  arrange_blank : arrange [""] = [""]

namespace Arrangement

/-- Lines in ascending order. -/
def sorted : Arrangement where
  arrange := sortLines
  mem_arrange := mem_sortLines
  filter_arrange := filter_sortLines
  arrange_blank := by simp [sortLines]

/-- Lines in descending order. -/
def sortedDown : Arrangement where
  arrange ls := (sortLines ls).reverse
  mem_arrange := List.mem_reverse.trans mem_sortLines
  filter_arrange test ls := by rw [List.filter_reverse, filter_sortLines]
  arrange_blank := by simp [sortLines]

/-- Lines without repetitions. -/
def distinct : Arrangement where
  arrange := List.eraseDups
  mem_arrange := List.mem_eraseDups
  filter_arrange := filter_eraseDups
  arrange_blank := rfl

/-- Lines from the last to the first. -/
def reversed : Arrangement where
  arrange := List.reverse
  mem_arrange := List.mem_reverse
  filter_arrange _ _ := List.filter_reverse
  arrange_blank := rfl

variable {ls : List String}

theorem arrange_nil (a : Arrangement) : a.arrange [] = [] := by
  rw [List.eq_nil_iff_forall_not_mem]
  exact fun l => mt a.mem_arrange.1 List.not_mem_nil

theorem arrange_ne_nil (a : Arrangement) (h : ls ≠ []) : a.arrange ls ≠ [] := by
  obtain ⟨l, hl⟩ := List.exists_mem_of_ne_nil ls h
  exact List.ne_nil_of_mem (a.mem_arrange.2 hl)

theorem arrange_orBlank (a : Arrangement) (ls : List String) :
    a.arrange (orBlank ls) = orBlank (a.arrange ls) := by
  by_cases h : ls = []
  · rw [h, orBlank_nil, a.arrange_blank, a.arrange_nil, orBlank_nil]
  · rw [orBlank_of_ne_nil h, orBlank_of_ne_nil (a.arrange_ne_nil h)]

/-- The arrangement as an edit. -/
def edit (a : Arrangement) : LineEdit :=
  .always a.arrange fun hls => hls.mono fun _ => a.mem_arrange.1

theorem step_edit (a : Arrangement) (h : ls ≠ []) : a.edit.step ls = .ok (a.arrange ls) :=
  congrArg Except.ok (orBlank_of_ne_nil (a.arrange_ne_nil h))

end Arrangement

/-! ## Searches -/

/-- The search for a pattern is the given test on these lines: it is given up on none of them. -/
def Pattern.Decides (p : Pattern) (found : String → Bool) (ls : List String) : Prop :=
  ∀ l ∈ ls, p.foundIn l = .ok (found l)

theorem Filter.keepLines_of_decides {p : Pattern} {found : String → Bool} {ls : List String}
    (h : p.Decides found ls) : keepLines p.foundIn ls = .ok (ls.filter found) := by
  induction ls with
  | nil => rfl
  | cons l ls ih =>
    obtain ⟨hl, hls⟩ := List.forall_mem_cons.1 h
    rw [keepLines, hl, ih hls]
    cases hfound : found l <;> simp [hfound, bind, Except.bind, pure, Except.pure]

theorem Filter.keepLines_of_faulty {p : Pattern} {ls : List String}
    (h : ∃ l ∈ ls, p.foundIn l = .error .groupReversed) :
    keepLines p.foundIn ls = .error .groupReversed :=
  (failsIf_keepLines p ls .groupReversed).2 ⟨h, rfl⟩

/-- On some lines a search is given up on one of them, or it is a test. -/
theorem Pattern.faulty_or_decides (p : Pattern) (ls : List String) :
    (∃ l ∈ ls, p.foundIn l = .error .groupReversed) ∨ ∃ found, p.Decides found ls := by
  by_cases hfaulty : ∃ l ∈ ls, p.foundIn l = .error .groupReversed
  · exact Or.inl hfaulty
  · refine Or.inr ⟨fun l => (p.foundIn l).toOption.getD false, fun l hl => ?_⟩
    cases hfound : p.foundIn l with
    | ok b => simp [hfound, Except.toOption]
    | error f =>
      obtain ⟨hreversed, -⟩ := (failsIf_foundIn p l f).1 hfound
      exact absurd ⟨l, hl, hreversed⟩ hfaulty

namespace LineEdit

variable {p p' : Pattern} {found found' : String → Bool} {ls : List String}

/-- The search for a pattern as an edit. -/
def search (p : Pattern) : LineEdit where
  run := keepLines p.foundIn
  areLines_of_run := by
    intro ls ls' hls hrun
    obtain hfaulty | ⟨found, hfound⟩ := p.faulty_or_decides ls
    · rw [keepLines_of_faulty hfaulty] at hrun
      cases hrun
    · rw [keepLines_of_decides hfound] at hrun
      cases hrun
      exact hls.mono List.filter_sublist.subset

theorem step_search (h : p.Decides found ls) :
    (search p).step ls = .ok (orBlank (ls.filter found)) :=
  congrArg (Except.map orBlank) (keepLines_of_decides h)

theorem step_search_of_faulty (h : ∃ l ∈ ls, p.foundIn l = .error .groupReversed) :
    (search p).step ls = .error .groupReversed :=
  congrArg (Except.map orBlank) (keepLines_of_faulty h)

/-- **A search and an arrangement may change places.** -/
theorem commuteAt_search_arrangement (p : Pattern) (a : Arrangement) (hne : ls ≠ []) :
    CommuteAt ls (search p) a.edit := by
  unfold CommuteAt
  rw [a.step_edit hne]
  show _ = (search p).step (a.arrange ls)
  obtain hfaulty | ⟨found, hfound⟩ := p.faulty_or_decides ls
  · have hfaulty' : ∃ l ∈ a.arrange ls, p.foundIn l = .error .groupReversed := by
      simpa only [a.mem_arrange] using hfaulty
    rw [step_search_of_faulty hfaulty, step_search_of_faulty hfaulty']
    rfl
  · have hfound' : p.Decides found (a.arrange ls) := fun l hl => hfound l (a.mem_arrange.1 hl)
    rw [step_search hfound, step_search hfound', a.filter_arrange, ← a.arrange_orBlank]
    exact a.step_edit (orBlank_ne_nil _)

theorem orBlank_filter_orBlank (test : String → Bool) (ls : List String) :
    orBlank ((orBlank ls).filter test) = orBlank (ls.filter test) := by
  by_cases h : ls = []
  · rw [h]
    cases htest : test "" <;> simp [orBlank, htest]
  · rw [orBlank_of_ne_nil h]

/-- Two searches, the second of which may get an empty line that the text does not have. -/
theorem step_search_search (h : p.Decides found ls) (h' : p'.Decides found' ("" :: ls)) :
    ((search p).step ls >>= (search p').step) =
      .ok (orBlank ((ls.filter found).filter found')) := by
  have hkept : p'.Decides found' (orBlank (ls.filter found)) := by
    intro l hl
    refine h' l ?_
    unfold orBlank at hl
    split at hl
    · exact List.mem_cons.2 (Or.inl (List.mem_singleton.1 hl))
    · exact List.mem_cons_of_mem _ (List.mem_of_mem_filter hl)
  rw [step_search h]
  show (search p').step (orBlank (ls.filter found)) = _
  rw [step_search hkept, orBlank_filter_orBlank]

end LineEdit

/-! ## Pipelines -/

namespace FilterRegistry

variable {text pipe pipe' : String} {args : List String} {a a' : Arrangement}

/-- The invocation searches for the pattern. -/
def Greps (pipe : String) (p : Pattern) : Prop :=
  ∃ pattern args, words pipe = "grep" :: pattern :: args ∧ Pattern.read pattern = .ok p

theorem Greps.performs {p : Pattern} (h : Greps pipe p) : Performs pipe (.search p) := by
  intro text
  obtain ⟨pattern, args, hpipe, hread⟩ := h
  rw [applyPipe_of_words hpipe rfl]
  show grep .reached text (pattern :: args) = (keepLines p.foundIn (lines text)).map linesOutcome
  unfold grep
  dsimp only
  rw [hread]
  show (keepLines p.foundIn (lines text) >>= fun ls => pure (linesOutcome ls)) = _
  cases keepLines p.foundIn (lines text) <;> rfl

theorem performs_sort (h : words pipe = "sort" :: args) :
    Performs pipe (if "-r" ∈ args then Arrangement.sortedDown else .sorted).edit := by
  intro text
  rw [applyPipe_of_words h rfl]
  show sort text args = _
  by_cases hdown : "-r" ∈ args <;> simp [sort, hdown] <;> rfl

theorem performs_uniq (h : words pipe = "uniq" :: args) :
    Performs pipe Arrangement.distinct.edit := by
  intro text
  rw [applyPipe_of_words h rfl]
  rfl

theorem performs_reverse (h : words pipe = "reverse" :: args) :
    Performs pipe Arrangement.reversed.edit := by
  intro text
  rw [applyPipe_of_words h rfl]
  rfl

theorem applyPipes_arrangement (h : Performs pipe a.edit) (text : String) :
    builtin.applyPipes text [pipe] = .ok (.ok (unlines (a.arrange (lines text)))) :=
  applyPipes_singleton h text

theorem applyPipes_arrangements (h : Performs pipe a.edit) (h' : Performs pipe' a'.edit)
    (text : String) : builtin.applyPipes text [pipe, pipe'] =
      .ok (.ok (unlines (a'.arrange (a.arrange (lines text))))) := by
  have hne := a.arrange_ne_nil (lines_ne_nil text)
  rw [applyPipes_pair h h', a.step_edit (lines_ne_nil text)]
  exact congrArg (Except.map linesOutcome) (a'.step_edit hne)

theorem applyPipes_search {p : Pattern} {found : String → Bool} (h : Greps pipe p)
    (hfound : p.Decides found (lines text)) :
    builtin.applyPipes text [pipe] = .ok (.ok (unlines ((lines text).filter found))) := by
  rw [applyPipes_singleton h.performs]
  exact congrArg (Except.map linesOutcome) (keepLines_of_decides hfound)

/-- Two searches keep the lines that pass both tests. -/
theorem applyPipes_searches {p p' : Pattern} {found found' : String → Bool} (h : Greps pipe p)
    (h' : Greps pipe' p') (hfound : p.Decides found (lines text))
    (hfound' : p'.Decides found' ("" :: lines text)) :
    builtin.applyPipes text [pipe, pipe'] =
      .ok (.ok (unlines ((lines text).filter fun l => found l && found' l))) := by
  have hboth : ((lines text).filter found).filter found' =
      (lines text).filter fun l => found l && found' l := by
    rw [List.filter_filter]
    simp only [Bool.and_comm]
  rw [applyPipes_pair h.performs h'.performs, LineEdit.step_search_search hfound hfound', hboth]
  exact congrArg (fun text => Except.ok (Outcome.ok text)) (unlines_orBlank _)

theorem performs_sorted : Performs "sort" Arrangement.sorted.edit := @performs_sort _ [] rfl

theorem performs_sortedDown : Performs "sort -r" Arrangement.sortedDown.edit :=
  @performs_sort _ ["-r"] rfl

theorem performs_distinct : Performs "uniq" Arrangement.distinct.edit :=
  @performs_uniq _ [] rfl

theorem performs_reversed : Performs "reverse" Arrangement.reversed.edit :=
  @performs_reverse _ [] rfl

/-- `sort` gives the one ascending list with the lines of the text. -/
theorem applyPipes_sort (text : String) :
    ∃ ls, builtin.applyPipes text ["sort"] = .ok (.ok (unlines ls)) ∧ ls.Perm (lines text) ∧
      Ascending ls ∧ ∀ ls', ls'.Perm (lines text) → Ascending ls' → ls' = ls := by
  refine ⟨_, applyPipes_arrangement performs_sorted text, sortLines_perm _, ascending_sortLines _,
    fun ls' hperm hls' => ?_⟩
  exact hls'.eq_of_perm (ascending_sortLines _) (hperm.trans (sortLines_perm _).symm)

/-- `sort` and `uniq` in any order give the one strictly ascending list of the lines of the text. -/
theorem applyPipes_sort_uniq (text : String) :
    ∃ ls, builtin.applyPipes text ["sort", "uniq"] = .ok (.ok (unlines ls)) ∧
      builtin.applyPipes text ["uniq", "sort"] = .ok (.ok (unlines ls)) ∧
      (∀ l, l ∈ ls ↔ l ∈ lines text) ∧ StrictlyAscending ls ∧
      ∀ ls', (∀ l, l ∈ ls' ↔ l ∈ lines text) → StrictlyAscending ls' → ls' = ls := by
  have hmem (l : String) : l ∈ (sortLines (lines text)).eraseDups ↔ l ∈ lines text :=
    List.mem_eraseDups.trans mem_sortLines
  refine ⟨_, applyPipes_arrangements performs_sorted performs_distinct text, ?_, hmem,
    strictlyAscending_eraseDups_sortLines _, fun ls' hmem' hls' => ?_⟩
  · rw [applyPipes_arrangements performs_distinct performs_sorted]
    exact congrArg (fun ls => Except.ok (Outcome.ok (unlines ls))) (eraseDups_sortLines _).symm
  · exact hls'.eq_of_mem_iff (strictlyAscending_eraseDups_sortLines _) fun l =>
      (hmem' l).trans (hmem l).symm

/-- A search may change places with each of the arrangements. -/
theorem applyPipes_search_comm {p : Pattern} (h : Greps pipe p) (text : String) {other : String}
    (hother : other ∈ ["sort", "sort -r", "uniq", "reverse"]) :
    builtin.applyPipes text [pipe, other] = builtin.applyPipes text [other, pipe] := by
  have hcomm {a : Arrangement} (ha : Performs other a.edit) :
      builtin.applyPipes text [pipe, other] = builtin.applyPipes text [other, pipe] :=
    applyPipes_comm h.performs ha (LineEdit.commuteAt_search_arrangement p a (lines_ne_nil text))
  simp only [List.mem_cons, List.not_mem_nil, or_false] at hother
  rcases hother with rfl | rfl | rfl | rfl
  · exact hcomm performs_sorted
  · exact hcomm performs_sortedDown
  · exact hcomm performs_distinct
  · exact hcomm performs_reversed

/-- **What the filters that sort, drop repetitions and search have to do with each other.**

A search is a test of lines, `found`, on a text if it is not given up on its lines nor on the empty
line, which it may get if another search has left none. -/
theorem line_set_algebra (text : String) :
    (∃ ls, builtin.applyPipes text ["sort"] = .ok (.ok (unlines ls)) ∧ ls.Perm (lines text) ∧
      Ascending ls ∧ ∀ ls', ls'.Perm (lines text) → Ascending ls' → ls' = ls) ∧
    builtin.applyPipes text ["sort -r"] = builtin.applyPipes text ["sort", "reverse"] ∧
    (∃ ls, builtin.applyPipes text ["sort", "uniq"] = .ok (.ok (unlines ls)) ∧
      builtin.applyPipes text ["uniq", "sort"] = .ok (.ok (unlines ls)) ∧
      (∀ l, l ∈ ls ↔ l ∈ lines text) ∧ StrictlyAscending ls ∧
      ∀ ls', (∀ l, l ∈ ls' ↔ l ∈ lines text) → StrictlyAscending ls' → ls' = ls) ∧
    builtin.applyPipes text ["uniq"] = .ok (.ok (unlines (firstOccurrences (lines text)))) ∧
    ∀ pipe p, Greps pipe p →
      (∀ other ∈ ["sort", "sort -r", "uniq", "reverse"],
        builtin.applyPipes text [pipe, other] = builtin.applyPipes text [other, pipe]) ∧
      ∀ found, p.Decides found ("" :: lines text) →
        builtin.applyPipes text [pipe] = .ok (.ok (unlines ((lines text).filter found))) ∧
        builtin.applyPipes text [pipe, pipe] = builtin.applyPipes text [pipe] ∧
        ∀ pipe' p' found', Greps pipe' p' → p'.Decides found' ("" :: lines text) →
          builtin.applyPipes text [pipe, pipe'] = builtin.applyPipes text [pipe', pipe] := by
  have hlines {p : Pattern} {found : String → Bool} (h : p.Decides found ("" :: lines text)) :
      p.Decides found (lines text) := fun l hl => h l (List.mem_cons_of_mem _ hl)
  refine ⟨applyPipes_sort text, ?_, applyPipes_sort_uniq text, ?_, fun pipe p hp =>
    ⟨fun other hother => applyPipes_search_comm hp text hother, fun found hfound => ⟨?_, ?_,
      fun pipe' p' found' hp' hfound' => ?_⟩⟩⟩
  · rw [applyPipes_arrangement performs_sortedDown,
      applyPipes_arrangements performs_sorted performs_reversed]
    rfl
  · rw [applyPipes_arrangement performs_distinct, ← eraseDups_eq_firstOccurrences]
    rfl
  · exact applyPipes_search hp (hlines hfound)
  · rw [applyPipes_searches hp hp (hlines hfound) hfound, applyPipes_search hp (hlines hfound)]
    simp only [Bool.and_self]
  · rw [applyPipes_searches hp hp' (hlines hfound) hfound',
      applyPipes_searches hp' hp (hlines hfound') hfound]
    simp only [Bool.and_comm]

/-- A search that finds some lines, and one that finds none so that an empty line is left to the
next. -/
theorem line_set_algebra_vowels :
    let text := "b\na\nB\ne"
    let run := builtin.applyPipes text
    ∃ vowels nothing : Pattern, ∃ found found' : String → Bool,
      (Greps "grep [ae]" vowels ∧ vowels.Decides found ("" :: lines text)) ∧
      (Greps "grep z x" nothing ∧ nothing.Decides found' ("" :: lines text)) ∧
      run ["grep [ae]", "sort -r"] = run ["sort -r", "grep [ae]"] ∧
      run ["grep [ae]", "grep z x"] = run ["grep z x", "grep [ae]"] ∧
      run ["grep z x", "grep z x"] = run ["grep z x"] := by
  intro text run
  let vowels : Pattern :=
    ⟨.seq (.oneOf false [.code 'a'.toNat, .code 'e'.toNat]) .empty, [.ignoreCase], [], .reached⟩
  let nothing : Pattern := ⟨.seq (.code 'z'.toNat) .empty, [.ignoreCase], [], .reached⟩
  have hvowels : Greps "grep [ae]" vowels := ⟨"[ae]", [], rfl, rfl⟩
  have hnothing : Greps "grep z x" nothing := ⟨"z", ["x"], rfl, rfl⟩
  have hlines : lines text = ["b", "a", "B", "e"] := by decide +kernel
  have hfound : vowels.Decides (fun l => l ∈ ["a", "e"]) ("" :: lines text) := by
    rw [hlines]
    simp only [Pattern.Decides, List.forall_mem_cons]
    exact ⟨rfl, rfl, rfl, rfl, rfl, nofun⟩
  have hfound' : nothing.Decides (fun _ => false) ("" :: lines text) := by
    rw [hlines]
    simp only [Pattern.Decides, List.forall_mem_cons]
    exact ⟨rfl, rfl, rfl, rfl, rfl, nofun⟩
  obtain ⟨hcomm, hsearch⟩ := (line_set_algebra text).2.2.2.2 _ _ hvowels
  refine ⟨vowels, nothing, _, _, ⟨hvowels, hfound⟩, ⟨hnothing, hfound'⟩, ?_, ?_, ?_⟩
  · exact hcomm "sort -r" (by decide)
  · exact (hsearch _ hfound).2.2 _ _ _ hnothing hfound'
  · exact (((line_set_algebra text).2.2.2.2 _ _ hnothing).2 _ hfound').2.1

end FilterRegistry

end StreetConsole
