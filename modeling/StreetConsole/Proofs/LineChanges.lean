import StreetConsole.Proofs.Counts
import StreetConsole.Proofs.LetterCase
import StreetConsole.Proofs.LineSets
import StreetConsole.Proofs.Trim

/-!
# Filters that change each line

`trim`, `first`, `last`, `upper` and `lower` make each line into another one, and `number` does so
with regard to its place. `reverse`, `head` and `tail` choose lines by their places and do not look
at them: such an edit is `Blind`.

**Theorem (`linewise_filters`).** The filters of the first kind leave as many lines as there were,
and each of them is made of the line in the same place. They change places with those of the second
kind. Trimming lines, keeping a word of each, and putting them into another order make no difference
to how many of them are not blank.

Lines may be changed before or after a blind edit, as that is what blindness says, but for the empty
line that stands for no lines at all: all changes leave it empty (`LineChange.change_blank`).
-/

namespace StreetConsole

open Text StreetConsole.Filter

/-! ## Words and blanks -/

namespace Text

/-- The first word of a text, if it has words. -/
def firstWord (l : String) : String := (words l).headD ""

/-- The last word of a text, if it has words. -/
def lastWord (l : String) : String := (words l).getLastD ""

/-- The text holds more than blanks. -/
def filled (l : String) : Bool := !(trim l).isEmpty

variable {l w : String}

theorem of_mem_words {c : Char} (hw : w ∈ words l) (hc : c ∈ w.toList) :
    c ∈ l.toList ∧ isBlank c = false := by
  obtain ⟨cs, hcs, rfl⟩ := List.mem_map.1 hw
  rw [String.toList_ofList] at hc
  rw [wordsOf_eq_pieces] at hcs
  have hmem : c ∈ (pieces isBlank l.toList).flatten := List.mem_flatten.2 ⟨cs, hcs, hc⟩
  rw [flatten_pieces] at hmem
  exact ⟨(List.mem_filter.1 hmem).1, of_mem_pieces hcs hc⟩

theorem exists_mem_of_mem_words (hw : w ∈ words l) : ∃ c, c ∈ w.toList := by
  obtain ⟨cs, hcs, rfl⟩ := List.mem_map.1 hw
  rw [String.toList_ofList]
  exact List.exists_mem_of_ne_nil cs (by simpa using (List.mem_filter.1 hcs).2)

theorem isLine_of_mem_words (h : IsLine l) (hw : w ∈ words l) : IsLine w :=
  fun hfeed => h (of_mem_words hw hfeed).1

theorem isLine_trim (h : IsLine l) : IsLine (trim l) := by
  rw [IsLine, toList_trim]
  exact fun hfeed => h (mem_of_mem_trimChars hfeed)

/-- A text holds more than blanks if it has a character that is none. -/
theorem filled_iff : filled l = true ↔ ∃ c ∈ l.toList, isBlank c = false := by
  have hfilled : filled l = true ↔ trimChars l.toList ≠ [] := by
    rw [filled, Bool.not_eq_true', String.isEmpty_eq_false_iff, ← toList_trim]
    simp
  rw [hfilled]
  constructor
  · intro hne
    obtain ⟨c, cs, hcs⟩ := List.exists_cons_of_ne_nil hne
    have hhead : c ∈ (trimChars l.toList).head? := by simp [hcs]
    exact ⟨c, mem_of_mem_trimChars (List.mem_of_mem_head? hhead),
      (trimmed_trimChars l.toList).1 c hhead⟩
  · rintro ⟨c, hc, hblank⟩ hnil
    obtain ⟨before, after, hcs, hbefore, hafter⟩ := exists_eq_blanks_trimChars l.toList
    rw [hnil, List.nil_append] at hcs
    rw [hcs] at hc
    have hall : isBlank c = true := (List.mem_append.1 hc).elim (hbefore c) (hafter c)
    rw [hblank] at hall
    cases hall

theorem filled_iff_words_ne_nil : filled l = true ↔ words l ≠ [] := by
  rw [filled_iff]
  constructor
  · rintro ⟨c, hc, hblank⟩ hnil
    have hpieces : pieces isBlank l.toList = [] := List.map_eq_nil_iff.1 hnil
    have hmem : c ∈ (pieces isBlank l.toList).flatten := by
      rw [flatten_pieces]
      exact List.mem_filter.2 ⟨hc, by simp [hblank]⟩
    rw [hpieces] at hmem
    cases hmem
  · intro hne
    obtain ⟨w, hw⟩ := List.exists_mem_of_ne_nil _ hne
    obtain ⟨c, hc⟩ := exists_mem_of_mem_words hw
    exact ⟨c, of_mem_words hw hc⟩

/-- A word holds more than blanks. -/
theorem filled_of_mem_words (hw : w ∈ words l) : filled w = true := by
  obtain ⟨c, hc⟩ := exists_mem_of_mem_words hw
  exact filled_iff.2 ⟨c, hc, (of_mem_words hw hc).2⟩

theorem filled_trim (l : String) : filled (trim l) = filled l := by
  rw [filled, trim, toList_trim, trimChars_trimChars]
  rfl

/-- The function picks a word of each text that has words, and nothing otherwise. -/
def PicksWord (pick : String → String) : Prop :=
  ∀ l, words l = [] ∧ pick l = "" ∨ pick l ∈ words l

theorem picksWord_firstWord : PicksWord firstWord := by
  intro l
  unfold firstWord
  cases words l with
  | nil => exact Or.inl ⟨rfl, rfl⟩
  | cons w ws => exact Or.inr List.mem_cons_self

theorem picksWord_lastWord : PicksWord lastWord := by
  intro l
  unfold lastWord
  cases words l with
  | nil => exact Or.inl ⟨rfl, rfl⟩
  | cons w ws =>
    rw [List.getLastD_eq_getLast?, List.getLast?_eq_some_getLast (List.cons_ne_nil w ws)]
    exact Or.inr (List.getLast_mem _)

/-- A text is as blank as the word that is picked from it. -/
theorem PicksWord.filled_pick {pick : String → String} (h : PicksWord pick) (l : String) :
    filled (pick l) = filled l := by
  rcases h l with ⟨hnil, hnone⟩ | hword
  · have hblank : filled l = false := by
      rw [Bool.eq_false_iff]
      exact fun hfilled => filled_iff_words_ne_nil.1 hfilled hnil
    rw [hnone, hblank]
    decide
  · rw [filled_of_mem_words hword, filled_iff_words_ne_nil.2 (List.ne_nil_of_mem hword)]

end Text

/-! ## Changes of lines -/

/-- What may be made of a line. The empty line stays as it is. -/
structure LineChange where
  change : String → String
  isLine_change : ∀ {l : String}, IsLine l → IsLine (change l)
  change_blank : change "" = ""

namespace LineChange

variable {ls : List String}

/-- A word of the line, if it has words. -/
def word {pick : String → String} (h : PicksWord pick) : LineChange where
  change := pick
  isLine_change := by
    intro l hl
    rcases h l with ⟨-, hnone⟩ | hword
    · rw [hnone]
      exact List.not_mem_nil
    · exact isLine_of_mem_words hl hword
  change_blank := by
    rcases h "" with ⟨-, hnone⟩ | hword
    · exact hnone
    · cases hword

/-- The filters that change each line, with what they make of it. -/
def byName : List (String × LineChange) := [
  ("trim", ⟨trim, isLine_trim, rfl⟩),
  ("first", word picksWord_firstWord),
  ("last", word picksWord_lastWord),
  ("upper", ⟨upper, isLine_upper, rfl⟩),
  ("lower", ⟨lower, isLine_lower, rfl⟩)]

/-- The change of all lines as an edit. -/
def edit (c : LineChange) : LineEdit :=
  .always (List.map c.change) fun hls l hl => by
    obtain ⟨l', hl', rfl⟩ := List.mem_map.1 hl
    exact c.isLine_change (hls l' hl')

theorem map_orBlank (c : LineChange) (ls : List String) :
    (orBlank ls).map c.change = orBlank (ls.map c.change) := by
  by_cases h : ls = []
  · rw [h, orBlank_nil, List.map_singleton, c.change_blank, List.map_nil, orBlank_nil]
  · rw [orBlank_of_ne_nil h, orBlank_of_ne_nil (mt List.map_eq_nil_iff.1 h)]

theorem step_edit (c : LineChange) (h : ls ≠ []) : c.edit.step ls = .ok (ls.map c.change) :=
  congrArg Except.ok (orBlank_of_ne_nil (mt List.map_eq_nil_iff.1 h))

end LineChange

/-! ## Blind edits -/

namespace LineEdit

variable {e : LineEdit}

/-- The edit does not look at the lines: what is done to each of them may be done afterwards. -/
def Blind (e : LineEdit) : Prop :=
  ∀ (f : String → String) (ls : List String), e.run (ls.map f) = (e.run ls).map (List.map f)

/-- **A change of each line and a blind edit may change places.** -/
theorem Blind.commuteAt_change (h : Blind e) (c : LineChange) {ls : List String} (hne : ls ≠ []) :
    CommuteAt ls c.edit e := by
  unfold CommuteAt
  rw [c.step_edit hne]
  show e.step (ls.map c.change) = _
  rw [step, h, step]
  cases e.run ls with
  | error f => rfl
  | ok ls' =>
    show Except.ok (orBlank (ls'.map c.change)) = c.edit.step (orBlank ls')
    rw [c.step_edit (orBlank_ne_nil ls'), c.map_orBlank]

theorem blind_reversed : Blind Arrangement.reversed.edit :=
  fun _ _ => congrArg Except.ok List.map_reverse.symm

/-- As many lines as the arguments say, taken by one of the ways to take lines. -/
def counted (take : Int → List String → List String) (htake : ∀ n ls, take n ls ⊆ ls)
    (args : List String) : LineEdit where
  run ls := (lineCount args).map fun n => take n ls
  areLines_of_run := by
    intro ls ls' hls hrun
    cases hcount : lineCount args with
    | error f =>
      rw [hcount] at hrun
      cases hrun
    | ok n =>
      rw [hcount] at hrun
      cases hrun
      exact hls.mono (htake n ls)

theorem blind_counted {take : Int → List String → List String} (htake : ∀ n ls, take n ls ⊆ ls)
    (hmap : ∀ (f : String → String) n ls, take n (ls.map f) = (take n ls).map f)
    (args : List String) : Blind (counted take htake args) := by
  intro f ls
  show (lineCount args).map _ = ((lineCount args).map _).map _
  cases lineCount args with
  | error f => rfl
  | ok n => exact congrArg Except.ok (hmap f n ls)

end LineEdit

namespace Filter

theorem takeFirst_subset (n : Int) (ls : List String) : takeFirst n ls ⊆ ls := by
  cases n <;> exact List.take_subset _ _

theorem takeLast_subset (n : Int) (ls : List String) : takeLast n ls ⊆ ls := by
  cases n <;> exact List.drop_subset _ _

theorem takeFirst_map (f : String → String) (n : Int) (ls : List String) :
    takeFirst n (ls.map f) = (takeFirst n ls).map f := by
  cases n <;> simp [takeFirst, List.map_take]

theorem takeLast_map (f : String → String) (n : Int) (ls : List String) :
    takeLast n (ls.map f) = (takeLast n ls).map f := by
  cases n <;> simp [takeLast, List.map_drop]

/-! ## Numbers in front of lines -/

theorem numberFrom_eq_mapIdx (n : Nat) (ls : List String) :
    numberFrom n ls = ls.mapIdx fun i l => toString (n + i) ++ ": " ++ l := by
  induction ls generalizing n with
  | nil => rfl
  | cons l ls ih => simp [numberFrom, ih, Nat.add_assoc, Nat.add_comm 1]

theorem isLine_toString (n : Nat) : IsLine (toString n) := by
  intro hfeed
  have hdigit := Nat.isDigit_of_mem_toDigits (b := 10) (n := n) (c := '\n') (by decide) (by decide)
    (by simpa using hfeed)
  exact absurd hdigit (by decide)

end Filter

namespace LineEdit

/-- Numbers in front of the lines. -/
def numbered : LineEdit :=
  .always (numberFrom 1) fun {ls} hls l hl => by
    rw [numberFrom_eq_mapIdx] at hl
    obtain ⟨i, hi, rfl⟩ := List.mem_mapIdx.1 hl
    have hnumber := isLine_toString (1 + i)
    have hline := hls ls[i] (List.getElem_mem hi)
    simp only [IsLine, String.toList_append, List.mem_append, not_or] at hnumber hline ⊢
    exact ⟨⟨hnumber, by decide⟩, hline⟩

/-! ## The count of lines -/

/-- A line that says how many lines there are that are not blank. -/
def counting : LineEdit :=
  .always (fun ls => [toString (ls.countP filled) ++ " lines"]) fun {ls} _ l hl => by
    have hnumber := isLine_toString (ls.countP filled)
    rw [List.mem_singleton.1 hl]
    simp only [IsLine, String.toList_append, List.mem_append, not_or] at hnumber ⊢
    exact ⟨hnumber, by decide⟩

/-- The edit leaves as many lines that are not blank as there were. -/
def KeepsFilled (e : LineEdit) : Prop :=
  ∀ ls, ∃ ls', e.run ls = .ok ls' ∧ ls'.countP filled = ls.countP filled

theorem keepsFilled_change {c : LineChange} (h : ∀ l, filled (c.change l) = filled l) :
    KeepsFilled c.edit := by
  intro ls
  refine ⟨_, rfl, ?_⟩
  rw [List.countP_map]
  exact List.countP_congr fun l _ => by rw [Function.comp_apply, h]

theorem keepsFilled_arrangement {a : Arrangement} (h : ∀ ls, (a.arrange ls).Perm ls) :
    KeepsFilled a.edit :=
  fun ls => ⟨_, rfl, (h ls).countP_eq filled⟩

theorem countP_filled_orBlank (ls : List String) :
    (orBlank ls).countP filled = ls.countP filled := by
  by_cases h : ls = []
  · rw [h]
    decide
  · rw [orBlank_of_ne_nil h]

end LineEdit

/-! ## Pipelines -/

namespace FilterRegistry

variable {text pipe pipe' name : String} {args : List String} {e : LineEdit}

/-- The invocation is one of a filter with one of these names. -/
def Invokes (pipe : String) (names : List String) : Prop :=
  ∃ name ∈ names, ∃ args, words pipe = name :: args

theorem Invokes.exists_args (h : Invokes pipe [name]) : ∃ args, words pipe = name :: args := by
  obtain ⟨name', hname, args, hwords⟩ := h
  exact ⟨args, List.mem_singleton.1 hname ▸ hwords⟩

theorem performs_change {c : LineChange} (hc : (name, c) ∈ LineChange.byName)
    (h : words pipe = name :: args) : Performs pipe c.edit := by
  intro text
  have hupper := upper_unlines (lines text)
  have hlower := lower_unlines (lines text)
  rw [unlines_lines] at hupper hlower
  simp only [LineChange.byName, List.mem_cons, Prod.mk.injEq, List.not_mem_nil, or_false] at hc
  rcases hc with ⟨rfl, rfl⟩ | ⟨rfl, rfl⟩ | ⟨rfl, rfl⟩ | ⟨rfl, rfl⟩ | ⟨rfl, rfl⟩ <;>
    rw [applyPipe_of_words h rfl]
  · rfl
  · rfl
  · rfl
  -- These two are given the text as a whole.
  · exact congrArg (fun text => Except.ok (Outcome.ok text)) hupper
  · exact congrArg (fun text => Except.ok (Outcome.ok text)) hlower

theorem exists_change (h : Invokes pipe ["trim", "first", "last", "upper", "lower"]) :
    ∃ c : LineChange, Performs pipe c.edit := by
  obtain ⟨name, hname, args, hwords⟩ := h
  have hnames : name ∈ LineChange.byName.map Prod.fst := hname
  obtain ⟨⟨_, c⟩, hc, rfl⟩ := List.mem_map.1 hnames
  exact ⟨c, performs_change hc hwords⟩

theorem performs_number (h : words pipe = "number" :: args) : Performs pipe .numbered := by
  intro text
  rw [applyPipe_of_words h rfl]
  rfl

theorem performs_count (h : words pipe = "count" :: args) : Performs pipe .counting := by
  intro text
  rw [applyPipe_of_words h rfl]
  rfl

theorem performs_head (h : words pipe = "head" :: args) :
    Performs pipe (.counted takeFirst takeFirst_subset args) := by
  intro text
  rw [applyPipe_of_words h rfl]
  show head text args = ((lineCount args).map _).map linesOutcome
  rw [head]
  cases lineCount args <;> rfl

theorem performs_tail (h : words pipe = "tail" :: args) :
    Performs pipe (.counted takeLast takeLast_subset args) := by
  intro text
  rw [applyPipe_of_words h rfl]
  show tail text args = ((lineCount args).map _).map linesOutcome
  rw [tail]
  cases lineCount args <;> rfl

theorem exists_blind (h : Invokes pipe ["reverse", "head", "tail"]) :
    ∃ e, LineEdit.Blind e ∧ Performs pipe e := by
  obtain ⟨name, hname, args, hwords⟩ := h
  simp only [List.mem_cons, List.not_mem_nil, or_false] at hname
  rcases hname with rfl | rfl | rfl
  · exact ⟨_, LineEdit.blind_reversed, performs_reverse hwords⟩
  · exact ⟨_, LineEdit.blind_counted _ takeFirst_map args, performs_head hwords⟩
  · exact ⟨_, LineEdit.blind_counted _ takeLast_map args, performs_tail hwords⟩

theorem exists_keepsFilled (h : Invokes pipe ["trim", "first", "last", "sort", "reverse"]) :
    ∃ e, LineEdit.KeepsFilled e ∧ Performs pipe e := by
  obtain ⟨name, hname, args, hwords⟩ := h
  have hchange {c : LineChange} (hc : (name, c) ∈ LineChange.byName)
      (hfilled : ∀ l, filled (c.change l) = filled l) :
      ∃ e, LineEdit.KeepsFilled e ∧ Performs pipe e :=
    ⟨_, LineEdit.keepsFilled_change hfilled, performs_change hc hwords⟩
  simp only [List.mem_cons, List.not_mem_nil, or_false] at hname
  rcases hname with rfl | rfl | rfl | rfl | rfl
  · exact hchange (.head _) filled_trim
  · exact hchange (.tail _ (.head _)) picksWord_firstWord.filled_pick
  · exact hchange (.tail _ (.tail _ (.head _))) picksWord_lastWord.filled_pick
  · refine ⟨_, LineEdit.keepsFilled_arrangement fun ls => ?_, performs_sort hwords⟩
    split
    · exact (List.reverse_perm _).trans (sortLines_perm ls)
    · exact sortLines_perm ls
  · exact ⟨_, LineEdit.keepsFilled_arrangement List.reverse_perm, performs_reverse hwords⟩

/-- A count is the same after an edit that keeps as many lines that are not blank. -/
theorem applyPipes_count (h : Performs pipe e) (he : LineEdit.KeepsFilled e)
    (h' : words pipe' = "count" :: args) (text : String) :
    builtin.applyPipes text [pipe, pipe'] = builtin.applyPipes text [pipe'] := by
  obtain ⟨ls, hrun, hcount⟩ := he (lines text)
  have hstep : e.step (lines text) = .ok (orBlank ls) := congrArg (Except.map orBlank) hrun
  rw [applyPipes_pair h (performs_count h'), applyPipes_singleton (performs_count h'), hstep]
  show Except.ok (linesOutcome [toString ((orBlank ls).countP filled) ++ " lines"]) = _
  rw [LineEdit.countP_filled_orBlank, hcount]
  rfl

/-- The lines that come of an edit that leaves some. -/
theorem lines_applyPipes (h : Performs pipe e) (text : String) {ls : List String}
    (hrun : e.run (lines text) = .ok ls) (hne : ls ≠ []) :
    ∃ out, builtin.applyPipes text [pipe] = .ok (.ok out) ∧ lines out = ls := by
  refine ⟨unlines ls, ?_, lines_unlines hne (e.areLines_of_run (areLines_lines text) hrun)⟩
  rw [applyPipes_singleton h, hrun]
  rfl

/-- **The filters that change each line.**

`trim`, `first`, `last`, `upper`, `lower` and `number` leave as many lines as there are, and each of
them is made of the line in its place, by `number` with regard to the place. All but `number` change
places with `reverse`, `head` and `tail`, whatever number of lines is asked for, even one that is
too long to read. A count is not changed by `trim`, `first`, `last`, `sort` and `reverse`. -/
theorem linewise_filters (text : String) :
    (∀ name c pipe, (name, c) ∈ LineChange.byName → Invokes pipe [name] →
      ∃ out, builtin.applyPipes text [pipe] = .ok (.ok out) ∧
        (lines out).length = (lines text).length ∧ lines out = (lines text).map c.change) ∧
    (∀ pipe, Invokes pipe ["number"] →
      ∃ out, builtin.applyPipes text [pipe] = .ok (.ok out) ∧
        (lines out).length = (lines text).length ∧
        lines out = (lines text).mapIdx fun i l => toString (i + 1) ++ ": " ++ l) ∧
    (∀ pipe pipe', Invokes pipe ["trim", "first", "last", "upper", "lower"] →
      Invokes pipe' ["reverse", "head", "tail"] →
      builtin.applyPipes text [pipe, pipe'] = builtin.applyPipes text [pipe', pipe]) ∧
    ∀ pipe pipe', Invokes pipe ["trim", "first", "last", "sort", "reverse"] →
      Invokes pipe' ["count"] →
      builtin.applyPipes text [pipe, pipe'] = builtin.applyPipes text [pipe'] := by
  have hne := lines_ne_nil text
  refine ⟨fun name c pipe hc hpipe => ?_, fun pipe hpipe => ?_, fun pipe pipe' hpipe hpipe' => ?_,
    fun pipe pipe' hpipe hpipe' => ?_⟩
  · obtain ⟨args, hwords⟩ := hpipe.exists_args
    obtain ⟨out, hout, hlines⟩ := lines_applyPipes (performs_change hc hwords) text rfl
      (mt List.map_eq_nil_iff.1 hne)
    exact ⟨out, hout, by rw [hlines, List.length_map], hlines⟩
  · obtain ⟨args, hwords⟩ := hpipe.exists_args
    have hnumber := numberFrom_eq_mapIdx 1 (lines text)
    obtain ⟨out, hout, hlines⟩ := lines_applyPipes (performs_number hwords) text rfl
      (by rw [hnumber]; exact mt List.mapIdx_eq_nil_iff.1 hne)
    rw [hnumber] at hlines
    simp only [Nat.add_comm 1] at hlines
    exact ⟨out, hout, by rw [hlines, List.length_mapIdx], hlines⟩
  · obtain ⟨c, hchange⟩ := exists_change hpipe
    obtain ⟨e, hblind, hperforms⟩ := exists_blind hpipe'
    exact applyPipes_comm hchange hperforms (hblind.commuteAt_change c hne)
  · obtain ⟨e, hkeeps, hperforms⟩ := exists_keepsFilled hpipe
    obtain ⟨args, hwords⟩ := hpipe'.exists_args
    exact applyPipes_count hperforms hkeeps hwords text

/-- Three lines, one of which ends in a sigma and another one is blank. The last line is taken, no
line is left, and the lines are counted. -/
theorem linewise_filters_sigma :
    let text := "ΑΣ\n b c\n "
    let run := builtin.applyPipes text
    Invokes "lower" ["lower"] ∧ (∃ out, run ["lower"] = .ok (.ok out) ∧
      (lines out).length = 3 ∧ lines out = ["ας", " b c", " "]) ∧
    Invokes "first" ["trim", "first", "last", "upper", "lower"] ∧
    Invokes "tail 1" ["reverse", "head", "tail"] ∧
    run ["first", "tail 1"] = run ["tail 1", "first"] ∧
    Invokes "head -3x" ["reverse", "head", "tail"] ∧
    run ["first", "head -3x"] = run ["head -3x", "first"] ∧
    Invokes "sort -r" ["trim", "first", "last", "sort", "reverse"] ∧ Invokes "count" ["count"] ∧
    run ["sort -r", "count"] = run ["count"] := by
  intro text run
  have hlower : Invokes "lower" ["lower"] := ⟨_, by decide, [], rfl⟩
  have hfirst : Invokes "first" ["trim", "first", "last", "upper", "lower"] :=
    ⟨"first", by decide, [], rfl⟩
  have htail : Invokes "tail 1" ["reverse", "head", "tail"] := ⟨"tail", by decide, ["1"], rfl⟩
  have hhead : Invokes "head -3x" ["reverse", "head", "tail"] := ⟨"head", by decide, ["-3x"], rfl⟩
  have hsort : Invokes "sort -r" ["trim", "first", "last", "sort", "reverse"] :=
    ⟨"sort", by decide, ["-r"], rfl⟩
  have hcount : Invokes "count" ["count"] := ⟨_, by decide, [], rfl⟩
  obtain ⟨hchange, -, hcomm, hkept⟩ := linewise_filters text
  obtain ⟨out, hout, hlength, hlines⟩ := hchange "lower" ⟨lower, isLine_lower, rfl⟩ "lower"
    (by simp [LineChange.byName]) hlower
  have htext : (lines text).length = 3 := by decide +kernel
  have hlow : (lines text).map lower = ["ας", " b c", " "] := by decide +kernel
  exact ⟨hlower, ⟨out, hout, hlength.trans htext, hlines.trans hlow⟩, hfirst, htail,
    hcomm _ _ hfirst htail, hhead, hcomm _ _ hfirst hhead, hsort, hcount, hkept _ _ hsort hcount⟩

end FilterRegistry

end StreetConsole
