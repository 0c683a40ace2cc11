import Mathlib.Data.List.Forall2
import StreetConsole.Proofs.Pieces
import StreetConsole.Proofs.Transcript

/-!
# Pipelines as edits of lines

Filters pass texts on to each other, but what they work on are lines: each cuts its text into lines,
edits them, and puts them together again. Cutting and joining undo each other, so that the lines can
be looked at alone, but for one thing: no lines at all and one empty line are the same text. So a
filter that leaves no lines hands an empty one to the next (`orBlank`).

**Theorem (`applyPipes_performs`).** A pipeline whose filters edit lines does the edits one after
the other, on the lines of the text. The proof is an induction over the pipeline, with the invariant
that the lines of the text so far are those that the edits have made, or an empty one if they have
made none.

`LineEdit` is an edit with the fact that it makes no line feeds, and `Performs` says which edit an
invocation of a built-in filter does. Two invocations may change places if their edits may
(`applyPipes_comm`).
-/

namespace StreetConsole

/-! ## Lines and texts -/

namespace Text

/-- The text is a single line. -/
def IsLine (l : String) : Prop := '\n' ∉ l.toList

/-- All of them are single lines. -/
def AreLines (ls : List String) : Prop := ∀ l ∈ ls, IsLine l

variable {ls ls' : List String} {text l : String}

theorem AreLines.mono (h : AreLines ls) (hsub : ls' ⊆ ls) : AreLines ls' :=
  fun l hl => h l (hsub hl)

theorem toList_unlines (ls : List String) :
    (unlines ls).toList = ['\n'].intercalate (ls.map String.toList) :=
  String.toList_intercalate

theorem unlines_lines (text : String) : unlines (lines text) = text := by
  rw [← String.toList_inj, toList_unlines]
  exact intercalate_splitAt '\n' text

theorem lines_unlines (hne : ls ≠ []) (h : AreLines ls) : lines (unlines ls) = ls :=
  splitAt_of_toList_eq hne h (toList_unlines ls)

theorem lines_ne_nil (text : String) : lines text ≠ [] := splitAt_ne_nil '\n' text

theorem areLines_lines (text : String) : AreLines (lines text) := fun _ => not_mem_of_mem_splitAt

/-- Some lines of a text, put together and cut again. -/
theorem lines_unlines_of_subset (hne : ls ≠ []) (hsub : ls ⊆ lines text) :
    lines (unlines ls) = ls :=
  lines_unlines hne ((areLines_lines text).mono hsub)

/-- Lines as those of a text, which has one empty line if there are none. -/
def orBlank (ls : List String) : List String := if ls = [] then [""] else ls

theorem orBlank_nil : orBlank [] = [""] := rfl

theorem orBlank_of_ne_nil (h : ls ≠ []) : orBlank ls = ls := if_neg h

theorem orBlank_ne_nil (ls : List String) : orBlank ls ≠ [] := by
  unfold orBlank
  split
  · exact List.cons_ne_nil _ _
  · next h => exact h

theorem unlines_orBlank (ls : List String) : unlines (orBlank ls) = unlines ls := by
  unfold orBlank
  split
  · next h =>
    rw [h]
    rfl
  · rfl

theorem lines_unlines_eq_orBlank (h : AreLines ls) : lines (unlines ls) = orBlank ls := by
  by_cases hne : ls = []
  · rw [hne]
    rfl
  · rw [lines_unlines hne h, orBlank_of_ne_nil hne]

end Text

open Text

/-! ## Edits -/

/-- What a filter does to the lines of a text, unless it is given up. It makes no line feeds. -/
structure LineEdit where
  run : List String → Except Fault (List String)
  areLines_of_run : ∀ {ls ls' : List String}, AreLines ls → run ls = .ok ls' → AreLines ls'

namespace LineEdit

/-- The edit, and an empty line if it leaves none. -/
def step (e : LineEdit) (ls : List String) : Except Fault (List String) := (e.run ls).map orBlank

/-- An edit that is never given up. -/
def always (f : List String → List String) (h : ∀ {ls}, AreLines ls → AreLines (f ls)) :
    LineEdit where
  run ls := .ok (f ls)
  areLines_of_run hls hrun := by
    cases hrun
    exact h hls

/-- On these lines the two edits may change places. -/
def CommuteAt (ls : List String) (e e' : LineEdit) : Prop :=
  (e.step ls >>= e'.step) = (e'.step ls >>= e.step)

end LineEdit

namespace FilterRegistry

variable {text pipe pipe' name : String} {args : List String} {e e' : LineEdit}

theorem applyPipe_of_words {r : FilterRegistry} {f : Filter} (hpipe : words pipe = name :: args)
    (hname : r.get? name = some f) : r.applyPipe text pipe = f.apply text args := by
  rw [applyPipe_eq, hpipe, List.headD_cons, hname]
  rfl

/-- The outcome of a filter that has made these lines. -/
def linesOutcome (ls : List String) : Outcome := .ok (unlines ls)

/-- The invocation is one of a built-in filter that does this edit. -/
def Performs (pipe : String) (e : LineEdit) : Prop :=
  ∀ text, builtin.applyPipe text pipe = (e.run (lines text)).map linesOutcome

/-- **A pipeline of edits does one after the other.** -/
theorem applyPipes_performs {pipes : List String} {edits : List LineEdit}
    (h : List.Forall₂ Performs pipes edits) (text : String) :
    builtin.applyPipes text pipes =
      (edits.foldlM (fun ls (e : LineEdit) => e.step ls) (lines text)).map linesOutcome := by
  induction h generalizing text with
  | nil =>
    show _ = Except.ok (Outcome.ok (unlines (lines text)))
    rw [unlines_lines]
    rfl
  | @cons pipe e pipes edits hpipe _ ih =>
    rw [List.foldlM_cons, LineEdit.step]
    cases hrun : e.run (lines text) with
    | error f =>
      have hfirst : builtin.applyPipe text pipe = .error f := by rw [hpipe text, hrun]; rfl
      rw [applyPipes_cons_of_stops (hfirst ▸ stops_error f), hfirst]
      rfl
    | ok ls =>
      have hfirst : builtin.applyPipe text pipe = .ok (linesOutcome ls) := by
        rw [hpipe text, hrun]
        rfl
      rw [applyPipes_cons_of_ok hfirst rfl]
      show builtin.applyPipes (unlines ls) pipes = _
      rw [ih, lines_unlines_eq_orBlank (e.areLines_of_run (areLines_lines text) hrun)]
      rfl

/-- A single edit. -/
theorem applyPipes_singleton (h : Performs pipe e) (text : String) :
    builtin.applyPipes text [pipe] = (e.run (lines text)).map linesOutcome := by
  rw [applyPipes_performs (.cons h .nil), List.foldlM_cons, LineEdit.step]
  cases e.run (lines text) with
  | error f => rfl
  | ok ls =>
    show Except.ok (linesOutcome (orBlank ls)) = Except.ok (linesOutcome ls)
    rw [linesOutcome, unlines_orBlank]
    rfl

/-- Two edits. -/
theorem applyPipes_pair (h : Performs pipe e) (h' : Performs pipe' e') (text : String) :
    builtin.applyPipes text [pipe, pipe'] =
      (e.step (lines text) >>= e'.step).map linesOutcome := by
  rw [applyPipes_performs (.cons h (.cons h' .nil)), List.foldlM_cons]
  simp only [List.foldlM_cons, List.foldlM_nil, bind_pure]

/-- **Invocations whose edits may change places may change places.** -/
theorem applyPipes_comm (h : Performs pipe e) (h' : Performs pipe' e')
    (hcomm : LineEdit.CommuteAt (lines text) e e') :
    builtin.applyPipes text [pipe, pipe'] = builtin.applyPipes text [pipe', pipe] := by
  rw [applyPipes_pair h h', applyPipes_pair h' h, hcomm]

end FilterRegistry

end StreetConsole
