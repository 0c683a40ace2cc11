import Mathlib.Data.List.Forall2
import StreetConsole.Conditional
import StreetConsole.Proofs.Trim

/-!
# The readings of a conditional line

A line can be split into the parts of a conditional in more than one way: any `then` with blanks
around it may end the condition, and blanks next to a part may be counted as its own. `Reads` says
what counts as a split, without a word about the order in which splits are tried; the parts then
lose the blanks at their ends.

**Theorem (`parse?_prefers_text`).** A line is read if it has a reading at all. The reading that is
chosen has an empty condition only where every reading has, and an empty first command only where
every reading with the same condition has; the command after an `else` is never empty.

So a line without a condition is read all the same where at least three blanks stand between `if`
and `then`: the middle one passes for the condition.

The search for blanks prefers to take them all. Therefore the part behind them begins with a
character that is no blank, unless this leads nowhere (`afterBlanks_of_head`).
-/

namespace StreetConsole.Conditional

/-! ## Keywords, gaps and parts -/

/-- The characters spell the keyword, each letter in any of its forms. -/
def IsKeyword (keyword cs : List Char) : Prop :=
  List.Forall₂ (fun letter c => isKeywordLetter letter c = true) keyword cs

/-- One or more blanks. -/
def IsGap (cs : List Char) : Prop := cs ≠ [] ∧ ∀ c ∈ cs, Text.isBlank c = true

/-- One or more characters other than line feeds. -/
def IsPart (cs : List Char) : Prop := cs ≠ [] ∧ '\n' ∉ cs

/-- The commands after `then`, as they may be split. -/
inductive Branches : (cs first : List Char) → (second : Option (List Char)) → Prop
  | alone {first} (hfirst : IsPart first) : Branches first first none
  | both {first gap kw gap' second} (hfirst : IsPart first) (hgap : IsGap gap)
      (hkw : IsKeyword ['e', 'l', 's', 'e'] kw) (hgap' : IsGap gap') (hsecond : IsPart second) :
      Branches (first ++ (gap ++ (kw ++ (gap' ++ second)))) first (some second)

/-- A conditional line, as it may be split. -/
inductive Split : (cs condition first : List Char) → (second : Option (List Char)) → Prop
  | mk {kw gap condition gap' kw' gap'' rest first second} (hkw : IsKeyword ['i', 'f'] kw)
      (hgap : IsGap gap) (hcondition : IsPart condition) (hgap' : IsGap gap')
      (hkw' : IsKeyword ['t', 'h', 'e', 'n'] kw') (hgap'' : IsGap gap'')
      (hrest : Branches rest first second) :
      Split (kw ++ (gap ++ (condition ++ (gap' ++ (kw' ++ (gap'' ++ rest))))))
        condition first second

/-- The conditional is one that the line can be read as. -/
def Reads (line : String) (c : Conditional) : Prop :=
  ∃ condition first second, Split (Text.trimChars line.toList) condition first second ∧
    c = ⟨trimmed condition, trimmed first, second.map trimmed⟩

/-! ## What the searches find -/

section

variable {α : Type} {keyword kw gap gap' cs rest taken text : List Char} {a : α}

theorem afterKeyword?_append (h : IsKeyword keyword kw) (rest : List Char) :
    afterKeyword? keyword (kw ++ rest) = some rest := by
  induction h with
  | nil => rfl
  | cons hletter h ih =>
    rw [List.cons_append, afterKeyword?, if_pos hletter]
    exact ih

theorem exists_of_afterKeyword? (h : afterKeyword? keyword cs = some rest) :
    ∃ kw, IsKeyword keyword kw ∧ cs = kw ++ rest := by
  fun_induction afterKeyword? keyword cs with
  | case1 cs =>
    cases h
    exact ⟨[], .nil, rfl⟩
  | case2 => cases h
  | case3 letter keyword c cs hletter ih =>
    obtain ⟨kw, hkw, rfl⟩ := ih h
    exact ⟨c :: kw, .cons hletter hkw, rfl⟩
  | case4 => cases h

theorem isGap_cons {c : Char} (hc : Text.isBlank c = true) (h : ∀ d ∈ cs, Text.isBlank d = true) :
    IsGap (c :: cs) :=
  ⟨List.cons_ne_nil c cs, List.forall_mem_cons.2 ⟨hc, h⟩⟩

theorem exists_of_afterBlanks {k : List Char → Option α} (h : afterBlanks k cs = some a) :
    ∃ gap rest, IsGap gap ∧ cs = gap ++ rest ∧ k rest = some a := by
  induction cs with
  | nil => cases h
  | cons c cs ih =>
    rw [afterBlanks] at h
    split at h
    · next hc =>
      split at h
      · next found hfound =>
        obtain ⟨gap, rest, hgap, rfl, hk⟩ := ih (hfound.trans h)
        exact ⟨c :: gap, rest, isGap_cons hc hgap.2, rfl, hk⟩
      · exact ⟨[c], cs, isGap_cons hc (by simp), rfl, h⟩
    · cases h

theorem afterBlanks_cons_of_blank {k : List Char → Option α} {c : Char}
    (hc : Text.isBlank c = true) (cs : List Char) :
    afterBlanks k (c :: cs) = (afterBlanks k cs).or (k cs) := by
  rw [afterBlanks, if_pos hc]
  cases afterBlanks k cs <;> rfl

theorem afterBlanks_ne_none {k : List Char → Option α} (hgap : IsGap gap) (h : k rest ≠ none) :
    afterBlanks k (gap ++ rest) ≠ none := by
  obtain ⟨hne, hblank⟩ := hgap
  induction gap with
  | nil => exact absurd rfl hne
  | cons c gap ih =>
    obtain ⟨hc, hblank⟩ := List.forall_mem_cons.1 hblank
    rw [List.cons_append, afterBlanks_cons_of_blank hc, ne_eq, Option.or_eq_none_iff]
    rintro ⟨hlonger, hshorter⟩
    cases gap with
    | nil => exact h hshorter
    | cons d gap => exact ih (List.cons_ne_nil d gap) hblank hlonger

theorem afterBlanks_eq_none_of_head {k : List Char → Option α}
    (h : ∀ c ∈ cs.head?, Text.isBlank c = false) : afterBlanks k cs = none := by
  cases cs with
  | nil => rfl
  | cons c cs =>
    have hc : Text.isBlank c = false := h c rfl
    simp [afterBlanks, hc]

/-- **All blanks are taken**, if what comes after them can be read. -/
theorem afterBlanks_of_head {k : List Char → Option α} (hgap : IsGap gap)
    (hrest : ∀ c ∈ rest.head?, Text.isBlank c = false) (h : k rest = some a) :
    afterBlanks k (gap ++ rest) = some a := by
  obtain ⟨hne, hblank⟩ := hgap
  induction gap with
  | nil => exact absurd rfl hne
  | cons c gap ih =>
    obtain ⟨hc, hblank⟩ := List.forall_mem_cons.1 hblank
    rw [List.cons_append, afterBlanks_cons_of_blank hc]
    cases gap with
    | nil => rw [List.nil_append, afterBlanks_eq_none_of_head hrest, Option.none_or, h]
    | cons d gap => rw [ih (List.cons_ne_nil d gap) hblank, Option.some_or]

theorem afterBlanks_map {β : Type} (f : α → β) (k : List Char → Option α) (cs : List Char) :
    afterBlanks (fun cs => (k cs).map f) cs = (afterBlanks k cs).map f := by
  induction cs with
  | nil => rfl
  | cons c cs ih =>
    by_cases hc : Text.isBlank c = true
    · rw [afterBlanks_cons_of_blank hc, afterBlanks_cons_of_blank hc, ih, Option.map_or]
    · simp [afterBlanks, hc]

theorem exists_of_afterText {k : List Char → List Char → Option α}
    (h : afterText k taken cs = some a) :
    ∃ text rest, IsPart text ∧ cs = text ++ rest ∧ k (text.reverse ++ taken) rest = some a := by
  induction cs generalizing taken with
  | nil => cases h
  | cons c cs ih =>
    rw [afterText] at h
    split at h
    · cases h
    · next hc =>
      split at h
      · next found hfound =>
        exact ⟨[c], cs, ⟨by simp, by simpa using Ne.symm hc⟩, rfl, hfound.trans h⟩
      · obtain ⟨text, rest, ⟨-, htext⟩, rfl, hk⟩ := ih h
        refine ⟨c :: text, rest, ⟨by simp, ?_⟩, rfl, by simpa using hk⟩
        simpa using ⟨Ne.symm hc, htext⟩

theorem afterText_cons {k : List Char → List Char → Option α} {c : Char} (hc : c ≠ '\n')
    (taken cs : List Char) :
    afterText k taken (c :: cs) = (k (c :: taken) cs).or (afterText k (c :: taken) cs) := by
  rw [afterText, if_neg hc]
  cases k (c :: taken) cs <;> rfl

theorem afterText_ne_none {k : List Char → List Char → Option α} (htext : IsPart text)
    (h : k (text.reverse ++ taken) rest ≠ none) : afterText k taken (text ++ rest) ≠ none := by
  obtain ⟨hne, hfeed⟩ := htext
  induction text generalizing taken with
  | nil => exact absurd rfl hne
  | cons c text ih =>
    obtain ⟨hc, hfeed⟩ : '\n' ≠ c ∧ '\n' ∉ text := by simpa using hfeed
    rw [List.cons_append, afterText_cons (Ne.symm hc), ne_eq, Option.or_eq_none_iff]
    rintro ⟨hshorter, hlonger⟩
    cases text with
    | nil => exact h hshorter
    | cons d text => exact ih (by simpa using h) (List.cons_ne_nil d text) hfeed hlonger

theorem exists_of_afterKeywordBetween {k : List Char → Option α}
    (h : afterKeywordBetween keyword k cs = some a) :
    ∃ gap kw rest, IsGap gap ∧ IsKeyword keyword kw ∧ cs = gap ++ (kw ++ rest) ∧
      afterBlanks k rest = some a := by
  obtain ⟨gap, rest, hgap, rfl, hk⟩ := exists_of_afterBlanks h
  obtain ⟨rest', hkeyword, hblanks⟩ := Option.bind_eq_some_iff.1 hk
  obtain ⟨kw, hkw, rfl⟩ := exists_of_afterKeyword? hkeyword
  exact ⟨gap, kw, rest', hgap, hkw, rfl, hblanks⟩

theorem afterKeywordBetween_ne_none {k : List Char → Option α} (hgap : IsGap gap)
    (hkw : IsKeyword keyword kw) (hgap' : IsGap gap') (h : k rest ≠ none) :
    afterKeywordBetween keyword k (gap ++ (kw ++ (gap' ++ rest))) ≠ none := by
  refine afterBlanks_ne_none hgap ?_
  rw [afterKeyword?_append hkw, Option.bind_some]
  exact afterBlanks_ne_none hgap' h

end

/-! ## Readings are found -/

theorem elsePart_ne_none {gap kw gap' second : List Char} (hgap : IsGap gap)
    (hkw : IsKeyword ['e', 'l', 's', 'e'] kw) (hgap' : IsGap gap') (hsecond : IsPart second) :
    elsePart (gap ++ (kw ++ (gap' ++ second))) ≠ none := by
  refine afterKeywordBetween_ne_none hgap hkw hgap' ?_
  simp [hsecond.1, hsecond.2]

theorem exists_of_elsePart {cs second : List Char} (h : elsePart cs = some second) :
    ∃ gap kw gap', IsGap gap ∧ IsKeyword ['e', 'l', 's', 'e'] kw ∧ IsGap gap' ∧ IsPart second ∧
      cs = gap ++ (kw ++ (gap' ++ second)) := by
  obtain ⟨gap, kw, rest, hgap, hkw, rfl, hblanks⟩ := exists_of_afterKeywordBetween h
  obtain ⟨gap', rest', hgap', rfl, hrest⟩ := exists_of_afterBlanks hblanks
  split at hrest
  · cases hrest
  · next hpart =>
    cases hrest
    exact ⟨gap, kw, gap', hgap, hkw, hgap', by simpa [IsPart] using hpart, rfl⟩

/-- What is found after `then` is a way to split it. -/
theorem branches_sound {cs first : List Char} {second : Option (List Char)}
    (h : branches cs = some (first, second)) : Branches cs first second := by
  obtain ⟨text, rest, htext, rfl, hfound⟩ := exists_of_afterText h
  rw [List.append_nil, List.reverse_reverse] at hfound
  split at hfound
  · next second' helse =>
    obtain ⟨gap, kw, gap', hgap, hkw, hgap', hsecond, rfl⟩ := exists_of_elsePart helse
    cases hfound
    exact .both htext hgap hkw hgap' hsecond
  · split at hfound
    · next hempty =>
      cases hfound
      rw [List.isEmpty_iff.1 hempty, List.append_nil]
      exact .alone htext
    · cases hfound

theorem branches_ne_none {cs first : List Char} {second : Option (List Char)}
    (h : Branches cs first second) : branches cs ≠ none := by
  cases h with
  | alone hfirst =>
    rw [← List.append_nil cs]
    refine afterText_ne_none hfirst ?_
    cases elsePart [] <;> simp
  | both hfirst hgap hkw hgap' hsecond =>
    refine afterText_ne_none hfirst ?_
    obtain ⟨second', helse⟩ :=
      Option.ne_none_iff_exists'.1 (elsePart_ne_none hgap hkw hgap' hsecond)
    simp [helse]

/-- The search for what comes after `if` and blanks. -/
def afterIf : List Char → Option (List Char × List Char × Option (List Char)) :=
  afterText (fun taken cs => afterKeywordBetween ['t', 'h', 'e', 'n']
    (fun cs => (branches cs).map fun b => (taken.reverse, b)) cs) []

theorem parts_eq (cs : List Char) :
    parts cs = (afterKeyword? ['i', 'f'] cs).bind (afterBlanks afterIf) := rfl

theorem exists_of_afterIf {cs condition first : List Char} {second : Option (List Char)}
    (h : afterIf cs = some (condition, first, second)) :
    ∃ gap kw rest, IsPart condition ∧ IsGap gap ∧ IsKeyword ['t', 'h', 'e', 'n'] kw ∧
      cs = condition ++ (gap ++ (kw ++ rest)) ∧
      afterBlanks branches rest = some (first, second) := by
  obtain ⟨text, rest, htext, rfl, hfound⟩ := exists_of_afterText h
  obtain ⟨gap, kw, rest', hgap, hkw, rfl, hblanks⟩ := exists_of_afterKeywordBetween hfound
  rw [afterBlanks_map, Option.map_eq_some_iff] at hblanks
  obtain ⟨b, hb, heq⟩ := hblanks
  rw [List.append_nil, List.reverse_reverse] at heq
  cases heq
  exact ⟨gap, kw, rest', htext, hgap, hkw, rfl, hb⟩

theorem afterIf_ne_none {condition gap kw gap' rest first : List Char}
    {second : Option (List Char)} (hcondition : IsPart condition) (hgap : IsGap gap)
    (hkw : IsKeyword ['t', 'h', 'e', 'n'] kw) (hgap' : IsGap gap')
    (hrest : Branches rest first second) :
    afterIf (condition ++ (gap ++ (kw ++ (gap' ++ rest)))) ≠ none := by
  refine afterText_ne_none hcondition ?_
  refine afterKeywordBetween_ne_none hgap hkw hgap' ?_
  simpa using branches_ne_none hrest

/-- A line is read with a condition that is one of its parts, and the rest of it by `branches`. -/
theorem exists_of_parts {cs condition first : List Char} {second : Option (List Char)}
    (h : parts cs = some (condition, first, second)) :
    ∃ kw gap gap' kw' rest, IsKeyword ['i', 'f'] kw ∧ IsGap gap ∧ IsPart condition ∧ IsGap gap' ∧
      IsKeyword ['t', 'h', 'e', 'n'] kw' ∧
      cs = kw ++ (gap ++ (condition ++ (gap' ++ (kw' ++ rest)))) ∧
      afterBlanks branches rest = some (first, second) := by
  rw [parts_eq, Option.bind_eq_some_iff] at h
  obtain ⟨tail, hkeyword, hblanks⟩ := h
  obtain ⟨kw, hkw, rfl⟩ := exists_of_afterKeyword? hkeyword
  obtain ⟨gap, tail', hgap, rfl, htail⟩ := exists_of_afterBlanks hblanks
  obtain ⟨gap', kw', rest, hcondition, hgap', hkw', rfl, hrest⟩ := exists_of_afterIf htail
  exact ⟨kw, gap, gap', kw', rest, hkw, hgap, hcondition, hgap', hkw', rfl, hrest⟩

theorem parts_sound {cs condition first : List Char} {second : Option (List Char)}
    (h : parts cs = some (condition, first, second)) : Split cs condition first second := by
  obtain ⟨kw, gap, gap', kw', rest, hkw, hgap, hcondition, hgap', hkw', rfl, hrest⟩ :=
    exists_of_parts h
  obtain ⟨gap'', rest', hgap'', rfl, hbranches⟩ := exists_of_afterBlanks hrest
  exact .mk hkw hgap hcondition hgap' hkw' hgap'' (branches_sound hbranches)

theorem parts_ne_none {cs condition first : List Char} {second : Option (List Char)}
    (h : Split cs condition first second) : parts cs ≠ none := by
  cases h with
  | mk hkw hgap hcondition hgap' hkw' hgap'' hrest =>
    rw [parts_eq, afterKeyword?_append hkw, Option.bind_some]
    exact afterBlanks_ne_none hgap (afterIf_ne_none hcondition hgap' hkw' hgap'' hrest)

/-! ## Parts that are not blank are preferred -/

theorem trimmed_eq_empty_iff {cs : List Char} :
    trimmed cs = "" ↔ ∀ c ∈ cs, Text.isBlank c = true := by
  have hempty : trimmed cs = "" ↔ Text.trimChars cs = [] := by
    rw [trimmed, ← String.toList_inj, String.toList_ofList]
    rfl
  rw [hempty]
  constructor
  · intro h
    obtain ⟨before, after, hcs, hbefore, hafter⟩ := Text.exists_eq_blanks_trimChars cs
    rw [hcs, h]
    intro c hc
    rcases List.mem_append.1 hc with hc | hc
    · exact hbefore c hc
    · exact hafter c hc
  · intro h
    rw [← List.append_nil cs, Text.trimChars_blanks_append h]
    rfl

theorem trimmed_ne_empty_of_head {cs : List Char} (hne : cs ≠ [])
    (h : ∀ c ∈ cs.head?, Text.isBlank c = false) : trimmed cs ≠ "" := by
  rw [ne_eq, trimmed_eq_empty_iff]
  intro hblank
  obtain ⟨c, cs, rfl⟩ := List.exists_cons_of_ne_nil hne
  have hc := hblank c List.mem_cons_self
  rw [h c rfl] at hc
  cases hc

/-- A part that is not blank, less the blanks at its beginning. -/
theorem exists_core {text : List Char} (htext : IsPart text) (hne : trimmed text ≠ "") :
    ∃ before core, text = before ++ core ∧ (∀ c ∈ before, Text.isBlank c = true) ∧ IsPart core ∧
      ∀ c ∈ core.head?, Text.isBlank c = false := by
  have hsplit : text = text.takeWhile Text.isBlank ++ Text.dropBlanks text :=
    List.takeWhile_append_dropWhile.symm
  have hbefore : ∀ c ∈ text.takeWhile Text.isBlank, Text.isBlank c = true :=
    fun c hc => List.mem_takeWhile_imp hc
  refine ⟨_, _, hsplit, hbefore, ⟨fun hnil => hne ?_, fun hfeed => htext.2 ?_⟩,
    fun c hc => Text.head_dropBlanks hc⟩
  · rw [trimmed_eq_empty_iff, hsplit, hnil, List.append_nil]
    exact hbefore
  · exact (List.dropWhile_suffix _).subset hfeed

theorem IsGap.append {gap more : List Char} (h : IsGap gap)
    (hmore : ∀ c ∈ more, Text.isBlank c = true) : IsGap (gap ++ more) := by
  refine ⟨List.append_ne_nil_of_left_ne_nil h.1 more, fun c hc => ?_⟩
  rcases List.mem_append.1 hc with hc | hc
  · exact h.2 c hc
  · exact hmore c hc

/-- **Behind blanks a part is found that is not blank, if there is one.** -/
theorem trimmed_ne_empty_of_afterBlanks {β : Type} {k : List Char → Option (List Char × β)}
    (hk : ∀ cs part b, k cs = some (part, b) → part ≠ [] ∧ part <+: cs)
    {gap text tail part : List Char} {b : β} (hgap : IsGap gap) (htext : IsPart text)
    (hne : trimmed text ≠ "") (htail : ∀ core, IsPart core → k (core ++ tail) ≠ none)
    (h : afterBlanks k (gap ++ (text ++ tail)) = some (part, b)) : trimmed part ≠ "" := by
  obtain ⟨before, core, rfl, hbefore, hcore, hhead⟩ := exists_core htext hne
  obtain ⟨found, hfound⟩ := Option.ne_none_iff_exists'.1 (htail core hcore)
  have hhead' : ∀ c ∈ (core ++ tail).head?, Text.isBlank c = false := by
    rwa [List.head?_append_of_ne_nil _ hcore.1]
  have hsearch := afterBlanks_of_head (hgap.append hbefore) hhead' hfound
  rw [List.append_assoc, ← List.append_assoc before, h] at hsearch
  cases hsearch
  obtain ⟨hpart, rest, hrest⟩ := hk _ _ _ hfound
  refine trimmed_ne_empty_of_head hpart ?_
  rwa [← hrest, List.head?_append_of_ne_nil _ hpart] at hhead'

theorem part_of_afterIf {cs part : List Char} {b : List Char × Option (List Char)}
    (h : afterIf cs = some (part, b)) : part ≠ [] ∧ part <+: cs := by
  obtain ⟨gap, kw, rest, hpart, -, -, rfl, -⟩ := exists_of_afterIf h
  exact ⟨hpart.1, List.prefix_append _ _⟩

theorem part_of_branches {cs part : List Char} {b : Option (List Char)}
    (h : branches cs = some (part, b)) : part ≠ [] ∧ part <+: cs := by
  cases branches_sound h with
  | alone hfirst => exact ⟨hfirst.1, List.prefix_refl _⟩
  | both hfirst => exact ⟨hfirst.1, List.prefix_append _ _⟩

theorem trimmed_condition_ne_empty {cs condition first condition' first' : List Char}
    {second second' : Option (List Char)} (h : parts cs = some (condition, first, second))
    (hsplit : Split cs condition' first' second') (hne : trimmed condition' ≠ "") :
    trimmed condition ≠ "" := by
  cases hsplit with
  | mk hkw hgap hcondition hgap' hkw' hgap'' hrest =>
    rw [parts_eq, afterKeyword?_append hkw, Option.bind_some] at h
    exact trimmed_ne_empty_of_afterBlanks (fun _ _ _ => part_of_afterIf) hgap hcondition hne
      (fun core hcore => afterIf_ne_none hcore hgap' hkw' hgap'' hrest) h

/-- Any other part will do for the first command. -/
theorem Branches.exists_tail {cs first : List Char} {second : Option (List Char)}
    (h : Branches cs first second) :
    IsPart first ∧ ∃ tail, cs = first ++ tail ∧
      ∀ core, IsPart core → Branches (core ++ tail) core second := by
  cases h with
  | alone hfirst =>
    refine ⟨hfirst, [], by simp, fun core hcore => ?_⟩
    rw [List.append_nil]
    exact .alone hcore
  | both hfirst hgap hkw hgap' hsecond =>
    exact ⟨hfirst, _, rfl, fun core hcore => .both hcore hgap hkw hgap' hsecond⟩

theorem trimmed_first_ne_empty {gap cs first first' : List Char}
    {second second' : Option (List Char)}
    (hgap : IsGap gap) (h : afterBlanks branches (gap ++ cs) = some (first, second))
    (hsplit : Branches cs first' second') (hne : trimmed first' ≠ "") : trimmed first ≠ "" := by
  obtain ⟨hfirst, tail, rfl, htail⟩ := hsplit.exists_tail
  exact trimmed_ne_empty_of_afterBlanks (fun _ _ _ => part_of_branches) hgap hfirst hne
    (fun core hcore => branches_ne_none (htail core hcore)) h

/-! ## Where the condition ends -/

/-- The keyword is not empty, and its letters are blanks in neither case. -/
def isWord (keyword : List Char) : Bool :=
  !keyword.isEmpty && keyword.all fun l => !Text.isBlank l && !Text.isBlank l.toUpper

theorem isBlank_of_isKeyword {keyword kw : List Char} (h : IsKeyword keyword kw)
    (hword : isWord keyword = true) : ∀ c ∈ kw, Text.isBlank c = false := by
  have hletters : ∀ l ∈ keyword, Text.isBlank l = false ∧ Text.isBlank l.toUpper = false := by
    simpa using (Bool.and_eq_true_iff.1 hword).2
  clear hword
  induction h with
  | nil => simp
  | @cons letter c keyword kw hletter h ih =>
    obtain ⟨⟨hlower, hupper⟩, hletters⟩ := List.forall_mem_cons.1 hletters
    refine List.forall_mem_cons.2 ⟨?_, ih hletters⟩
    simp only [isKeywordLetter, Bool.or_eq_true, Bool.and_eq_true, beq_iff_eq] at hletter
    obtain ((rfl | rfl) | ⟨-, rfl | rfl⟩) | ⟨-, rfl⟩ := hletter
    · exact hlower
    · exact hupper
    all_goals decide

theorem head_of_isKeyword {keyword kw : List Char} (h : IsKeyword keyword kw)
    (hword : isWord keyword = true) (rest : List Char) :
    ∀ c ∈ (kw ++ rest).head?, Text.isBlank c = false := by
  cases h with
  | nil => cases hword
  | @cons letter c keyword kw hletter h =>
    rintro _ ⟨⟩
    exact isBlank_of_isKeyword (.cons hletter h) hword c List.mem_cons_self

/-- Blanks around a trimmed text are told from what comes after them. -/
theorem eq_of_blanks_core_eq {before before' core after after' rest rest' : List Char}
    (hcore : Text.Trimmed core) (hbefore : ∀ c ∈ before, Text.isBlank c = true)
    (hbefore' : ∀ c ∈ before', Text.isBlank c = true)
    (hafter : ∀ c ∈ after, Text.isBlank c = true) (hafter' : ∀ c ∈ after', Text.isBlank c = true)
    (hrest : ∀ c ∈ rest.head?, Text.isBlank c = false)
    (hrest' : ∀ c ∈ rest'.head?, Text.isBlank c = false)
    (h : before ++ (core ++ (after ++ rest)) = before' ++ (core ++ (after' ++ rest'))) :
    rest = rest' := by
  have hdrop (gap : List Char) (hgap : ∀ c ∈ gap, Text.isBlank c = true) {cs : List Char}
      (hcs : ∀ c ∈ cs.head?, Text.isBlank c = false) : Text.dropBlanks (gap ++ cs) = cs := by
    rw [Text.dropBlanks_blanks_append hgap, Text.dropBlanks_eq_self hcs]
  have h' := congrArg Text.dropBlanks h
  rw [Text.dropBlanks_blanks_append hbefore, Text.dropBlanks_blanks_append hbefore'] at h'
  cases core with
  | nil =>
    rwa [List.nil_append, List.nil_append, hdrop _ hafter hrest, hdrop _ hafter' hrest'] at h'
  | cons c core =>
    have hhead (cs : List Char) : ∀ d ∈ (c :: core ++ cs).head?, Text.isBlank d = false := hcore.1
    rw [Text.dropBlanks_eq_self (hhead _), Text.dropBlanks_eq_self (hhead _)] at h'
    have hgaps := congrArg Text.dropBlanks (List.append_cancel_left h')
    rwa [hdrop _ hafter hrest, hdrop _ hafter' hrest'] at hgaps

theorem eq_of_keyword_append_eq {keyword kw kw' rest rest' : List Char}
    (hkw : IsKeyword keyword kw) (hkw' : IsKeyword keyword kw') (h : kw ++ rest = kw' ++ rest') :
    rest = rest' :=
  (List.append_inj h (hkw.length_eq.symm.trans hkw'.length_eq)).2

/-- The text after `then` depends on the condition only. -/
theorem rest_eq_of_trimmed_eq {kw gap condition gap' kw' rest : List Char}
    {kw₂ gap₂ condition₂ gap₂' kw₂' rest₂ : List Char}
    (hkw : IsKeyword ['i', 'f'] kw) (hkw₂ : IsKeyword ['i', 'f'] kw₂) (hgap : IsGap gap)
    (hgap₂ : IsGap gap₂) (hgap' : IsGap gap') (hgap₂' : IsGap gap₂')
    (hkw' : IsKeyword ['t', 'h', 'e', 'n'] kw') (hkw₂' : IsKeyword ['t', 'h', 'e', 'n'] kw₂')
    (hcondition : trimmed condition = trimmed condition₂)
    (h : kw ++ (gap ++ (condition ++ (gap' ++ (kw' ++ rest)))) =
      kw₂ ++ (gap₂ ++ (condition₂ ++ (gap₂' ++ (kw₂' ++ rest₂))))) : rest = rest₂ := by
  have hcore : Text.trimChars condition = Text.trimChars condition₂ := by
    simpa [trimmed] using congrArg String.toList hcondition
  obtain ⟨before, after, hsplit, hbefore, hafter⟩ := Text.exists_eq_blanks_trimChars condition
  obtain ⟨before₂, after₂, hsplit₂, hbefore₂, hafter₂⟩ :=
    Text.exists_eq_blanks_trimChars condition₂
  have hbody := eq_of_keyword_append_eq hkw hkw₂ h
  rw [hsplit, hsplit₂, ← hcore] at hbody
  have hbody' :
      (gap ++ before) ++ (Text.trimChars condition ++ ((after ++ gap') ++ (kw' ++ rest))) =
        (gap₂ ++ before₂) ++
          (Text.trimChars condition ++ ((after₂ ++ gap₂') ++ (kw₂' ++ rest₂))) := by
    simpa only [List.append_assoc] using hbody
  have hafter' := List.forall_mem_append.2 ⟨hafter, hgap'.2⟩
  have hafter₂' := List.forall_mem_append.2 ⟨hafter₂, hgap₂'.2⟩
  exact eq_of_keyword_append_eq hkw' hkw₂' <|
    eq_of_blanks_core_eq (Text.trimmed_trimChars condition) (hgap.append hbefore).2
      (hgap₂.append hbefore₂).2 hafter' hafter₂' (head_of_isKeyword hkw' rfl rest)
      (head_of_isKeyword hkw₂' rfl rest₂) hbody'

theorem trimmed_first_ne_empty_of_split {cs condition first condition' first' : List Char}
    {second second' : Option (List Char)} (h : parts cs = some (condition, first, second))
    (hsplit : Split cs condition' first' second')
    (hcondition : trimmed condition' = trimmed condition) (hne : trimmed first' ≠ "") :
    trimmed first ≠ "" := by
  obtain ⟨kw, gap, gap', kw', rest, hkw, hgap, -, hgap', hkw', hcs, hrest⟩ := exists_of_parts h
  cases hsplit with
  | mk hkw₂ hgap₂ _ hgap₂' hkw₂' hgap₂'' hbranches =>
    rw [rest_eq_of_trimmed_eq hkw hkw₂ hgap hgap₂ hgap' hgap₂' hkw' hkw₂' hcondition.symm hcs.symm]
      at hrest
    exact trimmed_first_ne_empty hgap₂'' hrest hbranches hne

/-! ## Where nothing is left of a part -/

/-- Only blanks stand between two keywords, the first of which comes after `before`, and there are
three or more of them. -/
def Apart (before keyword keyword' cs : List Char) : Prop :=
  ∃ kw gap kw' after, cs = before ++ (kw ++ (gap ++ (kw' ++ after))) ∧ IsKeyword keyword kw ∧
    IsKeyword keyword' kw' ∧ (∀ c ∈ gap, Text.isBlank c = true) ∧ 3 ≤ gap.length

/-- A blank part is a blank between two others. -/
theorem apart_of_blank (before : List Char)
    {keyword keyword' kw gap part gap' kw' after : List Char}
    (hkw : IsKeyword keyword kw) (hgap : IsGap gap) (hpart : part ≠ []) (hempty : trimmed part = "")
    (hgap' : IsGap gap') (hkw' : IsKeyword keyword' kw') :
    Apart before keyword keyword'
      (before ++ (kw ++ (gap ++ (part ++ (gap' ++ (kw' ++ after)))))) := by
  refine ⟨kw, gap ++ (part ++ gap'), kw', after, by simp, hkw, hkw', ?_, ?_⟩
  · exact List.forall_mem_append.2
      ⟨hgap.2, List.forall_mem_append.2 ⟨trimmed_eq_empty_iff.1 hempty, hgap'.2⟩⟩
  · have h1 := List.length_pos_of_ne_nil hgap.1
    have h2 := List.length_pos_of_ne_nil hpart
    have h3 := List.length_pos_of_ne_nil hgap'.1
    simp only [List.length_append]
    omega

/-- The part at the end of a trimmed line is not blank. -/
theorem trimmed_ne_empty_of_suffix {cs part : List Char} (hcs : Text.Trimmed cs)
    (hsuffix : part <:+ cs) (hne : part ≠ []) : trimmed part ≠ "" := by
  obtain ⟨before, rfl⟩ := hsuffix
  rw [ne_eq, trimmed_eq_empty_iff]
  intro hblank
  have hlast := hcs.2 (part.getLast hne) (by
    rw [List.getLast?_append_of_ne_nil _ hne, List.getLast?_eq_some_getLast hne]; rfl)
  rw [hblank _ (List.getLast_mem hne)] at hlast
  cases hlast

section

variable {cs condition first : List Char} {second : Option (List Char)}

theorem Branches.suffix (h : Branches cs first second) : second.getD first <:+ cs := by
  cases h with
  | alone => exact List.suffix_refl _
  | @both first gap kw gap' second =>
    exact ⟨first ++ (gap ++ (kw ++ gap')), by simp⟩

theorem Branches.getD_ne_nil (h : Branches cs first second) : second.getD first ≠ [] := by
  cases h with
  | alone hfirst => exact hfirst.1
  | both _ _ _ _ hsecond => exact hsecond.1

theorem Split.last_ne_empty (h : Split cs condition first second) (hcs : Text.Trimmed cs) :
    trimmed (second.getD first) ≠ "" := by
  cases h with
  | mk _ _ _ _ _ _ hrest =>
    refine trimmed_ne_empty_of_suffix hcs (hrest.suffix.trans ?_) hrest.getD_ne_nil
    simp only [← List.append_assoc]
    exact List.suffix_append _ _

theorem Split.apart_of_condition (h : Split cs condition first second)
    (hempty : trimmed condition = "") : Apart [] ['i', 'f'] ['t', 'h', 'e', 'n'] cs := by
  cases h with
  | mk hkw hgap hcondition hgap' hkw' =>
    exact apart_of_blank [] hkw hgap hcondition.1 hempty hgap' hkw'

theorem Split.apart_of_first (h : Split cs condition first second) (hcs : Text.Trimmed cs)
    (hempty : trimmed first = "") :
    second.isSome ∧ ∃ before, Apart before ['t', 'h', 'e', 'n'] ['e', 'l', 's', 'e'] cs := by
  have hlast := h.last_ne_empty hcs
  cases h with
  | @mk kw gap condition gap' kw' gap'' rest first second _ _ _ _ hkw' hgap'' hrest =>
    cases hrest with
    | alone => exact absurd hempty hlast
    | both hfirst hgap₂ hkw₂ =>
      refine ⟨rfl, kw ++ (gap ++ (condition ++ gap')), ?_⟩
      simpa only [List.append_assoc] using apart_of_blank (kw ++ (gap ++ (condition ++ gap')))
        hkw' hgap'' hfirst.1 hempty hgap₂ hkw₂

end

/-! ## What is read -/

theorem exists_of_parse? {line : String} {c : Conditional} (h : parse? line = some c) :
    ∃ condition first second,
      parts (Text.trimChars line.toList) = some (condition, first, second) ∧
      c = ⟨trimmed condition, trimmed first, second.map trimmed⟩ := by
  obtain ⟨⟨condition, first, second⟩, hparts, rfl⟩ := Option.map_eq_some_iff.1 h
  exact ⟨condition, first, second, hparts, rfl⟩

theorem exists_parse?_iff (line : String) :
    (∃ c, parse? line = some c) ↔ ∃ d, Reads line d := by
  constructor
  · rintro ⟨c, h⟩
    obtain ⟨condition, first, second, hparts, hc⟩ := exists_of_parse? h
    exact ⟨c, condition, first, second, parts_sound hparts, hc⟩
  · rintro ⟨d, condition, first, second, hsplit, -⟩
    obtain ⟨found, hfound⟩ := Option.ne_none_iff_exists'.1 (parts_ne_none hsplit)
    exact ⟨_, congrArg (Option.map _) hfound⟩

/-- **Text is preferred to blanks.** A line is read if it has a reading. The condition of the
reading chosen is empty only if that of each reading is, and then three blanks or more stand between
`if` and `then`; the first command is empty only if it is so in each reading with this condition,
and then three blanks or more stand between `then` and `else`. The second command is not empty. -/
theorem parse?_prefers_text (line : String) :
    ((∃ c, parse? line = some c) ↔ ∃ d, Reads line d) ∧
    ∀ c, parse? line = some c →
      Reads line c ∧ c.elseBranch ≠ some "" ∧
      (c.condition = "" ↔ ∀ d, Reads line d → d.condition = "") ∧
      (c.thenBranch = "" ↔
        ∀ d, Reads line d → d.condition = c.condition → d.thenBranch = "") ∧
      (c.condition = "" →
        Apart [] ['i', 'f'] ['t', 'h', 'e', 'n'] (Text.trimChars line.toList)) ∧
      (c.thenBranch = "" → c.elseBranch.isSome ∧
        ∃ before, Apart before ['t', 'h', 'e', 'n'] ['e', 'l', 's', 'e']
          (Text.trimChars line.toList)) := by
  refine ⟨exists_parse?_iff line, fun c h => ?_⟩
  obtain ⟨condition, first, second, hparts, rfl⟩ := exists_of_parse? h
  have hsplit := parts_sound hparts
  have hreads : Reads line ⟨trimmed condition, trimmed first, second.map trimmed⟩ :=
    ⟨condition, first, second, hsplit, rfl⟩
  have htrimmed := Text.trimmed_trimChars line.toList
  refine ⟨hreads, ?_, ⟨fun hempty => ?_, fun hall => hall _ hreads⟩,
    ⟨fun hempty => ?_, fun hall => hall _ hreads rfl⟩, hsplit.apart_of_condition, fun hempty => ?_⟩
  · have hlast := hsplit.last_ne_empty htrimmed
    cases second with
    | none => simp
    | some second => simpa using hlast
  · rintro d ⟨condition', first', second', hsplit', rfl⟩
    exact by_contra fun hne => trimmed_condition_ne_empty hparts hsplit' hne hempty
  · rintro d ⟨condition', first', second', hsplit', rfl⟩ hcondition
    exact by_contra fun hne =>
      trimmed_first_ne_empty_of_split hparts hsplit' hcondition hne hempty
  · rw [Option.isSome_map]
    exact hsplit.apart_of_first htrimmed hempty

/-- Commands hold no line feed, so the line feed after `else` keeps `else` out of the first command,
and a blank passes for it. -/
theorem parse?_prefers_text_else_feed :
    parse? "if heat then \t  else\nb" = some ⟨"heat", "", some "b"⟩ ∧
      ∃ before, Apart before ['t', 'h', 'e', 'n'] ['e', 'l', 's', 'e']
        (Text.trimChars "if heat then \t  else\nb".toList) := by
  have h : parse? "if heat then \t  else\nb" = some ⟨"heat", "", some "b"⟩ := by decide
  exact ⟨h, (((parse?_prefers_text _).2 _ h).2.2.2.2.2 rfl).2⟩

/-- **A line without a condition**, and one without a first command, are read or refused according
to the number of blanks. -/
theorem parse?_counts_blanks :
    parse? "if   then a" = some ⟨"", "a", none⟩ ∧ parse? "if  then a" = none ∧
      parse? "if true then   else\nb" = some ⟨"true", "", some "b"⟩ ∧
      parse? "if true then  else\nb" = none := by
  decide

end StreetConsole.Conditional
