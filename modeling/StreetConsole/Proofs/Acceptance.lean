import StreetConsole.Proofs.Suggestions

/-!
# Accepting a suggestion

A suggestion says how many characters in front of the cursor its name takes the place of. It is
meant to go on with the word that is being typed: what it replaces should be the beginning of the
name, so that nothing of the line is lost.

**Theorem (`suggestions_extend_iff`).** This is so exactly if nothing is replaced, or the text in
front of the cursor does not end with a blank.

The name does begin with the word that was typed. But the number of characters is counted from the
cursor, and a word counts as ended after a space only. If it has been ended by a blank of another
kind, such as a tab, the word is still completed, and what is replaced is not the word, but the
blanks and a part of it (`exists_completes`). So the name comes after a piece of the
word, and the blanks are lost.
-/

namespace StreetConsole.Completion

variable {commands filters : List String} {text : String} {segment word : List Char}
  {s : Suggestion}

/-! ## The word that is completed -/

/-- The text ends with a word that the suggestion completes, and blanks after it. -/
structure Completes (s : Suggestion) (text front word blanks : List Char) : Prop where
  text_eq : text = front ++ (word ++ blanks)
  length_word : word.length = s.replaced
  /-- The name begins with the word. -/
  begins : word <+: s.name.toList
  isBlank_word : ∀ c ∈ word, Text.isBlank c = false
  isBlank_blanks : ∀ c ∈ blanks, Text.isBlank c = true
  /-- No word is completed after a space. -/
  getLast?_ne_space : blanks.getLast? ≠ some ' '
  /-- Where there is no word yet, what stands at the end is no part of it. -/
  blanks_eq_nil : word = [] → blanks = []

/-- The word to be completed stands in the segment, with blanks around it, the last of which is no
space. Where there is no word yet, nothing is taken for it. -/
theorem exists_of_wordToComplete? (h : wordToComplete? segment = some word) :
    ∃ front blanks, segment = front ++ (word ++ blanks) ∧ (∀ c ∈ word, Text.isBlank c = false) ∧
      (∀ c ∈ blanks, Text.isBlank c = true) ∧ blanks.getLast? ≠ some ' ' ∧
      (word = [] → blanks = []) := by
  unfold wordToComplete? at h
  split at h
  · cases h
    exact ⟨segment, [], by simp, by simp, by simp, by simp, fun _ => rfl⟩
  · next w hwords =>
    split at h
    · cases h
    · next hspace =>
      cases h
      rw [Text.wordsOf_eq_pieces] at hwords
      have hmem : word ∈ Text.pieces Text.isBlank segment := by simp [hwords]
      have hword : word ≠ [] := by simpa using (List.mem_filter.1 hmem).2
      obtain ⟨lead, trail, hsegment, -, htrail⟩ := Text.exists_of_pieces_eq_singleton hwords
      refine ⟨lead, trail, hsegment, fun c hc => Text.of_mem_pieces hmem hc, htrail, ?_,
        fun hnil => absurd hnil hword⟩
      intro hlast
      apply hspace
      rw [hsegment, List.getLast?_append, List.getLast?_append, hlast]
      rfl
  · cases h

/-- The segment stands at the end of the text. -/
theorem exists_eq_append_segment {last : Option Token}
    (h : lastOperator none text.toList text.toList = (last, segment)) :
    ∃ front, text.toList = front ++ segment := by
  rcases lastOperator_cases none text.toList text.toList with
    hnone | ⟨before, t, rest, htext, hsome⟩
  · rw [hnone, Prod.mk.injEq] at h
    exact ⟨[], by rw [h.2, List.nil_append]⟩
  · rw [hsome, Prod.mk.injEq] at h
    exact ⟨before ++ t.spelling.toList, by rw [List.append_assoc, ← h.2, htext]⟩

/-- **What is in front of the cursor when a name is offered**: a word with which the name begins, as
long as what is to be replaced, and blanks after it, the last of which is no space. -/
theorem exists_completes (hs : s ∈ suggestions commands filters text) :
    ∃ front word blanks, Completes s text.toList front word blanks := by
  rcases hfound : lastOperator none text.toList text.toList with ⟨last, segment⟩
  obtain ⟨before, htext⟩ := exists_eq_append_segment hfound
  rw [suggestions_eq hfound] at hs
  split at hs
  · cases hs
  · next word hword =>
    obtain ⟨front, blanks, hsegment, hword, hblanks, hspace, hempty⟩ :=
      exists_of_wordToComplete? hword
    obtain ⟨name, hname, rfl⟩ := List.mem_map.1 hs
    have hbegins : word <+: name.toList := by simpa using (List.mem_filter.1 hname).2
    have htext : text.toList = (before ++ front) ++ (word ++ blanks) := by
      rw [htext, hsegment, List.append_assoc]
    exact ⟨before ++ front, word, blanks, htext, rfl, hbegins, hword, hblanks, hspace, hempty⟩

/-! ## What is replaced -/

/-- The characters that a suggestion takes the place of: the last ones of the text. -/
def replacedIn (text : List Char) (s : Suggestion) : List Char :=
  text.drop (text.length - s.replaced)

/-- The characters of the line after a suggestion has been accepted at the cursor. -/
def accept (line : List Char) (cursor : Nat) (s : Suggestion) : List Char :=
  let text := line.take cursor
  text.take (text.length - s.replaced) ++ (s.name.toList ++ line.drop cursor)

/-- The text in front of the cursor. -/
def beforeCursor (line : String) (cursor : Nat) : String := String.ofList (line.toList.take cursor)

namespace Completes

variable {text front word blanks : List Char}

theorem length_text (h : Completes s text front word blanks) :
    text.length = front.length + (s.replaced + blanks.length) := by
  rw [h.text_eq, List.length_append, List.length_append, h.length_word]

theorem length_replacedIn (h : Completes s text front word blanks) :
    (replacedIn text s).length = s.replaced := by
  have hlength := h.length_text
  rw [replacedIn, List.length_drop]
  omega

/-- If there are blanks, the text ends with one. -/
theorem getLast?_text (h : Completes s text front word blanks) (hne : blanks ≠ []) :
    text.getLast? = blanks.getLast? := by
  rw [h.text_eq, ← List.append_assoc, List.getLast?_append_of_ne_nil _ hne]

/-- What is replaced begins the name only if it is the word, which is as long. -/
theorem replacedIn_begins_iff (h : Completes s text front word blanks) :
    replacedIn text s <+: s.name.toList ↔ replacedIn text s = word := by
  have hlength : (replacedIn text s).length = word.length := by
    rw [h.length_replacedIn, h.length_word]
  constructor
  · intro hbegins
    exact (List.prefix_of_prefix_length_le hbegins h.begins hlength.le).eq_of_length hlength
  · intro hsame
    rw [hsame]
    exact h.begins

/-- The word itself is replaced exactly if nothing follows it. -/
theorem replacedIn_eq_word_iff (h : Completes s text front word blanks) :
    replacedIn text s = word ↔ blanks = [] := by
  have hlength := h.length_text
  constructor
  · intro hsame
    by_contra hne
    have hword : word ≠ [] := fun hnil => hne (h.blanks_eq_nil hnil)
    have hpos : 0 < s.replaced := by
      rw [← h.length_word]
      exact List.length_pos_of_ne_nil hword
    -- What is replaced ends as the text does, with a blank, and the word does not.
    have hend : word.getLast? = blanks.getLast? := by
      rw [← hsame, replacedIn, List.getLast?_drop, if_neg (by omega), h.getLast?_text hne]
    have hmem : blanks.getLast hne ∈ word := by
      apply List.mem_of_getLast?
      rw [hend, List.getLast?_eq_some_getLast hne]
    have hblank := h.isBlank_blanks _ (List.getLast_mem hne)
    rw [h.isBlank_word _ hmem] at hblank
    cases hblank
  · intro hnil
    have hdrop : text.length - s.replaced = front.length := by
      rw [hlength, hnil, List.length_nil]
      omega
    rw [replacedIn, hdrop, h.text_eq, hnil, List.append_nil, List.drop_left]

/-- The word has blanks after it exactly if there is one and the text ends with a blank. -/
theorem blanks_eq_nil_iff (h : Completes s text front word blanks) :
    blanks = [] ↔ s.replaced = 0 ∨ ∀ c ∈ text.getLast?, Text.isBlank c = false := by
  constructor
  · intro hnil
    by_cases hword : word = []
    · left
      rw [← h.length_word, hword, List.length_nil]
    · right
      intro c hc
      rw [h.text_eq, hnil, List.append_nil, List.getLast?_append_of_ne_nil _ hword] at hc
      exact h.isBlank_word c (List.mem_of_getLast? hc)
  · intro hend
    by_contra hne
    rcases hend with hzero | hlast
    · rw [← h.length_word] at hzero
      exact hne (h.blanks_eq_nil (List.length_eq_zero_iff.1 hzero))
    · have hc : blanks.getLast hne ∈ text.getLast? := by
        rw [h.getLast?_text hne, List.getLast?_eq_some_getLast hne]
        rfl
      have hblank := h.isBlank_blanks _ (List.getLast_mem hne)
      rw [hlast _ hc] at hblank
      cases hblank

end Completes

/-- **A line keeps what stands in front of the cursor exactly if what is replaced begins the
name.** -/
theorem before_accept_iff {line front word blanks : List Char} {cursor : Nat}
    (h : Completes s (line.take cursor) front word blanks) :
    line.take cursor <+: accept line cursor s ↔
      replacedIn (line.take cursor) s <+: s.name.toList := by
  have hcut := List.take_append_drop ((line.take cursor).length - s.replaced) (line.take cursor)
  have hfits : (replacedIn (line.take cursor) s).length ≤ s.name.toList.length := by
    rw [h.length_replacedIn, ← h.length_word]
    exact h.begins.length_le
  rw [accept]
  constructor
  · intro hkept
    nth_rewrite 1 [← hcut] at hkept
    rw [List.prefix_append_right_inj] at hkept
    exact List.prefix_of_prefix_length_le hkept (List.prefix_append _ _) hfits
  · intro hbegins
    nth_rewrite 1 [← hcut]
    rw [List.prefix_append_right_inj]
    exact hbegins.trans (List.prefix_append _ _)

/-- **When a suggestion only extends the word that is being typed.** For every line, every place of
the cursor and every name that is offered there: the characters that it takes the place of are the
beginning of the name, and accepting it keeps all that stands in front of the cursor, exactly if
none are replaced or the text in front of the cursor does not end with a blank. Such a blank is
never a space. -/
theorem suggestions_extend_iff {commands filters : List String} {line : String} {cursor : Nat}
    {s : Suggestion} (hs : s ∈ suggestions commands filters (beforeCursor line cursor)) :
    let text := line.toList.take cursor
    (text.drop (text.length - s.replaced) <+: s.name.toList ↔
      s.replaced = 0 ∨ ∀ c ∈ text.getLast?, Text.isBlank c = false) ∧
    (text <+: accept line.toList cursor s ↔
      s.replaced = 0 ∨ ∀ c ∈ text.getLast?, Text.isBlank c = false) ∧
    (s.replaced ≠ 0 → text.getLast? ≠ some ' ') := by
  intro text
  obtain ⟨front, word, blanks, h⟩ := exists_completes hs
  rw [beforeCursor, String.toList_ofList] at h
  have hbegins : replacedIn text s <+: s.name.toList ↔
      s.replaced = 0 ∨ ∀ c ∈ text.getLast?, Text.isBlank c = false := by
    rw [h.replacedIn_begins_iff, h.replacedIn_eq_word_iff, h.blanks_eq_nil_iff]
  refine ⟨hbegins, (before_accept_iff h).trans hbegins, fun hreplaced hspace => ?_⟩
  by_cases hnil : blanks = []
  · have hblank := (h.blanks_eq_nil_iff.1 hnil).resolve_left hreplaced ' ' hspace
    cases hblank
  · rw [h.getLast?_text hnil] at hspace
    exact h.getLast?_ne_space hspace

/-- A pipe and the beginning of a word, with the cursor in front of a space: `grep` goes on with the
word, and the rest of the line stays behind it. -/
theorem suggestions_extend_iff_grep :
    let line := "echo x | gr y"
    let s : Suggestion := ⟨"grep", 2, .filter⟩
    s ∈ suggestions ["echo"] ["grep"] (beforeCursor line 11) ∧
    ['g', 'r'] <+: s.name.toList ∧ "echo x | gr".toList <+: accept line.toList 11 s ∧
    accept line.toList 11 s = "echo x | grep y".toList := by
  intro line s
  have hs : s ∈ suggestions ["echo"] ["grep"] (beforeCursor line 11) := by decide +kernel
  have htext : line.toList.take 11 = "echo x | gr".toList := by decide +kernel
  have hdrop : "echo x | gr".toList.drop ("echo x | gr".toList.length - s.replaced) =
      ['g', 'r'] := by
    decide +kernel
  have hlast : "echo x | gr".toList.getLast? = some 'r' := by decide +kernel
  have hend : s.replaced = 0 ∨ ∀ c ∈ "echo x | gr".toList.getLast?, Text.isBlank c = false := by
    refine Or.inr fun c hc => ?_
    rw [hlast] at hc
    cases hc
    decide
  obtain ⟨hbegins, hkept, -⟩ := suggestions_extend_iff hs
  rw [htext] at hbegins hkept
  rw [hdrop] at hbegins
  exact ⟨hs, hbegins.2 hend, hkept.2 hend, by decide +kernel⟩

/-- After a tab the word is still completed. What is replaced is the tab and the end of the word. -/
theorem suggestions_after_tab :
    let line := "ec\t"
    let s : Suggestion := ⟨"echo", 2, .command⟩
    suggestions ["echo"] ["grep"] (beforeCursor line 3) = [s] ∧
    replacedIn line.toList s = ['c', '\t'] ∧ ¬ replacedIn line.toList s <+: s.name.toList ∧
    accept line.toList 3 s = "eecho".toList ∧
    suggestions ["echo"] ["grep"] "ec " = [] := by
  decide +kernel

end StreetConsole.Completion
