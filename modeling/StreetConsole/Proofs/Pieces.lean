import StreetConsole.Text.Blank

/-!
# Pieces of a text

A text is cut at all characters of some kind, and `pieces` are the parts between them that are not
empty: the words of a text are its pieces between blanks. All that is lost are the characters at
which it is cut (`flatten_pieces`).

If it is cut at one character only, the empty parts kept, nothing is lost: the parts with that
character between them are the text again (`intercalate_splitAt`), and parts that do not have the
character in them are found again (`splitAt_of_toList_eq`).
-/

namespace StreetConsole.Text

variable {p : Char → Bool} {c : Char} {cs : List Char}

theorem splitWhere_eq_splitOnP (p : Char → Bool) (cs : List Char) :
    splitWhere p cs = cs.splitOnP p := by
  induction cs with
  | nil => simp [splitWhere]
  | cons c cs ih => rw [splitWhere, ih, List.splitOnP_cons_eq_if_modifyHead]

theorem splitWhere_ne_nil (p : Char → Bool) (cs : List Char) : splitWhere p cs ≠ [] := by
  rw [splitWhere_eq_splitOnP]
  exact List.splitOnP_ne_nil p cs

/-- The parts of a text between the characters that satisfy `p`, empty ones left out. -/
def pieces (p : Char → Bool) (cs : List Char) : List (List Char) :=
  (splitWhere p cs).filter (! ·.isEmpty)

theorem wordsOf_eq_pieces (cs : List Char) : wordsOf cs = pieces isBlank cs := rfl

/-- A character that satisfies `p` cuts the text in two. -/
theorem pieces_append_cons (before : List Char) (hc : p c = true) (after : List Char) :
    pieces p (before ++ c :: after) = pieces p before ++ pieces p after := by
  simp only [pieces, splitWhere_eq_splitOnP, List.splitOnP_append_cons before after hc,
    List.filter_append]

theorem pieces_cons (hc : p c = true) (cs : List Char) : pieces p (c :: cs) = pieces p cs :=
  pieces_append_cons [] hc cs

theorem pieces_append {gap : List Char} (hgap : ∀ c ∈ gap, p c = true) (cs : List Char) :
    pieces p (gap ++ cs) = pieces p cs := by
  induction gap with
  | nil => rfl
  | cons c gap ih =>
    rw [List.cons_append, pieces_cons (hgap c List.mem_cons_self),
      ih fun d hd => hgap d (List.mem_cons_of_mem c hd)]

/-- A text that is not cut anywhere is its only piece. -/
theorem pieces_eq_singleton (hcs : ∀ c ∈ cs, p c = false) (hne : cs ≠ []) : pieces p cs = [cs] := by
  rw [pieces, splitWhere_eq_splitOnP, List.splitOnP_eq_singleton hcs]
  simpa using hne

/-- The pieces hold all the characters that do not satisfy `p`, in their order. -/
theorem flatten_pieces (p : Char → Bool) (cs : List Char) :
    (pieces p cs).flatten = cs.filter (! p ·) := by
  rw [pieces, List.flatten_filter_not_isEmpty]
  induction cs with
  | nil => rfl
  | cons c cs ih =>
    by_cases hc : p c
    · simp [splitWhere, hc, ih]
    · rw [splitWhere, if_neg hc, List.filter_cons_of_pos (by simpa using hc), ← ih]
      obtain ⟨first, rest, hfirst⟩ := List.exists_cons_of_ne_nil (splitWhere_ne_nil p cs)
      simp [hfirst]

theorem of_mem_pieces {w : List Char} (hw : w ∈ pieces p cs) (hc : c ∈ w) : p c = false := by
  have hmem : c ∈ (pieces p cs).flatten := List.mem_flatten.2 ⟨w, hw, hc⟩
  rw [flatten_pieces] at hmem
  simpa using (List.mem_filter.1 hmem).2

/-- A text without pieces has nothing but characters at which it is cut. -/
theorem of_pieces_eq_nil (h : pieces p cs = []) : ∀ c ∈ cs, p c = true := by
  have hnone : cs.filter (! p ·) = [] := by rw [← flatten_pieces, h, List.flatten_nil]
  intro c hc
  simpa using List.filter_eq_nil_iff.1 hnone c hc

/-- **A text with one piece is that piece, with characters around it at which it is cut.** -/
theorem exists_of_pieces_eq_singleton {w : List Char} (h : pieces p cs = [w]) :
    ∃ lead trail, cs = lead ++ (w ++ trail) ∧ (∀ c ∈ lead, p c = true) ∧
      ∀ c ∈ trail, p c = true := by
  induction cs with
  | nil => cases h
  | cons c cs ih =>
    by_cases hc : p c = true
    · rw [pieces_cons hc] at h
      obtain ⟨lead, trail, hcs, hlead, htrail⟩ := ih h
      exact ⟨c :: lead, trail, by rw [hcs, List.cons_append],
        List.forall_mem_cons.2 ⟨hc, hlead⟩, htrail⟩
    · -- The piece begins here, and ends in front of the first character at which the text is cut.
      have hfront : ∀ d ∈ (c :: cs).takeWhile (! p ·), p d = false := fun d hd => by
        simpa using List.all_eq_true.1 List.all_takeWhile d hd
      have hne : (c :: cs).takeWhile (! p ·) ≠ [] := by
        rw [List.takeWhile_cons_of_pos (by simpa using hc)]
        exact List.cons_ne_nil _ _
      have hsplit : (c :: cs).takeWhile (! p ·) ++ (c :: cs).dropWhile (! p ·) = c :: cs :=
        List.takeWhile_append_dropWhile
      cases hrest : (c :: cs).dropWhile (! p ·) with
      | nil =>
        rw [hrest, List.append_nil] at hsplit
        rw [hsplit] at hfront hne
        rw [pieces_eq_singleton hfront hne] at h
        exact ⟨[], [], by simpa using h, by simp, by simp⟩
      | cons d rest =>
        have hd : p d = true := by
          have hhead := List.head?_dropWhile_not (! p ·) (c :: cs)
          simpa [hrest] using hhead
        rw [hrest] at hsplit
        rw [← hsplit, pieces_append_cons _ hd, pieces_eq_singleton hfront hne,
          List.singleton_append, List.cons.injEq] at h
        refine ⟨[], d :: rest, ?_, by simp, List.forall_mem_cons.2 ⟨hd, of_pieces_eq_nil h.2⟩⟩
        rw [List.nil_append, ← h.1, hsplit]

/-! ## Cutting at one character -/

variable {sep : Char} {s part : String} {parts : List String}

theorem splitAt_eq_splitOn (sep : Char) (s : String) :
    splitAt sep s = (s.toList.splitOn sep).map String.ofList := by
  rw [splitAt, splitWhere_eq_splitOnP]
  rfl

theorem splitAt_ne_nil (sep : Char) (s : String) : splitAt sep s ≠ [] := by
  simpa [splitAt] using splitWhere_ne_nil (· == sep) s.toList

theorem not_mem_of_mem_splitAt (h : part ∈ splitAt sep s) : sep ∉ part.toList := by
  obtain ⟨cs, hcs, rfl⟩ := List.mem_map.1 h
  rw [String.toList_ofList]
  intro hsep
  have hpiece : cs ∈ pieces (· == sep) s.toList :=
    List.mem_filter.2 ⟨hcs, by simpa using List.ne_nil_of_mem hsep⟩
  simpa using of_mem_pieces hpiece hsep

theorem intercalate_splitAt (sep : Char) (s : String) :
    [sep].intercalate ((splitAt sep s).map String.toList) = s.toList := by
  rw [splitAt_eq_splitOn, List.map_map]
  simp [Function.comp_def, List.intercalate_splitOn]

theorem splitAt_of_toList_eq (hne : parts ≠ []) (hparts : ∀ part ∈ parts, sep ∉ part.toList)
    (hs : s.toList = [sep].intercalate (parts.map String.toList)) : splitAt sep s = parts := by
  have hmap : ∀ cs ∈ parts.map String.toList, sep ∉ cs := by simpa using hparts
  rw [splitAt_eq_splitOn, hs, List.splitOn_intercalate sep hmap (by simpa using hne)]
  simp [Function.comp_def]

end StreetConsole.Text
