import StreetConsole.Completion
import StreetConsole.Proofs.Pieces
import StreetConsole.Proofs.Tokens

/-!
# Suggestions follow the tokens

Two scanners read the text in front of the cursor. The completion looks for the last operator only
and pays no attention to quotes; `tokenize` cuts the text into words and operators.

**Theorem (`suggestions_follow_tokens`).** Where there are no quotes, both find the same last
operator, and what follows it is the word at the end of the token list. So filters are offered after
a pipe and commands otherwise, and to a word that has not been ended all names that begin with it are
offered, each of them once and in order.

The two scanners take the same steps (`lastOperator_induction`): they pass a character, or they find
an operator. The characters that `scan` has gathered for its current word are those that
`lastOperator` has passed since the last operator, so at the end both stand at the end of the same
segment (`exists_scan_eq_flush_segment`).
-/

namespace StreetConsole.Completion

open Token (scan flush isQuote)

variable {last : Option Token} {after cs segment : List Char} {names : List String}

/-! ## The last operator -/

/-- **Both scanners take the same steps**, as long as there are no quotes. -/
theorem lastOperator_induction {motive : List Char → Prop} (nil : motive [])
    (passes : ∀ c cs,
      (∀ last after, lastOperator last after (c :: cs) = lastOperator last after cs) →
      (isQuote c = false → ∀ current, scan none current (c :: cs) = scan none (c :: current) cs) →
      motive cs → motive (c :: cs))
    (finds : ∀ t cs, Token.isWord t = false →
      (∀ last after,
        lastOperator last after (t.spelling.toList ++ cs) = lastOperator (some t) cs cs) →
      (∀ current, scan none current (t.spelling.toList ++ cs) =
        flush current ++ t :: scan none [] cs) →
      motive cs → motive (t.spelling.toList ++ cs))
    (cs : List Char) : motive cs := by
  induction (none : Option Token), ([] : List Char), cs using lastOperator.induct with
  | case1 => exact nil
  | case2 _ _ cs ih => exact finds (.op .and) cs rfl (fun _ _ => rfl) (fun _ => rfl) ih
  | case3 _ _ cs ih => exact finds (.op .or) cs rfl (fun _ _ => rfl) (fun _ => rfl) ih
  | case4 _ _ cs ih => exact finds (.op .sequence) cs rfl (fun _ _ => rfl) (fun _ => rfl) ih
  | case5 _ _ cs hcs ih =>
    -- A second bar would make another operator of it.
    refine finds .pipe cs rfl (fun last after => ?_) (fun current => ?_) ih
    · show lastOperator last after ('|' :: cs) = _
      rw [lastOperator]
      exact hcs
    · refine Token.scan_spelling (t := .pipe) rfl current fun c hc hpipe => ?_
      obtain ⟨ds, hds⟩ := List.head?_eq_some_iff.1 hc
      exact hcs ds (hpipe ▸ hds)
  | case6 _ _ c cs hand hor hsequence hpipe ih =>
    refine passes c cs (fun last after => ?_) (fun hquote current => ?_) ih
    · rw [lastOperator] <;> assumption
    · rw [Token.scan_turn_none hand hpipe hsequence]
      simp [Token.turn, Token.taken, hquote]

/-- What `lastOperator` finds is spelled in the text right in front of the segment; if it finds
nothing, what it was given stands. -/
theorem lastOperator_cases (last : Option Token) (after cs : List Char) :
    lastOperator last after cs = (last, after) ∨
      ∃ before t segment, cs = before ++ (t.spelling.toList ++ segment) ∧
        lastOperator last after cs = (some t, segment) := by
  induction cs using lastOperator_induction generalizing last after with
  | nil => exact Or.inl rfl
  | passes c cs hstep _ ih =>
    rw [hstep]
    rcases ih last after with h | ⟨before, t, segment, hcs, h⟩
    · exact Or.inl h
    · exact Or.inr ⟨c :: before, t, segment, by rw [hcs, List.cons_append], h⟩
  | finds t cs _ hstep _ ih =>
    rw [hstep]
    rcases ih (some t) cs with h | ⟨before, u, segment, hcs, h⟩
    · exact Or.inr ⟨[], t, cs, rfl, h⟩
    · exact Or.inr ⟨t.spelling.toList ++ before, u, segment, by rw [hcs, List.append_assoc], h⟩

/-- **Both scanners end in the same segment.** The tokens are those up to the last operator, and the
word that the segment after it becomes. -/
theorem exists_scan_eq_flush_segment (hcs : ∀ c ∈ cs, isQuote c = false) (last : Option Token)
    (current : List Char) :
    ∃ closed, (∀ t ∈ closed.getLast?, Token.isWord t = false) ∧
      (lastOperator last (current.reverse ++ cs) cs).1 = closed.getLast?.or last ∧
      scan none current cs =
        closed ++ flush (lastOperator last (current.reverse ++ cs) cs).2.reverse := by
  induction cs using lastOperator_induction generalizing last current with
  | nil => exact ⟨[], by simp, rfl, by simp [scan, lastOperator]⟩
  | passes c cs hstep hscan ih =>
    have hcurrent : current.reverse ++ c :: cs = (c :: current).reverse ++ cs := by simp
    rw [hstep, hscan (hcs c List.mem_cons_self), hcurrent]
    exact ih (fun d hd => hcs d (List.mem_cons_of_mem c hd)) last (c :: current)
  | finds t cs ht hstep hscan ih =>
    obtain ⟨closed, hlast, hop, hword⟩ :=
      ih (fun d hd => hcs d (List.mem_append_right _ hd)) (some t) []
    rw [List.reverse_nil, List.nil_append] at hop hword
    have hend : (flush current ++ t :: closed).getLast? = some (closed.getLast?.getD t) := by
      rw [List.getLast?_append_of_ne_nil _ (List.cons_ne_nil t closed), List.getLast?_cons]
    refine ⟨flush current ++ t :: closed, ?_, ?_, ?_⟩
    · rw [hend]
      rintro u ⟨⟩
      cases hclosed : closed.getLast? with
      | none => exact ht
      | some v => exact hlast v hclosed
    · rw [hstep, hop, hend]
      cases closed.getLast? <;> rfl
    · rw [hstep, hscan, hword, List.append_assoc, List.cons_append]

/-- The last of the tokens that are no words. -/
def lastOperatorToken? (ts : List Token) : Option Token := (ts.filter (! ·.isWord)).getLast?

theorem lastOperatorToken?_append_flush {closed : List Token} (current : List Char)
    (hclosed : ∀ t ∈ closed.getLast?, Token.isWord t = false) :
    lastOperatorToken? (closed ++ flush current) = closed.getLast? := by
  have hflush : (flush current).filter (! ·.isWord) = [] := by
    rcases Token.flush_cases current with h | ⟨w, -, h⟩ <;> simp [h, Token.isWord]
  rw [lastOperatorToken?, List.filter_append, hflush, List.append_nil]
  rcases List.eq_nil_or_concat closed with rfl | ⟨front, t, rfl⟩
  · rfl
  · have ht : t.isWord = false := hclosed t (by simp)
    simp [List.filter_append, ht]

/-- The word that the list ends in is the one of the segment. -/
theorem getLast?_append_flush_eq_some_word {closed : List Token} {w : String}
    (hclosed : ∀ t ∈ closed.getLast?, Token.isWord t = false) :
    (closed ++ flush segment.reverse).getLast? = some (.word w) ↔
      w ≠ "" ∧ w = Text.trim (String.ofList segment) := by
  rw [Token.flush_eq_wordOf, List.reverse_reverse, Token.wordOf]
  split
  · next h =>
    rw [h, List.append_nil]
    constructor
    · intro hw
      cases hclosed _ hw
    · rintro ⟨hne, rfl⟩
      exact absurd rfl hne
  · next h =>
    rw [List.getLast?_concat, Option.some.injEq, Token.word.injEq]
    constructor
    · rintro rfl
      exact ⟨h, rfl⟩
    · rintro ⟨-, rfl⟩
      rfl

/-! ## Names that begin with a word -/

/-- **All names that begin with the word are offered**, each of them once and in order. -/
theorem exists_matching (hnames : names.Nodup) (word : List Char) (kind : Kind) :
    ∃ offered : List String, matching names word kind = offered.map (⟨·, word.length, kind⟩) ∧
      offered.Pairwise (· < ·) ∧ ∀ name, name ∈ offered ↔ name ∈ names ∧ word <+: name.toList := by
  set sorted := names.mergeSort fun a b => decide (a ≤ b) with hsorted
  have hperm : sorted.Perm names := List.mergeSort_perm names _
  have hle : sorted.Pairwise (· ≤ ·) := by
    have htrans (a b c : String) (hab : decide (a ≤ b) = true) (hbc : decide (b ≤ c) = true) :
        decide (a ≤ c) = true := by
      rw [decide_eq_true_iff] at hab hbc ⊢
      exact String.le_trans hab hbc
    have htotal (a b : String) : (decide (a ≤ b) || decide (b ≤ a)) = true := by
      simpa using String.le_total a b
    simpa using List.pairwise_mergeSort htrans htotal names
  have hlt : sorted.Pairwise (· < ·) :=
    hle.imp₂ (fun a b hab hne => String.not_le.1 fun hba => hne (String.le_antisymm hab hba))
      (hperm.nodup_iff.2 hnames)
  refine ⟨sorted.filter fun name => word.isPrefixOf name.toList, rfl, hlt.filter _, fun name => ?_⟩
  rw [List.mem_filter, hperm.mem_iff, List.isPrefixOf_iff_prefix]

theorem of_mem_matching {word : List Char} {kind : Kind} {s : Suggestion}
    (hs : s ∈ matching names word kind) : s.kind = kind ∧ s.name ∈ names := by
  obtain ⟨name, hname, rfl⟩ := List.mem_map.1 hs
  exact ⟨rfl, (List.mergeSort_perm names _).mem_iff.1 (List.mem_filter.1 hname).1⟩

/-- A word that has not been ended is completed. Where there is no word yet, the empty one is. -/
theorem wordToComplete?_append {blanks word : List Char}
    (hblanks : ∀ c ∈ blanks, Text.isBlank c = true) (hword : ∀ c ∈ word, Text.isBlank c = false) :
    wordToComplete? (blanks ++ word) = some word := by
  rw [wordToComplete?, Text.wordsOf_eq_pieces, Text.pieces_append hblanks]
  by_cases hne : word = []
  · subst hne
    rfl
  · rw [Text.pieces_eq_singleton hword hne]
    dsimp only
    rw [if_neg]
    intro hlast
    rw [List.getLast?_append_of_ne_nil _ hne, beq_iff_eq] at hlast
    have hspace := hword ' ' (List.mem_of_getLast? hlast)
    cases hspace

/-! ## Suggestions -/

/-- The names to choose from after the given last operator, and what they name: filters after a pipe,
and commands otherwise. -/
def tableAfter (commands filters : List String) (last : Option Token) : List String × Kind :=
  if last = some .pipe then (filters, .filter) else (commands, .command)

variable {commands filters : List String} {text : String}

theorem nodup_tableAfter (hcommands : commands.Nodup) (hfilters : filters.Nodup)
    (last : Option Token) : (tableAfter commands filters last).1.Nodup := by
  rw [tableAfter]
  split
  · exact hfilters
  · exact hcommands

theorem suggestions_eq (h : lastOperator none text.toList text.toList = (last, segment)) :
    suggestions commands filters text = match wordToComplete? segment with
      | none => []
      | some word =>
        matching (tableAfter commands filters last).1 word (tableAfter commands filters last).2 := by
  rw [suggestions, h]
  cases hword : wordToComplete? segment with
  | none => simp [hword]
  | some word =>
    by_cases hpipe : last = some .pipe <;> simp [hword, tableAfter, hpipe]

theorem of_mem_suggestions {s : Suggestion}
    (h : lastOperator none text.toList text.toList = (last, segment))
    (hs : s ∈ suggestions commands filters text) :
    s.kind = (tableAfter commands filters last).2 ∧
      s.name ∈ (tableAfter commands filters last).1 := by
  rw [suggestions_eq h] at hs
  split at hs
  · cases hs
  · exact of_mem_matching hs

/-- **Suggestions follow the tokens.** In a text without quotes, the operator that the completion
finds is the last operator among the tokens, and the segment after it, without the blanks at its
ends, is the word that the tokens end in, if there is one. So names of filters are offered if the
last operator is a pipe, and names of commands otherwise. If the segment is blank, or blanks and a
word with nothing after it, then all names that begin with this word are offered, each once, in the
order of their characters. -/
theorem suggestions_follow_tokens {commands filters : List String} (hcommands : commands.Nodup)
    (hfilters : filters.Nodup) {text : String} (htext : ∀ c ∈ text.toList, isQuote c = false) :
    ∃ last segment, lastOperator none text.toList text.toList = (last, segment) ∧
      last = lastOperatorToken? (tokenize text) ∧
      (∀ t ∈ last, ∃ before, text.toList = before ++ (t.spelling.toList ++ segment)) ∧
      (last = none → segment = text.toList) ∧
      (∀ w, (tokenize text).getLast? = some (.word w) ↔
        w ≠ "" ∧ w = Text.trim (String.ofList segment)) ∧
      ∃ table kind,
        tableAfter commands filters (lastOperatorToken? (tokenize text)) = (table, kind) ∧
        (∀ s ∈ suggestions commands filters text, s.kind = kind ∧ s.name ∈ table) ∧
        ∀ blanks word, segment = blanks ++ word → (∀ c ∈ blanks, Text.isBlank c = true) →
          (∀ c ∈ word, Text.isBlank c = false) → ∃ offered : List String,
            suggestions commands filters text = offered.map (⟨·, word.length, kind⟩) ∧
            offered.Pairwise (· < ·) ∧
            ∀ name, name ∈ offered ↔ name ∈ table ∧ word <+: name.toList := by
  obtain ⟨closed, hclosed, hop, hscan⟩ := exists_scan_eq_flush_segment htext none []
  have hcases := lastOperator_cases none text.toList text.toList
  rw [List.reverse_nil, List.nil_append] at hop hscan
  rcases hfound : lastOperator none text.toList text.toList with ⟨last, segment⟩
  rw [hfound] at hop hscan hcases
  rw [Option.or_none] at hop
  have htokens : tokenize text = closed ++ flush segment.reverse := by
    rw [Token.tokenize_eq_scan, hscan]
  have hlast : last = lastOperatorToken? (tokenize text) := by
    rw [htokens, lastOperatorToken?_append_flush _ hclosed, ← hop]
  refine ⟨last, segment, rfl, hlast, ?_, ?_, fun w => ?_, _, _, rfl, fun s hs => ?_,
    fun blanks word hsegment hblanks hword => ?_⟩
  · rintro t rfl
    rcases hcases with h | ⟨before, u, rest, htext, h⟩
    · cases h
    · cases h
      exact ⟨before, htext⟩
  · rintro rfl
    rcases hcases with h | ⟨before, u, rest, htext, h⟩
    · cases h
      rfl
    · cases h
  · rw [htokens]
    exact getLast?_append_flush_eq_some_word hclosed
  · rw [← hlast]
    exact of_mem_suggestions hfound hs
  · subst hsegment
    rw [suggestions_eq hfound, wordToComplete?_append hblanks hword, ← hlast]
    exact exists_matching (nodup_tableAfter hcommands hfilters last) word _

/-- Three bars are an alternative and a pipe, so filters are offered. -/
theorem suggestions_follow_tokens_bars :
    let commands := ["greet"]
    let filters := ["uniq", "group", "grep"]
    let text := "a & b ||| gr"
    (∀ c ∈ text.toList, isQuote c = false) ∧ commands.Nodup ∧ filters.Nodup ∧
    lastOperator none text.toList text.toList = (some .pipe, [' ', 'g', 'r']) ∧
    tokenize text = [.word "a & b", .op .or, .pipe, .word "gr"] ∧
    ∃ offered : List String,
      suggestions commands filters text = offered.map (⟨·, 2, .filter⟩) ∧
      offered.Pairwise (· < ·) ∧
      ∀ name, name ∈ offered ↔ name ∈ filters ∧ ['g', 'r'] <+: name.toList := by
  intro commands filters text
  have htext : ∀ c ∈ text.toList, isQuote c = false := by
    have hall : text.toList.all (! isQuote ·) = true := by decide +kernel
    simpa only [List.all_eq_true, Bool.not_eq_true'] using hall
  have hlast : lastOperatorToken? (tokenize text) = some .pipe := by decide +kernel
  have hcommands : commands.Nodup := by decide
  have hfilters : filters.Nodup := by decide
  obtain ⟨last, segment, hfound, -, -, -, -, table, kind, htable, -, hoffered⟩ :=
    suggestions_follow_tokens hcommands hfilters htext
  have hsegment : lastOperator none text.toList text.toList = (some .pipe, [' ', 'g', 'r']) := by
    decide +kernel
  rw [hsegment] at hfound
  cases hfound
  rw [hlast] at htable
  cases htable
  exact ⟨htext, hcommands, hfilters, hsegment, by decide +kernel,
    hoffered [' '] ['g', 'r'] rfl (List.all_eq_true.1 (by decide)) (by simp; decide)⟩

end StreetConsole.Completion
