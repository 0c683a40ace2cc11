import Mathlib.Data.List.Chain
import StreetConsole.Proofs.Scan

/-!
# Canonical token lists

The tokens of a line are in canonical form: each word is tidy, and no word stands directly after
another (`canonical_tokenize`). This holds because a scan closes a word only in front of an operator
or at the end of the line.

Conversely each canonical list is the token list of a line. The line writes each character of a word
in quotes of its own, a single quote in double quotes and any other character in single quotes, and
puts a space between tokens (`tokenize_of_canonical`). The proof is an induction over the tokens
with the characters of the word so far as a parameter: they are all blank unless an operator comes
next.

**Theorem (`tokenize_image`).** The token lists of lines are exactly the canonical lists.
-/

namespace StreetConsole.Token

theorem exists_of_isWord {t : Token} (h : t.isWord = true) : ∃ w, t = word w := by
  cases t with
  | word w => exact ⟨w, rfl⟩
  | pipe => cases h
  | op o => cases h

/-! ## Lines give canonical lists -/

/-- Each word is tidy and no two words are neighbours. -/
structure Canonical (ts : List Token) : Prop where
  tidy : ∀ w, word w ∈ ts → Text.Tidy w
  apart : ts.IsChain fun a b => ¬ (a.isWord ∧ b.isWord)

theorem canonical_nil : Canonical [] := ⟨by simp, .nil⟩

/-- What a scan has gathered becomes one tidy word, or nothing. -/
theorem flush_cases (current : List Char) :
    flush current = [] ∨ ∃ w, Text.Tidy w ∧ flush current = [word w] := by
  unfold flush
  dsimp only
  split
  · exact Or.inl rfl
  · next h => exact Or.inr ⟨_, Text.tidy_ofList_trimChars (by simpa using h), rfl⟩

theorem canonical_cons {t : Token} {ts : List Token} (ht : t.isWord = false)
    (hts : Canonical ts) : Canonical (t :: ts) := by
  constructor
  · intro w hw
    rcases List.mem_cons.1 hw with rfl | hw
    · cases ht
    · exact hts.tidy w hw
  · cases ts with
    | nil => exact .singleton t
    | cons u us => exact List.isChain_cons_cons.2 ⟨by simp [ht], hts.apart⟩

theorem canonical_word_cons {w : String} {ts : List Token} (hw : Text.Tidy w)
    (hts : Canonical ts) (hhead : ∀ t ∈ ts.head?, t.isWord = false) :
    Canonical (word w :: ts) := by
  constructor
  · intro v hv
    rcases List.mem_cons.1 hv with hv | hv
    · cases hv
      exact hw
    · exact hts.tidy v hv
  · cases ts with
    | nil => exact .singleton _
    | cons u us => exact List.isChain_cons_cons.2 ⟨by simp [hhead u rfl], hts.apart⟩

theorem canonical_flush_append (current : List Char) {ts : List Token} (hts : Canonical ts)
    (hhead : ∀ t ∈ ts.head?, t.isWord = false) : Canonical (flush current ++ ts) := by
  obtain h | ⟨w, hw, h⟩ := flush_cases current
  · rw [h]
    exact hts
  · rw [h]
    exact canonical_word_cons hw hts hhead

theorem canonical_scan (quote : Option Char) (current rest : List Char) :
    Canonical (scan quote current rest) := by
  induction quote, rest using scan_induction generalizing current with
  | nil quote =>
    rw [scan]
    simpa using canonical_flush_append current canonical_nil (by simp)
  | goesOn quote c cs hstep ih =>
    rw [hstep]
    exact ih _
  | closes t cs ht hstep ih =>
    rw [hstep]
    exact canonical_flush_append current (canonical_cons ht (ih [])) (by simpa using ht)

/-- **The tokens of a line are in canonical form.** -/
theorem canonical_tokenize (line : String) : Canonical (tokenize line) :=
  canonical_scan none [] _

/-! ## Quoted lines -/

/-- A character in quotes of its own. -/
def quoteChar (c : Char) : List Char :=
  if c = Text.singleQuote then [Text.doubleQuote, c, Text.doubleQuote]
  else [Text.singleQuote, c, Text.singleQuote]

/-- A text with each character in quotes of its own. -/
def quoteText (s : String) : String := String.ofList (s.toList.flatMap quoteChar)

/-- The spelling of a token, words in quotes. -/
def quotedSpelling : Token → String
  | .word w => quoteText w
  | t => t.spelling

/-- The line that spells tokens, words in quotes, with a space between any two tokens. -/
def quotedLine (ts : List Token) : String := Text.unwords (ts.map quotedSpelling)

/-- A quoted character is taken as it is. -/
theorem scan_quoteChar (c : Char) (current rest : List Char) :
    scan none current (quoteChar c ++ rest) = scan none (c :: current) rest := by
  unfold quoteChar
  split
  · next h => subst h; rfl
  · next h =>
    show (if c = Text.singleQuote then _ else _) = _
    rw [if_neg h]
    rfl

theorem scan_quoteText (cs current rest : List Char) :
    scan none current (cs.flatMap quoteChar ++ rest) = scan none (cs.reverse ++ current) rest := by
  induction cs generalizing current with
  | nil => rfl
  | cons c cs ih =>
    rw [List.flatMap_cons, List.append_assoc, scan_quoteChar, ih]
    simp

theorem scan_space (current rest : List Char) :
    scan none current (' ' :: rest) = scan none (' ' :: current) rest := rfl

/-- A tidy text with blanks around it becomes one word. -/
theorem flush_surrounded {w : String} (hw : Text.Tidy w) {before : List Char}
    (hbefore : ∀ c ∈ before, Text.isBlank c = true) (after : List Char)
    (hafter : ∀ c ∈ after, Text.isBlank c = true) :
    flush (after ++ (w.toList.reverse ++ before)) = [word w] := by
  have hne : w.toList ≠ [] := by simpa using hw.1
  rw [flush_blanks_append hafter, flush_append_blanks _ hbefore]
  unfold flush
  dsimp only
  rw [List.reverse_reverse, Text.trimChars_eq_self hw.2, if_neg (by simpa using hne),
    String.ofList_toList]

theorem Canonical.tail {t : Token} {ts : List Token} (h : Canonical (t :: ts)) : Canonical ts :=
  ⟨fun w hw => h.tidy w (List.mem_cons_of_mem _ hw), List.isChain_of_isChain_cons h.apart⟩

theorem Canonical.head_of_word {w : String} {ts : List Token} (h : Canonical (word w :: ts)) :
    ∀ t ∈ ts.head?, t.isWord = false := by
  cases ts with
  | nil => simp
  | cons u us =>
    have := (List.isChain_cons_cons.1 h.apart).1
    simpa [isWord] using this

/-- What follows a token in a quoted line: nothing, or a space and the other tokens. -/
theorem quotedLine_cons (t : Token) (ts : List Token) :
    quotedLine (t :: ts) = t.quotedSpelling ++ if ts = [] then "" else " " ++ quotedLine ts := by
  cases ts with
  | nil => simp [quotedLine, Text.unwords]
  | cons u us => simp [quotedLine, Text.unwords, String.intercalate_cons_cons, String.append_assoc]

theorem toList_quotedLine_cons (t : Token) (ts : List Token) :
    (quotedLine (t :: ts)).toList = t.quotedSpelling.toList ++
      if ts = [] then [] else ' ' :: (quotedLine ts).toList := by
  rw [quotedLine_cons, String.toList_append]
  split <;> simp

/-- **A scan of a quoted line finds its tokens**, after the word that was begun before. A word may
have been begun only if an operator comes next. -/
theorem scan_quotedLine {ts : List Token} (h : Canonical ts) {current : List Char}
    (hcurrent : (∀ t ∈ ts.head?, t.isWord = false) ∨ ∀ c ∈ current, Text.isBlank c = true) :
    scan none current (quotedLine ts).toList = flush current ++ ts := by
  induction ts generalizing current with
  | nil => simp [quotedLine, Text.unwords, scan]
  | cons t ts ih =>
    rw [toList_quotedLine_cons]
    cases hword : t.isWord with
    | true =>
      obtain ⟨w, rfl⟩ := exists_of_isWord hword
      have hw : Text.Tidy w := h.tidy w List.mem_cons_self
      have hblank : ∀ c ∈ current, Text.isBlank c = true := by
        rcases hcurrent with hhead | hblank
        · exact absurd (hhead _ rfl) (by simp [isWord])
        · exact hblank
      rw [quotedSpelling, quoteText, String.toList_ofList, scan_quoteText, flush_of_blank hblank]
      by_cases hts : ts = []
      · rw [if_pos hts, hts, scan]
        exact flush_surrounded hw hblank [] (by simp)
      · rw [if_neg hts, scan_space, ih h.tail (Or.inl h.head_of_word)]
        have hflush := flush_surrounded hw hblank [' '] isBlank_of_mem_space
        exact congrArg (· ++ ts) hflush
    | false =>
      have hspelling : t.quotedSpelling = t.spelling := by
        cases t <;> first | rfl | cases hword
      rw [hspelling]
      by_cases hts : ts = []
      · rw [if_pos hts, scan_spelling hword _ (by simp), hts]
        rfl
      · rw [if_neg hts, scan_spelling hword _ (by simp), scan_space,
          ih h.tail (Or.inr isBlank_of_mem_space)]
        rfl

/-- **Every canonical list is the token list of a line**: of the one that quotes its words. -/
theorem tokenize_of_canonical {ts : List Token} (h : Canonical ts) :
    tokenize (quotedLine ts) = ts := by
  rw [tokenize_eq_scan, scan_quotedLine h (Or.inr (by simp)), flush_of_blank (by simp)]
  rfl

/-! ## The image of `tokenize` -/

/-- Canonical lists, with neighbours as parts of the list and tidiness as what trimming does. -/
theorem canonical_iff {ts : List Token} :
    Canonical ts ↔ (∀ v w, ¬ [word v, word w] <:+: ts) ∧
      ∀ w, word w ∈ ts → w ≠ "" ∧ Text.trim w = w := by
  constructor
  · rintro ⟨tidy, apart⟩
    refine ⟨?_, fun w hw => ⟨(tidy w hw).1, Text.trimmed_iff_trim_eq.1 (tidy w hw).2⟩⟩
    rintro v w ⟨before, after, rfl⟩
    rw [List.isChain_iff_forall_rel_of_append_cons_cons] at apart
    have hsplit : before ++ [word v, word w] ++ after = before ++ word v :: word w :: after := by
      simp
    exact apart hsplit ⟨rfl, rfl⟩
  · rintro ⟨neighbours, tidy⟩
    refine ⟨fun w hw => ⟨(tidy w hw).1, Text.trimmed_iff_trim_eq.2 (tidy w hw).2⟩, ?_⟩
    rw [List.isChain_iff_forall_rel_of_append_cons_cons]
    rintro a b before after rfl ⟨ha, hb⟩
    obtain ⟨v, rfl⟩ := exists_of_isWord ha
    obtain ⟨w, rfl⟩ := exists_of_isWord hb
    exact neighbours v w ⟨before, after, by simp⟩

/-- **The token lists of lines are the canonical ones**: no word stands directly after another, and
each word is not empty and is left alone by trimming. Operators may come in any number and order.
Each of these lists is read from the line that puts every character of its words in quotes and a
space between any two tokens. -/
theorem tokenize_image (ts : List Token) :
    ((∃ line, tokenize line = ts) ↔ Canonical ts) ∧
    (Canonical ts ↔ (∀ v w, ¬ [word v, word w] <:+: ts) ∧
      ∀ w, word w ∈ ts → w ≠ "" ∧ Text.trim w = w) ∧
    (Canonical ts → tokenize (quotedLine ts) = ts) := by
  refine ⟨⟨?_, fun h => ⟨quotedLine ts, tokenize_of_canonical h⟩⟩, canonical_iff,
    tokenize_of_canonical⟩
  rintro ⟨line, rfl⟩
  exact canonical_tokenize line

/-- Operators that would be read as others if there were no spaces between them. -/
example :
    quotedLine [.pipe, .pipe, .op .or, .pipe, .word "it's |"] =
        "| | || | 'i''t'\"'\"'s'' ''|'" ∧
      tokenize "| | || | 'i''t'\"'\"'s'' ''|'" =
        [.pipe, .pipe, .op .or, .pipe, .word "it's |"] := by
  decide +kernel

end StreetConsole.Token
