import StreetConsole.Proofs.Trim
import StreetConsole.Token

/-!
# Lines put together

A scan can be broken off and taken up again. All that the rest of a line needs to know of what was
read before is the quote that is open and the characters of the word so far; the tokens closed by
then stay as they are (`exists_scan_append`). Of the rest, in turn, only the characters that it adds
to the word so far and the tokens after that word count (`exists_scan_eq_flush`). Both are
inductions along the steps of a scan (`scan_append_induction`): it takes a character, or it reads
an operator. At a joint only an operator of two characters can be cut, one of them on each side.

Blanks at the ends of a word are dropped when it is closed, so it makes no difference that those at
the ends of the line are dropped before the scan (`tokenize_eq_scan`).

**Theorem (`tokenize_quoted`).** Text in quotes cannot change the tokens around it: it becomes part
of one word, as it is.

**Theorem (`tokenize_joined`).** The tokens of two lines with an operator between them are those of
the first line, the operator, and those of the second line, provided that the first leaves no quote
open.
-/

namespace StreetConsole.Token

/-- Whether the token is a word. -/
def isWord : Token → Bool
  | .word _ => true
  | .pipe | .op _ => false

/-! ## The open quote -/

/-- The quote that is open after one more character. -/
def turn : (quote : Option Char) → Char → Option Char
  | some q, c => if c = q then none else some q
  | none, c => if isQuote c then some c else none

/-- The quote that is open after some characters. -/
def quoteAfter (quote : Option Char) (cs : List Char) : Option Char := cs.foldl turn quote

/-- A scan of the line ends outside quotes: by `exists_scan_append` it goes on without an open quote
when more is put after the line. -/
def Closed (line : String) : Prop := quoteAfter none line.toList = none

instance (line : String) : Decidable (Closed line) := inferInstanceAs (Decidable (_ = none))

theorem quoteAfter_spelling {t : Token} (ht : t.isWord = false) (cs : List Char) :
    quoteAfter none (t.spelling.toList ++ cs) = quoteAfter none cs := by
  cases t with
  | word w => cases ht
  | pipe => rfl
  | op o => cases o <;> rfl

/-- What a character adds to the word so far: itself, unless it opens or closes a quote. -/
def taken (quote : Option Char) (c : Char) : List Char := if turn quote c = quote then [c] else []

/-! ## The steps of a scan -/

/-- The characters do not complete an operator that was begun in front of them. -/
def Detached (rest : List Char) : Prop := ∀ c ∈ rest.head?, c ≠ '&' ∧ c ≠ '|'

theorem detached_nil : Detached [] := by simp [Detached]

theorem append_ne_cons {cs rest : List Char} {c : Char} (hcs : ∀ ds, cs ≠ c :: ds)
    (hrest : c ∉ rest.head?) (ds : List Char) : cs ++ rest ≠ c :: ds := by
  intro h
  cases cs with
  | nil => exact hrest (by rw [← List.nil_append rest, h]; rfl)
  | cons d cs => exact hcs cs (by rw [(List.cons.inj h).1])

theorem scan_turn_some (q c : Char) (current cs : List Char) :
    scan (some q) current (c :: cs) = scan (turn (some q) c) (taken (some q) c ++ current) cs := by
  rw [scan]
  by_cases hc : c = q <;> simp [turn, taken, hc]

theorem scan_turn_none {c : Char} {cs : List Char}
    (hand : ∀ ds, c = '&' → cs ≠ '&' :: ds) (hpipe : c ≠ '|') (hsequence : c ≠ ';')
    (current : List Char) :
    scan none current (c :: cs) = scan (turn none c) (taken none c ++ current) cs := by
  rw [scan]
  · by_cases hc : isQuote c <;> simp [turn, taken, hc]
  · exact hand
  · exact fun ds h => absurd h hpipe
  · exact fun h => absurd h hpipe
  · exact fun h => absurd h hsequence

/-- An operator closes the word in front of it. A pipe must not be read as the first half of an
operator. -/
theorem scan_spelling {t : Token} (ht : t.isWord = false) (current : List Char) {rest : List Char}
    (hrest : ∀ c ∈ rest.head?, c ≠ '|') :
    scan none current (t.spelling.toList ++ rest) = flush current ++ t :: scan none [] rest := by
  cases t with
  | word w => cases ht
  | op o => cases o <;> rfl
  | pipe =>
    cases rest with
    | nil => rfl
    | cons c rest =>
      have hc : c ≠ '|' := hrest c rfl
      show scan none current ('|' :: c :: rest) = _
      rw [scan]
      simpa using hc

/-- **A scan does one of two things.** It goes on with the next character, or it reads an operator
and begins a new word. What comes later in the line makes no difference to this. -/
theorem scan_append_induction {motive : Option Char → List Char → Prop}
    (nil : ∀ quote, motive quote [])
    (goesOn : ∀ quote c cs,
      (∀ current rest, Detached rest → scan quote current (c :: cs ++ rest) =
        scan (turn quote c) (taken quote c ++ current) (cs ++ rest)) →
      motive (turn quote c) cs → motive quote (c :: cs))
    (closes : ∀ t cs, t.isWord = false →
      (∀ current rest, Detached rest → scan none current (t.spelling.toList ++ cs ++ rest) =
        flush current ++ t :: scan none [] (cs ++ rest)) →
      motive none cs → motive none (t.spelling.toList ++ cs))
    (quote : Option Char) (cs : List Char) : motive quote cs := by
  induction quote, ([] : List Char), cs using scan.induct with
  | case1 quote _ => exact nil quote
  | case2 current q cs ih =>
    refine goesOn (some q) q cs (fun current rest _ => scan_turn_some q q current _) ?_
    simpa [turn] using ih
  | case3 q current c cs hc ih =>
    refine goesOn (some q) c cs (fun current rest _ => scan_turn_some q c current _) ?_
    simpa [turn, hc] using ih
  | case4 current cs ih => exact closes (.op .and) cs rfl (fun _ _ _ => rfl) ih
  | case5 current cs ih => exact closes (.op .or) cs rfl (fun _ _ _ => rfl) ih
  | case6 current cs hcs ih =>
    refine closes .pipe cs rfl (fun current rest hrest => ?_) ih
    refine scan_spelling (t := .pipe) rfl current fun c hc hpipe => ?_
    obtain ⟨ds, hds⟩ := List.head?_eq_some_iff.1 hc
    exact append_ne_cons hcs (fun h => (hrest '|' h).2 rfl) ds (hpipe ▸ hds)
  | case7 current cs ih => exact closes (.op .sequence) cs rfl (fun _ _ _ => rfl) ih
  | case8 current c cs hand _ hpipe hsequence hc ih
  | case9 current c cs hand _ hpipe hsequence hc ih =>
    refine goesOn none c cs (fun current rest hrest => scan_turn_none ?_ hpipe hsequence _) ?_
    · exact fun ds h => append_ne_cons (fun ds => hand ds h) (fun h => (hrest '&' h).1 rfl) ds
    · simpa [turn, hc] using ih

/-- The steps of a scan of a whole line. -/
theorem scan_induction {motive : Option Char → List Char → Prop}
    (nil : ∀ quote, motive quote [])
    (goesOn : ∀ quote c cs,
      (∀ current, scan quote current (c :: cs) =
        scan (turn quote c) (taken quote c ++ current) cs) →
      motive (turn quote c) cs → motive quote (c :: cs))
    (closes : ∀ t cs, t.isWord = false →
      (∀ current, scan none current (t.spelling.toList ++ cs) =
        flush current ++ t :: scan none [] cs) →
      motive none cs → motive none (t.spelling.toList ++ cs))
    (quote : Option Char) (cs : List Char) : motive quote cs := by
  induction quote, cs using scan_append_induction with
  | nil quote => exact nil quote
  | goesOn quote c cs hstep ih =>
    refine goesOn quote c cs (fun current => ?_) ih
    simpa only [List.append_nil] using hstep current [] detached_nil
  | closes t cs ht hstep ih =>
    refine closes t cs ht (fun current => ?_) ih
    simpa only [List.append_nil] using hstep current [] detached_nil

/-! ## Breaking off and going on -/

/-- **A scan goes on from the open quote and the word so far.** If nothing follows, this word is the
last one. -/
theorem exists_scan_append (quote : Option Char) (current cs : List Char) :
    ∃ closed word, scan quote current cs = closed ++ flush word ∧ ∀ rest, Detached rest →
      scan quote current (cs ++ rest) = closed ++ scan (quoteAfter quote cs) word rest := by
  suffices h : ∃ closed word, ∀ rest, Detached rest →
      scan quote current (cs ++ rest) = closed ++ scan (quoteAfter quote cs) word rest by
    obtain ⟨closed, word, h⟩ := h
    have hend := h [] detached_nil
    rw [List.append_nil, scan] at hend
    exact ⟨closed, word, hend, h⟩
  induction quote, cs using scan_append_induction generalizing current with
  | nil quote => exact ⟨[], current, fun rest _ => rfl⟩
  | goesOn quote c cs hstep ih =>
    obtain ⟨closed, word, h⟩ := ih (taken quote c ++ current)
    exact ⟨closed, word, fun rest hrest => (hstep current rest hrest).trans (h rest hrest)⟩
  | closes t cs ht hstep ih =>
    obtain ⟨closed, word, h⟩ := ih []
    refine ⟨flush current ++ t :: closed, word, fun rest hrest => ?_⟩
    rw [hstep current rest hrest, h rest hrest, quoteAfter_spelling ht]
    simp

/-- **The rest of a line adds characters to the word so far, and tokens after it.** -/
theorem exists_scan_eq_flush (quote : Option Char) (cs : List Char) :
    ∃ lead later, ∀ current, scan quote current cs = flush (lead ++ current) ++ later := by
  induction quote, cs using scan_induction with
  | nil quote => exact ⟨[], [], fun current => by rw [scan]; simp⟩
  | goesOn quote c cs hstep ih =>
    obtain ⟨lead, later, h⟩ := ih
    refine ⟨lead ++ taken quote c, later, fun current => ?_⟩
    rw [hstep, h, List.append_assoc]
  | closes t cs ht hstep ih => exact ⟨[], t :: scan none [] cs, hstep⟩

/-! ## Blanks at the ends of a line -/

/-- A blank is neither a quote nor part of an operator. -/
theorem ne_of_isBlank {c : Char} (h : Text.isBlank c = true) :
    isQuote c = false ∧ c ≠ '&' ∧ c ≠ '|' ∧ c ≠ ';' := by
  refine ⟨?_, ?_, ?_, ?_⟩
  · by_contra hquote
    rw [Bool.not_eq_false, isQuote, Bool.or_eq_true, beq_iff_eq, beq_iff_eq] at hquote
    rcases hquote with rfl | rfl <;> cases h
  all_goals
    rintro rfl
    cases h

theorem isQuote_of_turn {quote : Option Char} (h : ∀ q ∈ quote, isQuote q = true) (c : Char) :
    ∀ q ∈ turn quote c, isQuote q = true := by
  cases quote with
  | none => by_cases hc : isQuote c <;> simp [turn, hc]
  | some q => by_cases hc : c = q <;> simp_all [turn]

theorem isQuote_of_quoteAfter {quote : Option Char} (h : ∀ q ∈ quote, isQuote q = true)
    (cs : List Char) : ∀ q ∈ quoteAfter quote cs, isQuote q = true := by
  induction cs generalizing quote with
  | nil => exact h
  | cons c cs ih => exact ih (isQuote_of_turn h c)

/-- A blank is taken into the word, in quotes or not. -/
theorem scan_blank {quote : Option Char} (hquote : ∀ q ∈ quote, isQuote q = true) {c : Char}
    (hc : Text.isBlank c = true) (current cs : List Char) :
    scan quote current (c :: cs) = scan quote (c :: current) cs := by
  obtain ⟨hnot, hand, hpipe, hsequence⟩ := ne_of_isBlank hc
  cases quote with
  | none =>
    rw [scan_turn_none (fun _ h => absurd h hand) hpipe hsequence]
    simp [turn, taken, hnot]
  | some q =>
    have hq : c ≠ q := by
      rintro rfl
      rw [hquote c rfl] at hnot
      cases hnot
    rw [scan_turn_some]
    simp [turn, taken, hq]

theorem scan_blanks_append {quote : Option Char} (hquote : ∀ q ∈ quote, isQuote q = true)
    {blanks : List Char} (h : ∀ c ∈ blanks, Text.isBlank c = true) (current cs : List Char) :
    scan quote current (blanks ++ cs) = scan quote (blanks.reverse ++ current) cs := by
  induction blanks generalizing current with
  | nil => rfl
  | cons b blanks ih =>
    rw [List.cons_append, scan_blank hquote (h b List.mem_cons_self),
      ih fun c hc => h c (List.mem_cons_of_mem b hc)]
    simp

theorem flush_append_blanks (current : List Char) {blanks : List Char}
    (h : ∀ c ∈ blanks, Text.isBlank c = true) : flush (current ++ blanks) = flush current := by
  unfold flush
  rw [List.reverse_append, Text.trimChars_blanks_append (by simpa using h)]

theorem flush_blanks_append {blanks : List Char} (h : ∀ c ∈ blanks, Text.isBlank c = true)
    (current : List Char) : flush (blanks ++ current) = flush current := by
  unfold flush
  rw [List.reverse_append, Text.trimChars_append_blanks _ (by simpa using h)]

theorem flush_of_blank {current : List Char} (h : ∀ c ∈ current, Text.isBlank c = true) :
    flush current = [] :=
  flush_append_blanks [] h

theorem scan_of_blanks_append {blanks : List Char} (h : ∀ c ∈ blanks, Text.isBlank c = true)
    (cs : List Char) : scan none [] (blanks ++ cs) = scan none [] cs := by
  obtain ⟨lead, later, hcs⟩ := exists_scan_eq_flush none cs
  rw [scan_blanks_append (by simp) h, hcs, hcs, List.append_nil,
    flush_append_blanks lead (by simpa using h), List.append_nil]

theorem detached_of_blanks {blanks : List Char} (h : ∀ c ∈ blanks, Text.isBlank c = true) :
    Detached blanks := fun c hc =>
  have hc := ne_of_isBlank (h c (List.mem_of_mem_head? hc))
  ⟨hc.2.1, hc.2.2.1⟩

theorem scan_append_blanks (cs : List Char) {blanks : List Char}
    (h : ∀ c ∈ blanks, Text.isBlank c = true) : scan none [] (cs ++ blanks) = scan none [] cs := by
  obtain ⟨closed, word, hwhole, hcs⟩ := exists_scan_append none [] cs
  -- The line may end in quotes that are never closed, with the blanks inside them.
  have hend : scan (quoteAfter none cs) word blanks = flush word := by
    have hquote : ∀ q ∈ quoteAfter none cs, isQuote q = true :=
      isQuote_of_quoteAfter (by simp) cs
    have := scan_blanks_append hquote h word []
    rw [List.append_nil] at this
    rw [this, scan, flush_blanks_append (by simpa using h)]
  rw [hcs blanks (detached_of_blanks h), hend, hwhole]

/-- **The tokens of a line are those of a scan of the whole line**, blanks at its ends and all. -/
theorem tokenize_eq_scan (line : String) : tokenize line = scan none [] line.toList := by
  obtain ⟨before, after, hline, hbefore, hafter⟩ := Text.exists_eq_blanks_trimChars line.toList
  rw [tokenize, hline, scan_of_blanks_append hbefore, scan_append_blanks _ hafter, ← hline]

/-! ## Text in quotes -/

/-- The word that a text becomes without the blanks at its ends; none if there is nothing else. -/
def wordOf (text : String) : List Token :=
  if Text.trim text = "" then [] else [word (Text.trim text)]

theorem flush_eq_wordOf (current : List Char) :
    flush current = wordOf (String.ofList current.reverse) := by
  unfold flush wordOf Text.trim
  rw [String.toList_ofList]
  simp

theorem scan_quoted {Q : Char} {q : List Char} (hq : Q ∉ q) (current rest : List Char) :
    scan (some Q) current (q ++ Q :: rest) = scan none (q.reverse ++ current) rest := by
  induction q generalizing current with
  | nil => rw [List.nil_append, scan, if_pos rfl]; rfl
  | cons c q ih =>
    obtain ⟨hc, hq⟩ := not_or.1 (mt List.mem_cons.2 hq)
    rw [List.cons_append, scan, if_neg (Ne.symm hc), ih hq]
    simp

/-- A quote opens, whatever stands around it. -/
theorem scan_isQuote {Q : Char} (hQ : isQuote Q = true) (current cs : List Char) :
    scan none current (Q :: cs) = scan (some Q) current cs := by
  rw [isQuote, Bool.or_eq_true, beq_iff_eq, beq_iff_eq] at hQ
  rcases hQ with rfl | rfl <;> rfl

theorem detached_of_isQuote {Q : Char} (hQ : isQuote Q = true) (cs : List Char) :
    Detached (Q :: cs) := by
  intro c hc
  obtain rfl : Q = c := by simpa using hc
  constructor <;> rintro rfl <;> cases hQ

/-- **Text in quotes becomes part of one word, as it is, and changes nothing else.** The tokens
before and after this word, and the texts that it has before and after what is quoted, come from the
line around the quotes. -/
theorem tokenize_quoted {Q : Char} (hQ : isQuote Q = true) {p : String} (hp : Closed p)
    (r : String) :
    ∃ (before after : List Token) (u v : String),
      tokenize p = before ++ wordOf u ∧ tokenize r = wordOf v ++ after ∧
      ∀ q : String, Q ∉ q.toList →
        tokenize (p ++ String.singleton Q ++ q ++ String.singleton Q ++ r) =
          before ++ wordOf (u ++ q ++ v) ++ after := by
  obtain ⟨before, word, hend, hfront⟩ := exists_scan_append none [] p.toList
  obtain ⟨lead, after, hback⟩ := exists_scan_eq_flush none r.toList
  rw [hp] at hfront
  refine ⟨before, after, String.ofList word.reverse, String.ofList lead.reverse, ?_, ?_, ?_⟩
  · rw [tokenize_eq_scan, hend, flush_eq_wordOf]
  · rw [tokenize_eq_scan, hback, List.append_nil, flush_eq_wordOf]
  · intro q hq
    have hline : (p ++ String.singleton Q ++ q ++ String.singleton Q ++ r).toList =
        p.toList ++ Q :: (q.toList ++ Q :: r.toList) := by
      simp
    rw [tokenize_eq_scan, hline, hfront _ (detached_of_isQuote hQ _), scan_isQuote hQ,
      scan_quoted hq, hback, flush_eq_wordOf]
    simp [String.append_assoc]

/-- Operators and the other quote between double quotes, an operator before them and one after. -/
theorem tokenize_quoted_echo :
    isQuote '"' = true ∧ Closed "a && say '&' " ∧
    (∃ (before after : List Token) (u v : String),
      tokenize "a && say '&' " = before ++ wordOf u ∧ tokenize "! | sort" = wordOf v ++ after ∧
      ∀ q : String, '"' ∉ q.toList →
        tokenize ("a && say '&' " ++ "\"" ++ q ++ "\"" ++ "! | sort") =
          before ++ wordOf (u ++ q ++ v) ++ after) ∧
    tokenize "a && say '&' \"it's; | x\"! | sort" =
      [.word "a", .op .and, .word "say & it's; | x!", .pipe, .word "sort"] :=
  ⟨rfl, by decide +kernel, tokenize_quoted rfl (by decide +kernel) _, by decide +kernel⟩

/-! ## Two lines with an operator between them -/

theorem isBlank_of_mem_space : ∀ c ∈ [' '], Text.isBlank c = true := by
  intro c hc
  rw [List.mem_singleton.1 hc]
  rfl

theorem scan_operator (o : Operator) (current cs : List Char) :
    scan none current (o.symbol.toList ++ cs) = flush current ++ .op o :: scan none [] cs := by
  cases o <;> rfl

/-- **The tokens of two lines with an operator between them.** -/
theorem tokenize_joined (o : Operator) {a : String} (ha : Closed a) (b : String) :
    tokenize (a ++ " " ++ o.symbol ++ " " ++ b) = tokenize a ++ .op o :: tokenize b := by
  obtain ⟨closed, word, hend, hfront⟩ := exists_scan_append none [] a.toList
  rw [ha] at hfront
  have hline : (a ++ " " ++ o.symbol ++ " " ++ b).toList =
      a.toList ++ ([' '] ++ (o.symbol.toList ++ ([' '] ++ b.toList))) := by
    simp
  have hdetached (cs : List Char) : Detached ([' '] ++ cs) := by simp [Detached]
  rw [tokenize_eq_scan, hline, hfront _ (hdetached _), scan_blanks_append (by simp)
    isBlank_of_mem_space, scan_operator, flush_blanks_append (by simpa using isBlank_of_mem_space),
    scan_of_blanks_append isBlank_of_mem_space, tokenize_eq_scan, tokenize_eq_scan, hend]
  simp

end StreetConsole.Token
