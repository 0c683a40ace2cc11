import StreetConsole.Proofs.Scan

/-!
# Nothing is lost from a line

A scan takes the quotes off a line and the blanks off the ends of its words. All other characters
are found again in the tokens, in the same order and no more than once.

**Theorem (`tokenize_keeps_text`).** The spellings of the tokens of a line, put together, and the
line without the characters that open or close quotes are the same but for blanks.

Which characters open or close a quote is a matter of the quote that is open in front of them:
they are those at which it changes (`unquoted`). The proof is an induction along the steps of a
scan, with the characters of the word so far standing in front of the rest of the line
(`solid_scan`). A character that is taken goes from the rest to the word so far; an operator that is
read goes to the tokens, behind the word that it closes.
-/

namespace StreetConsole

/-! ## Texts without blanks -/

namespace Text

/-- The characters that are no blanks. -/
def solid (cs : List Char) : List Char := cs.filter fun c => !isBlank c

@[simp] theorem solid_nil : solid [] = [] := rfl

@[simp] theorem solid_append (cs ds : List Char) : solid (cs ++ ds) = solid cs ++ solid ds := by
  simp [solid]

theorem solid_of_blank {cs : List Char} (h : ∀ c ∈ cs, isBlank c = true) : solid cs = [] := by
  simpa [solid] using h

/-- Trimming takes off nothing but blanks. -/
theorem solid_trimChars (cs : List Char) : solid (trimChars cs) = solid cs := by
  obtain ⟨before, after, hcs, hbefore, hafter⟩ := exists_eq_blanks_trimChars cs
  conv_rhs => rw [hcs]
  simp [solid_of_blank hbefore, solid_of_blank hafter]

end Text

namespace Token

open Text (solid solid_trimChars)

/-! ## Lines without quotes -/

/-- The characters that open or close no quote, given the quote that is open in front of them. -/
def unquoted : (quote : Option Char) → List Char → List Char
  | _, [] => []
  | quote, c :: cs => taken quote c ++ unquoted (turn quote c) cs

/-- What a character adds to the word so far is one character or none. -/
theorem reverse_taken (quote : Option Char) (c : Char) :
    (taken quote c).reverse = taken quote c := by
  unfold taken
  split_ifs <;> rfl

/-- An operator has no quotes in it, and none is open after it. -/
theorem unquoted_spelling {t : Token} (ht : t.isWord = false) (cs : List Char) :
    unquoted none (t.spelling.toList ++ cs) = t.spelling.toList ++ unquoted none cs := by
  cases t with
  | word w => cases ht
  | pipe => rfl
  | op o => cases o <;> rfl

/-! ## Tokens put together -/

/-- The spellings of tokens, one after the other. -/
def spelled (ts : List Token) : String := String.join (ts.map spelling)

theorem spelled_cons (t : Token) (ts : List Token) :
    (spelled (t :: ts)).toList = t.spelling.toList ++ (spelled ts).toList := by
  simp [spelled]

theorem spelled_append (ts us : List Token) :
    (spelled (ts ++ us)).toList = (spelled ts).toList ++ (spelled us).toList := by
  simp [spelled]

/-- Closing a word loses nothing but blanks, also when there is no word to close. -/
theorem solid_flush (current : List Char) :
    solid (spelled (flush current)).toList = solid current.reverse := by
  rw [← solid_trimChars current.reverse]
  unfold flush
  dsimp only
  split
  · next h =>
    rw [List.isEmpty_iff.1 h]
    rfl
  · simp [spelled, spelling]

/-- **A scan keeps what it has gathered and what is still to be read**, but for quotes and
blanks. -/
theorem solid_scan (quote : Option Char) (current cs : List Char) :
    solid (spelled (scan quote current cs)).toList =
      solid current.reverse ++ solid (unquoted quote cs) := by
  induction quote, cs using scan_induction generalizing current with
  | nil quote =>
    rw [scan, solid_flush]
    simp [unquoted]
  | goesOn quote c cs hstep ih =>
    rw [hstep, ih, unquoted]
    simp [reverse_taken]
  | closes t cs ht hstep ih =>
    rw [hstep, spelled_append, spelled_cons, unquoted_spelling ht]
    simp [solid_flush, ih]

/-- **Nothing is lost but quotes and blanks, and nothing comes twice.** The characters that the scan
takes for opening or closing quotes are those left out by `unquoted`. -/
theorem tokenize_keeps_text (line : String) :
    solid (String.join ((tokenize line).map spelling)).toList =
      solid (unquoted none line.toList) := by
  have hscan := solid_scan none [] line.toList
  rw [← tokenize_eq_scan] at hscan
  simpa [spelled] using hscan

/-- A lone ampersand, one quote inside the other, a quote that is never closed, and an operator at
the end of it. -/
example :
    tokenize "a & b\"'|\" || ' c |" = [.word "a & b'|", .op .or, .word "c |"] ∧
      String.ofList (unquoted none "a & b\"'|\" || ' c |".toList) = "a & b'| ||  c |" := by
  decide +kernel

end Token

end StreetConsole
