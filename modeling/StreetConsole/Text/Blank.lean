/-!
# Blanks, words and lines

What separates words, and the cutting of texts: `trim` takes the blanks off both ends, `words` cuts
at every run of blanks, `lines` at every line feed. `unlines` puts lines together again.
-/

namespace StreetConsole.Text

/-! ## Blanks -/

/-- The white space of every script: tab to carriage return, the four information separators, the
space, the next-line control, and the spaces and separators beyond the first 256 characters. -/
def isBlank (c : Char) : Bool :=
  let n := c.toNat
  (0x09 ≤ n && n ≤ 0x0d) || (0x1c ≤ n && n ≤ 0x20) || n == 0x85 || n == 0xa0 || n == 0x1680
    || (0x2000 ≤ n && n ≤ 0x200a) || n == 0x2028 || n == 0x2029 || n == 0x202f || n == 0x205f
    || n == 0x3000

/-- Drops the blanks in front. -/
def dropBlanks (cs : List Char) : List Char := cs.dropWhile isBlank

/-- Drops the blanks at both ends. -/
def trimChars (cs : List Char) : List Char :=
  (dropBlanks (dropBlanks cs).reverse).reverse

/-- Drops the blanks at both ends. -/
def trim (s : String) : String := String.ofList (trimChars s.toList)

/-! ## Cutting -/

/-- The pieces between the characters that satisfy `p`, empty ones included: always one piece more
than there are such characters. -/
def splitWhere (p : Char → Bool) : List Char → List (List Char)
  | [] => [[]]
  | c :: cs =>
    if p c then [] :: splitWhere p cs else (splitWhere p cs).modifyHead (c :: ·)

/-- The words of a text: its non-empty pieces between blanks. -/
def wordsOf (cs : List Char) : List (List Char) :=
  (splitWhere isBlank cs).filter (! ·.isEmpty)

/-- The words of a text: its non-empty pieces between blanks. -/
def words (s : String) : List String := (wordsOf s.toList).map String.ofList

/-- What follows the given characters, if the text begins with them. -/
def afterStart? : (start cs : List Char) → Option (List Char)
  | [], cs => some cs
  | _ :: _, [] => none
  | e :: start, c :: cs => if e = c then afterStart? start cs else none

/-- The pieces between the occurrences of a character. -/
def splitAt (sep : Char) (s : String) : List String :=
  (splitWhere (· == sep) s.toList).map String.ofList

/-- The lines of a text. The empty text has one line, which is empty. -/
def lines (s : String) : List String := splitAt '\n' s

/-- Lines as one text, a line feed between any two of them. -/
def unlines (ls : List String) : String := "\n".intercalate ls

/-- Words as one text, a space between any two of them. -/
def unwords (ws : List String) : String := " ".intercalate ws

end StreetConsole.Text
