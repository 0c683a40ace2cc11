import Mathlib.Data.List.DropRight
import StreetConsole.Text.Blank

/-!
# Trimmed texts

A text is trimmed when it neither begins nor ends with a blank. Trimming gives a trimmed text and
leaves trimmed texts alone, so that trimming twice is trimming once. What it takes off are blanks
(`exists_eq_blanks_trimChars`), and blanks put in front of a text or after it make no difference to
what is left.
-/

namespace StreetConsole.Text

/-- There is no blank at either end. -/
def Trimmed (cs : List Char) : Prop :=
  (∀ c ∈ cs.head?, isBlank c = false) ∧ ∀ c ∈ cs.getLast?, isBlank c = false

theorem head_dropBlanks {cs : List Char} {c : Char} (h : c ∈ (dropBlanks cs).head?) :
    isBlank c = false := by
  have := List.head?_dropWhile_not isBlank cs
  rw [dropBlanks] at h
  rwa [Option.mem_def.1 h] at this

theorem dropBlanks_eq_self {cs : List Char} (h : ∀ c ∈ cs.head?, isBlank c = false) :
    dropBlanks cs = cs := by
  cases cs with
  | nil => rfl
  | cons c cs =>
    have hc := h c (by simp)
    rw [dropBlanks, List.dropWhile_cons_of_neg (by simp [hc])]

/-- Trimming is dropping blanks in front and then at the end. -/
theorem trimChars_prefix (cs : List Char) : trimChars cs <+: dropBlanks cs :=
  List.rdropWhile_prefix isBlank (dropBlanks cs)

theorem trimmed_trimChars (cs : List Char) : Trimmed (trimChars cs) := by
  constructor
  · intro c hc
    obtain ⟨rest, hrest⟩ := trimChars_prefix cs
    have hfront : c ∈ (dropBlanks cs).head? := by
      rw [← hrest, Option.mem_def, List.head?_append, Option.mem_def.1 hc]
      rfl
    exact head_dropBlanks hfront
  · intro c hc
    rw [trimChars, List.getLast?_reverse] at hc
    exact head_dropBlanks hc

theorem trimChars_eq_self {cs : List Char} (h : Trimmed cs) : trimChars cs = cs := by
  rw [trimChars, dropBlanks_eq_self h.1, dropBlanks_eq_self, List.reverse_reverse]
  rw [List.head?_reverse]
  exact h.2

theorem trimChars_trimChars (cs : List Char) : trimChars (trimChars cs) = trimChars cs :=
  trimChars_eq_self (trimmed_trimChars cs)

theorem toList_trim (s : String) : (trim s).toList = trimChars s.toList := by
  rw [trim, String.toList_ofList]

theorem trimChars_toList_trim (s : String) : trimChars (trim s).toList = trimChars s.toList := by
  rw [toList_trim, trimChars_trimChars]

theorem dropBlanks_blanks_append {before : List Char} (h : ∀ c ∈ before, isBlank c = true)
    (cs : List Char) : dropBlanks (before ++ cs) = dropBlanks cs :=
  List.dropWhile_append_of_pos h

theorem trimChars_blanks_append {before : List Char} (h : ∀ c ∈ before, isBlank c = true)
    (cs : List Char) : trimChars (before ++ cs) = trimChars cs := by
  rw [trimChars, dropBlanks_blanks_append h, trimChars]

theorem trimChars_append_blanks (cs : List Char) {after : List Char}
    (h : ∀ c ∈ after, isBlank c = true) : trimChars (cs ++ after) = trimChars cs := by
  have hfront : dropBlanks (cs ++ after) = dropBlanks cs ++ after ∨
      dropBlanks (cs ++ after) = [] ∧ dropBlanks cs = [] := by
    unfold dropBlanks
    rw [List.dropWhile_append]
    by_cases hcs : cs.dropWhile isBlank = []
    · exact Or.inr ⟨by simpa [hcs] using h, hcs⟩
    · exact Or.inl (by simp [hcs])
  rcases hfront with hfront | ⟨hall, hcs⟩
  · rw [trimChars, hfront, List.reverse_append, dropBlanks_blanks_append (by simpa using h),
      trimChars]
  · rw [trimChars, hall, trimChars, hcs]

/-- What trimming takes off are blanks. -/
theorem exists_eq_blanks_trimChars (cs : List Char) :
    ∃ before after, cs = before ++ (trimChars cs ++ after) ∧
      (∀ c ∈ before, isBlank c = true) ∧ ∀ c ∈ after, isBlank c = true := by
  refine ⟨cs.takeWhile isBlank, ((dropBlanks cs).reverse.takeWhile isBlank).reverse, ?_, ?_, ?_⟩
  · have hback : trimChars cs ++ ((dropBlanks cs).reverse.takeWhile isBlank).reverse =
        dropBlanks cs := by
      rw [trimChars, ← List.reverse_append]
      exact (congrArg List.reverse List.takeWhile_append_dropWhile).trans (List.reverse_reverse _)
    rw [hback]
    exact List.takeWhile_append_dropWhile.symm
  · exact fun c hc => List.mem_takeWhile_imp hc
  · exact fun c hc => List.mem_takeWhile_imp (List.mem_reverse.1 hc)

theorem mem_of_mem_trimChars {c : Char} {cs : List Char} (hc : c ∈ trimChars cs) : c ∈ cs := by
  obtain ⟨before, after, hcs, -, -⟩ := exists_eq_blanks_trimChars cs
  rw [hcs]
  exact List.mem_append_right before (List.mem_append_left after hc)

/-- The text is not empty, and there is no blank at either end of it. -/
def Tidy (s : String) : Prop := s ≠ "" ∧ Trimmed s.toList

theorem trimmed_iff_trim_eq {s : String} : Trimmed s.toList ↔ trim s = s := by
  constructor
  · intro h
    rw [trim, trimChars_eq_self h, String.ofList_toList]
  · intro h
    rw [← h, toList_trim]
    exact trimmed_trimChars s.toList

theorem tidy_ofList_trimChars {cs : List Char} (h : trimChars cs ≠ []) :
    Tidy (String.ofList (trimChars cs)) := by
  constructor
  · intro hempty
    have := congrArg String.toList hempty
    rw [String.toList_ofList] at this
    exact h this
  · rw [String.toList_ofList]
    exact trimmed_trimChars cs

end StreetConsole.Text
