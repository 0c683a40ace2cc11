import StreetConsole.Chain

/-!
# Conditional lines

A line of the form `if <condition> then <command> [else <command>]`, the keywords in any case and
blanks around them. The parts are found by search: the condition and the first command are as short
as possible, and the blanks around keywords as many as possible; an `else` is looked for before the
end of the line. Parts hold no line feed.

The searches below take what is to come as a continuation, and the first way that it accepts counts.
Main statement: each branch is shorter than the line it comes from (`thenBranch_length_lt`,
`elseBranch_length_lt`), so lines of branches of lines come to an end.
-/

namespace StreetConsole

/-- The parts of a conditional line. -/
structure Conditional where
  condition : String
  thenBranch : String
  elseBranch : Option String
deriving DecidableEq, Repr

namespace Conditional

/-! ## Keywords -/

/-- Whether a character counts as a letter of a keyword: in either case, and in one of the further
forms that the letters i and s have. -/
def isKeywordLetter (letter c : Char) : Bool :=
  c == letter || c == letter.toUpper || (letter == 'i' && (c == 'İ' || c == 'ı'))
    || (letter == 's' && c == 'ſ')

/-- What follows a keyword. -/
def afterKeyword? : (keyword cs : List Char) → Option (List Char)
  | [], cs => some cs
  | _ :: _, [] => none
  | letter :: keyword, c :: cs =>
    if isKeywordLetter letter c then afterKeyword? keyword cs else none

/-- Whether the line, which has no blanks in front, begins with the keyword `if` and a blank. -/
def begins (cs : List Char) : Bool :=
  match afterKeyword? ['i', 'f'] cs with
  | some (c :: _) => Text.isBlank c
  | _ => false

/-! ## Searches -/

/-- Goes on after one or more blanks, as many as possible first. -/
def afterBlanks {α : Type} (k : List Char → Option α) : List Char → Option α
  | [] => none
  | c :: cs =>
    if Text.isBlank c then
      match afterBlanks k cs with
      | some found => some found
      | none => k cs
    else none

/-- Goes on after one or more characters other than line feeds, as few as possible first. The
characters, in reverse and after those in `taken`, are handed on too. -/
def afterText {α : Type} (k : List Char → List Char → Option α) (taken : List Char) :
    List Char → Option α
  | [] => none
  | c :: cs =>
    if c = '\n' then none
    else match k (c :: taken) cs with
      | some found => some found
      | none => afterText k (c :: taken) cs

/-- Goes on after blanks, a keyword and blanks. -/
def afterKeywordBetween {α : Type} (keyword : List Char) (k : List Char → Option α) :
    List Char → Option α :=
  afterBlanks fun cs => (afterKeyword? keyword cs).bind (afterBlanks k)

/-- The command after an `else`: all the rest, if it is not empty and holds no line feed. -/
def elsePart : List Char → Option (List Char) :=
  afterKeywordBetween ['e', 'l', 's', 'e'] fun cs =>
    if cs.isEmpty || cs.contains '\n' then none else some cs

/-- The first command and the second, if there is one. -/
def branches : List Char → Option (List Char × Option (List Char)) :=
  afterText (fun taken cs =>
    match elsePart cs with
    | some second => some (taken.reverse, some second)
    | none => if cs.isEmpty then some (taken.reverse, none) else none) []

/-- The condition and the commands of a conditional line without blanks at its ends. -/
def parts (cs : List Char) : Option (List Char × List Char × Option (List Char)) :=
  (afterKeyword? ['i', 'f'] cs).bind <| afterBlanks <| afterText (fun taken cs =>
    afterKeywordBetween ['t', 'h', 'e', 'n'] (fun cs =>
      (branches cs).map fun b => (taken.reverse, b)) cs) []

/-- The text of the given characters, without blanks at its ends. -/
def trimmed (cs : List Char) : String := String.ofList (Text.trimChars cs)

/-- Reads a conditional line. -/
def parse? (line : String) : Option Conditional :=
  (parts (Text.trimChars line.toList)).map fun (condition, first, second) =>
    { condition := trimmed condition, thenBranch := trimmed first,
      elseBranch := second.map trimmed }

/-- Whether a line is meant as a conditional. -/
def isConditional (line : String) : Bool := begins (Text.trimChars line.toList)

/-! ## Branches are shorter than their line -/

theorem afterBlanks_eq_some {α : Type} {k : List Char → Option α} {cs : List Char} {a : α}
    (h : afterBlanks k cs = some a) : ∃ rest, rest.length < cs.length ∧ k rest = some a := by
  induction cs with
  | nil => simp [afterBlanks] at h
  | cons c cs ih =>
    rw [afterBlanks] at h
    split at h
    · split at h
      · rename_i found hfound
        obtain ⟨rest, hlt, hk⟩ := ih (hfound.trans h)
        exact ⟨rest, Nat.lt_trans hlt (by simp), hk⟩
      · exact ⟨cs, by simp, h⟩
    · simp at h

theorem afterText_eq_some {α : Type} {k : List Char → List Char → Option α}
    {taken cs : List Char} {a : α} (h : afterText k taken cs = some a) :
    ∃ text rest, taken.length + cs.length = text.length + rest.length ∧ k text rest = some a := by
  induction cs generalizing taken with
  | nil => simp [afterText] at h
  | cons c cs ih =>
    rw [afterText] at h
    split at h
    · simp at h
    · split at h
      · rename_i found hfound
        exact ⟨c :: taken, cs, by simp; omega, hfound.trans h⟩
      · obtain ⟨text, rest, hlen, hk⟩ := ih h
        exact ⟨text, rest, by simp at hlen ⊢; omega, hk⟩

theorem afterKeyword?_length_le {keyword cs rest : List Char}
    (h : afterKeyword? keyword cs = some rest) : rest.length ≤ cs.length := by
  induction keyword generalizing cs with
  | nil => simp [afterKeyword?] at h; simp [h]
  | cons letter keyword ih =>
    cases cs with
    | nil => simp [afterKeyword?] at h
    | cons c cs =>
      rw [afterKeyword?] at h
      split at h
      · exact Nat.le_trans (ih h) (by simp)
      · simp at h

theorem afterKeywordBetween_eq_some {α : Type} {keyword : List Char} {k : List Char → Option α}
    {cs : List Char} {a : α} (h : afterKeywordBetween keyword k cs = some a) :
    ∃ rest, rest.length < cs.length ∧ k rest = some a := by
  obtain ⟨r, hr, hk⟩ := afterBlanks_eq_some h
  obtain ⟨t, ht, hb⟩ := Option.bind_eq_some_iff.1 hk
  obtain ⟨rest, hrest, ha⟩ := afterBlanks_eq_some hb
  have := afterKeyword?_length_le ht
  exact ⟨rest, by omega, ha⟩

theorem elsePart_length_lt {cs second : List Char} (h : elsePart cs = some second) :
    second.length < cs.length := by
  obtain ⟨rest, hlt, hk⟩ := afterKeywordBetween_eq_some h
  split at hk
  · simp at hk
  · simp at hk; simpa [← hk] using hlt

/-- Neither command is longer than the text that holds both. -/
theorem branches_length_le {cs first : List Char} {second : Option (List Char)}
    (h : branches cs = some (first, second)) :
    first.length ≤ cs.length ∧ ∀ s ∈ second, s.length ≤ cs.length := by
  obtain ⟨text, rest, hlen, hk⟩ := afterText_eq_some h
  simp only [List.length_nil, Nat.zero_add] at hlen
  split at hk
  · rename_i s hs
    have := elsePart_length_lt hs
    simp only [Option.some.injEq, Prod.mk.injEq] at hk
    obtain ⟨rfl, rfl⟩ := hk
    simp only [List.length_reverse, Option.mem_def, Option.some.injEq, forall_eq']
    omega
  · split at hk
    · simp only [Option.some.injEq, Prod.mk.injEq] at hk
      obtain ⟨rfl, rfl⟩ := hk
      simp only [List.length_reverse, Option.mem_def, reduceCtorEq, false_implies, implies_true,
        and_true]
      omega
    · simp at hk

/-- Both commands of a conditional line are shorter than the line. -/
theorem parts_length_lt {cs condition first : List Char} {second : Option (List Char)}
    (h : parts cs = some (condition, first, second)) :
    first.length < cs.length ∧ ∀ s ∈ second, s.length < cs.length := by
  obtain ⟨r, hr, h⟩ := Option.bind_eq_some_iff.1 h
  have hr := afterKeyword?_length_le hr
  obtain ⟨t, ht, h⟩ := afterBlanks_eq_some h
  obtain ⟨text, u, hlen, h⟩ := afterText_eq_some h
  obtain ⟨v, hv, h⟩ := afterKeywordBetween_eq_some h
  obtain ⟨b, hb, h⟩ := Option.map_eq_some_iff.1 h
  simp only [Prod.mk.injEq] at h
  obtain ⟨_, rfl⟩ := h
  obtain ⟨h1, h2⟩ := branches_length_le hb
  simp only [List.length_nil, Nat.zero_add] at hlen
  exact ⟨by omega, fun s hs => by have := h2 s hs; omega⟩

theorem length_dropBlanks_le (cs : List Char) : (Text.dropBlanks cs).length ≤ cs.length :=
  (List.dropWhile_suffix _).length_le

theorem length_trimChars_le (cs : List Char) : (Text.trimChars cs).length ≤ cs.length := by
  have h1 := length_dropBlanks_le cs
  have h2 := length_dropBlanks_le (Text.dropBlanks cs).reverse
  simp only [Text.trimChars, List.length_reverse] at h2 ⊢
  omega

theorem length_trimmed_le (cs : List Char) : (trimmed cs).length ≤ cs.length := by
  simpa [trimmed] using length_trimChars_le cs

/-- The first branch of a conditional is shorter than its line. -/
theorem thenBranch_length_lt {line : String} {c : Conditional} (h : parse? line = some c) :
    c.thenBranch.length < line.length := by
  obtain ⟨⟨condition, first, second⟩, hp, rfl⟩ := Option.map_eq_some_iff.1 h
  have h1 := (parts_length_lt hp).1
  have h2 := length_trimChars_le line.toList
  have h3 := length_trimmed_le first
  simp only [String.length_toList] at h2
  exact Nat.lt_of_le_of_lt h3 (by omega)

/-- The second branch of a conditional is shorter than its line. -/
theorem elseBranch_length_lt {line b : String} {c : Conditional} (h : parse? line = some c)
    (hb : c.elseBranch = some b) : b.length < line.length := by
  obtain ⟨⟨condition, first, second⟩, hp, rfl⟩ := Option.map_eq_some_iff.1 h
  obtain ⟨s, hs, rfl⟩ := Option.map_eq_some_iff.1 hb
  have h1 := (parts_length_lt hp).2 s hs
  have h2 := length_trimChars_le line.toList
  have h3 := length_trimmed_le s
  simp only [String.length_toList] at h2
  omega

end Conditional

/-- Whether a line uses a pipe, a chain operator or a condition. A single ampersand counts as
well. -/
def hasChainOperators (line : String) : Bool :=
  let cs := Text.trimChars line.toList
  cs.any (fun c => c == '|' || c == '&' || c == ';') || Conditional.begins cs

end StreetConsole
