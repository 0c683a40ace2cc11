import Mathlib.Tactic.MkIffOfInductiveProp
import StreetConsole.Proofs.Readings

/-!
# Conditional lines are read as they were written

A conditional can be written in many ways: with its keywords in any case, and with any blanks around
them. A `Spelling` is one such way.

**Theorem (`parse?_write`).** However a conditional is written, the line is read as that
conditional, provided that its parts are proper and that neither a `then` in the condition nor an
`else` in the first command could be taken for the keyword of the line. An `else` in the line
therefore never belongs to a conditional that stands as the first command.

The first command and the condition are found as the shortest text that will do. The heart of the
proof is that no shorter one does (`Proper.afterKeywordBetween_eq_none`): if the text behind it
began with blanks, the keyword and a blank, then these would lie in the part itself, since the part
does not end with a blank and a keyword does not hold one.
-/

namespace StreetConsole.Conditional

/-! ## Keywords within a text -/

instance (keyword cs : List Char) : Decidable (IsKeyword keyword cs) :=
  decidable_of_iff (afterKeyword? keyword cs = some []) <| by
    constructor
    · intro h
      obtain ⟨kw, hkw, rfl⟩ := exists_of_afterKeyword? h
      rwa [List.append_nil]
    · intro h
      rw [← List.append_nil cs]
      exact afterKeyword?_append h []

/-- The keyword stands in the text, with a blank on either side. -/
def HoldsKeyword (keyword cs : List Char) : Prop :=
  ∃ before b kw b' after, cs = before ++ b :: (kw ++ b' :: after) ∧ Text.isBlank b = true ∧
    IsKeyword keyword kw ∧ Text.isBlank b' = true

/-- Whether the text begins with the keyword and a blank. -/
def beginsWith (keyword cs : List Char) : Bool :=
  match afterKeyword? keyword cs with
  | some (b :: _) => Text.isBlank b
  | _ => false

theorem beginsWith_iff {keyword cs : List Char} :
    beginsWith keyword cs = true ↔
      ∃ kw b after, cs = kw ++ b :: after ∧ IsKeyword keyword kw ∧ Text.isBlank b = true := by
  constructor
  · intro h
    rw [beginsWith] at h
    split at h
    · next b after hafter =>
      obtain ⟨kw, hkw, rfl⟩ := exists_of_afterKeyword? hafter
      exact ⟨kw, b, after, rfl, hkw, h⟩
    · cases h
  · rintro ⟨kw, b, after, rfl, hkw, hb⟩
    rw [beginsWith, afterKeyword?_append hkw]
    exact hb

theorem holdsKeyword_cons {keyword cs : List Char} {c : Char} :
    HoldsKeyword keyword (c :: cs) ↔
      (Text.isBlank c = true ∧ beginsWith keyword cs = true) ∨ HoldsKeyword keyword cs := by
  rw [beginsWith_iff]
  constructor
  · rintro ⟨before, b, kw, b', after, hcs, hb, hkw, hb'⟩
    cases before with
    | nil =>
      obtain ⟨rfl, rfl⟩ := List.cons.inj hcs
      exact .inl ⟨hb, kw, b', after, rfl, hkw, hb'⟩
    | cons d before =>
      obtain ⟨-, rfl⟩ := List.cons.inj hcs
      exact .inr ⟨before, b, kw, b', after, rfl, hb, hkw, hb'⟩
  · rintro (⟨hc, kw, b', after, rfl, hkw, hb'⟩ | ⟨before, b, kw, b', after, rfl, hb, hkw, hb'⟩)
    · exact ⟨[], c, kw, b', after, rfl, hc, hkw, hb'⟩
    · exact ⟨c :: before, b, kw, b', after, rfl, hb, hkw, hb'⟩

instance decidableHoldsKeyword (keyword : List Char) :
    (cs : List Char) → Decidable (HoldsKeyword keyword cs)
  | [] => .isFalse (by rintro ⟨before, b, kw, b', after, hcs, -⟩; simp at hcs)
  | _ :: cs =>
    have := decidableHoldsKeyword keyword cs
    decidable_of_iff' _ holdsKeyword_cons

theorem holdsKeyword_of_gap {keyword gap kw : List Char} {b : Char} (before after : List Char)
    (hgap : IsGap gap) (hkw : IsKeyword keyword kw) (hb : Text.isBlank b = true) :
    HoldsKeyword keyword (before ++ (gap ++ (kw ++ b :: after))) := by
  refine ⟨before ++ gap.dropLast, gap.getLast hgap.1, kw, b, after, ?_,
    hgap.2 _ (List.getLast_mem hgap.1), hkw, hb⟩
  conv_lhs => rw [← List.dropLast_append_getLast hgap.1]
  simp only [List.append_assoc, List.singleton_append]

/-! ## Searches in a text that was written -/

/-- A text that can stand as a part: it is not empty, holds no line feed and is trimmed. -/
@[mk_iff]
structure Proper (cs : List Char) : Prop where
  isPart : IsPart cs
  trimmed : Text.Trimmed cs

instance (cs : List Char) : Decidable (Proper cs) :=
  decidable_of_iff ((cs.isEmpty = false ∧ '\n' ∉ cs) ∧
      cs.head?.all (! Text.isBlank ·) = true ∧ cs.getLast?.all (! Text.isBlank ·) = true) <| by
    rw [proper_iff]
    simp [IsPart, Text.Trimmed, Option.all_eq_true]

section

variable {α : Type} {keyword kw gap gap' rest taken text tail : List Char} {a : α}

/-- The text is found if no shorter one is. -/
theorem afterText_of_first {k : List Char → List Char → Option α} (htext : IsPart text)
    (hshorter : ∀ p q, text = p ++ q → q ≠ [] → k (p.reverse ++ taken) (q ++ rest) = none)
    (h : k (text.reverse ++ taken) rest = some a) : afterText k taken (text ++ rest) = some a := by
  obtain ⟨hne, hfeed⟩ := htext
  induction text generalizing taken with
  | nil => exact absurd rfl hne
  | cons c text ih =>
    obtain ⟨hc, hfeed⟩ : '\n' ≠ c ∧ '\n' ∉ text := by simpa using hfeed
    rw [List.cons_append, afterText_cons (Ne.symm hc)]
    cases text with
    | nil =>
      have hfound : k (c :: taken) rest = some a := h
      rw [List.nil_append, hfound, Option.some_or]
    | cons d text =>
      have hnone := hshorter [c] (d :: text) rfl (List.cons_ne_nil d text)
      rw [List.reverse_singleton, List.singleton_append] at hnone
      rw [hnone, Option.none_or]
      refine ih (fun p q hpq hq => ?_) (by simpa using h) (List.cons_ne_nil d text) hfeed
      simpa using hshorter (c :: p) q (by rw [hpq, List.cons_append]) hq

theorem afterKeywordBetween_append {k : List Char → Option α} (hgap : IsGap gap)
    (hkw : IsKeyword keyword kw) (hgap' : IsGap gap') (hword : isWord keyword = true)
    (hrest : ∀ c ∈ rest.head?, Text.isBlank c = false) (h : k rest = some a) :
    afterKeywordBetween keyword k (gap ++ (kw ++ (gap' ++ rest))) = some a := by
  refine afterBlanks_of_head hgap (head_of_isKeyword hkw hword _) ?_
  rw [afterKeyword?_append hkw, Option.bind_some]
  exact afterBlanks_of_head hgap' hrest h

/-- **No keyword is found within a part that holds none.** -/
theorem Proper.afterKeywordBetween_eq_none {k : List Char → Option α} {p q : List Char}
    (hproper : Proper text) (hword : isWord keyword = true)
    (htail : ∀ c ∈ tail.head?, Text.isBlank c = true)
    (h : ¬ HoldsKeyword keyword (text ++ [' '])) (htext : text = p ++ q) (hq : q ≠ []) :
    afterKeywordBetween keyword k (q ++ tail) = none := by
  subst htext
  refine Option.eq_none_iff_forall_ne_some.2 fun a hfound => ?_
  obtain ⟨gap, kw, rest, hgap, hkw, hcs, hblanks⟩ := exists_of_afterKeywordBetween hfound
  obtain ⟨gap', rest', hgap', rfl, -⟩ := exists_of_afterBlanks hblanks
  obtain ⟨b, gap', rfl⟩ := List.exists_cons_of_ne_nil hgap'.1
  have hb : Text.isBlank b = true := hgap'.2 b List.mem_cons_self
  -- A keyword at the very end of the part is kept out by the blank that `h` puts after the part.
  have hends : q ≠ gap ++ kw := by
    rintro rfl
    refine h ?_
    simpa only [List.append_assoc] using holdsKeyword_of_gap p [] hgap hkw (b := ' ') rfl
  rw [← List.append_assoc, List.append_eq_append_iff] at hcs
  obtain ⟨more, hlong, hmore⟩ | ⟨more, rfl, hmore⟩ := hcs
  · -- The part ends before the keyword does, at a blank: so not within the keyword, and if it ends
    -- within the gap, it ends with a blank.
    cases more with
    | nil => exact hends (by simpa using hlong.symm)
    | cons x more =>
      have hx : Text.isBlank x = true := htail x (by rw [hmore]; rfl)
      obtain ⟨within, -, hkw'⟩ | ⟨more', hgap_eq, -⟩ := List.append_eq_append_iff.1 hlong
      · have hletter := isBlank_of_isKeyword hkw hword x (by rw [hkw']; simp)
        rw [hx] at hletter
        cases hletter
      · refine trimmed_ne_empty_of_suffix hproper.trimmed (List.suffix_append p q) hq ?_
        rw [trimmed_eq_empty_iff]
        exact fun c hc => hgap.2 c (by rw [hgap_eq]; exact List.mem_append_left _ hc)
  · cases more with
    | nil => exact hends (by simp)
    | cons x more =>
      obtain ⟨rfl, -⟩ := List.cons.inj hmore
      refine h ?_
      simpa using holdsKeyword_of_gap p (more ++ [' ']) hgap hkw hb

end

/-! ## Written lines -/

/-- The parts are proper, and the keywords of the line that come after the condition and after the
first command do not stand in them already, not even at their ends. -/
@[mk_iff]
structure Writable (c : Conditional) : Prop where
  condition : Proper c.condition.toList
  thenBranch : Proper c.thenBranch.toList
  elseBranch : ∀ e ∈ c.elseBranch, Proper e.toList
  no_then : ¬ HoldsKeyword ['t', 'h', 'e', 'n'] (c.condition.toList ++ [' '])
  no_else : ¬ HoldsKeyword ['e', 'l', 's', 'e'] (c.thenBranch.toList ++ [' '])

instance (c : Conditional) : Decidable c.Writable :=
  decidable_of_iff' _ (writable_iff c)

instance (gap : List Char) : Decidable (IsGap gap) :=
  decidable_of_iff (gap.isEmpty = false ∧ gap.all Text.isBlank = true) (by simp [IsGap])

/-- A way to write the keywords and the blanks around them. -/
structure Spelling where
  ifWord : List Char
  afterIf : List Char
  beforeThen : List Char
  thenWord : List Char
  afterThen : List Char
  beforeElse : List Char
  elseWord : List Char
  afterElse : List Char
  isKeyword_if : IsKeyword ['i', 'f'] ifWord
  isGap_afterIf : IsGap afterIf
  isGap_beforeThen : IsGap beforeThen
  isKeyword_then : IsKeyword ['t', 'h', 'e', 'n'] thenWord
  isGap_afterThen : IsGap afterThen
  isGap_beforeElse : IsGap beforeElse
  isKeyword_else : IsKeyword ['e', 'l', 's', 'e'] elseWord
  isGap_afterElse : IsGap afterElse

namespace Spelling

/-- What comes after the first command. -/
def writeElse (s : Spelling) : Option String → List Char
  | none => []
  | some e => s.beforeElse ++ (s.elseWord ++ (s.afterElse ++ e.toList))

/-- What comes after the condition. -/
def writeThen (s : Spelling) (c : Conditional) : List Char :=
  s.beforeThen ++ (s.thenWord ++ (s.afterThen ++ (c.thenBranch.toList ++ s.writeElse c.elseBranch)))

/-- The line of a conditional. -/
def write (s : Spelling) (c : Conditional) : String :=
  String.ofList (s.ifWord ++ (s.afterIf ++ (c.condition.toList ++ s.writeThen c)))

theorem head_writeElse (s : Spelling) (e : Option String) :
    ∀ c ∈ (s.writeElse e).head?, Text.isBlank c = true := by
  cases e with
  | none => simp [writeElse]
  | some e =>
    intro c hc
    rw [writeElse, List.head?_append_of_ne_nil _ s.isGap_beforeElse.1] at hc
    exact s.isGap_beforeElse.2 c (List.mem_of_mem_head? hc)

theorem head_writeThen (s : Spelling) (c : Conditional) :
    ∀ d ∈ (s.writeThen c).head?, Text.isBlank d = true := by
  intro d hd
  rw [writeThen, List.head?_append_of_ne_nil _ s.isGap_beforeThen.1] at hd
  exact s.isGap_beforeThen.2 d (List.mem_of_mem_head? hd)

end Spelling

section

variable {cs tail : List Char} {c : Conditional}

theorem Proper.head (h : Proper cs) (tail : List Char) :
    ∀ c ∈ (cs ++ tail).head?, Text.isBlank c = false := by
  rw [List.head?_append_of_ne_nil _ h.isPart.1]
  exact h.trimmed.1

theorem Proper.trimmed_eq {s : String} (h : Proper s.toList) :
    Conditional.trimmed s.toList = s := by
  rw [Conditional.trimmed, Text.trimChars_eq_self h.trimmed, String.ofList_toList]

theorem elsePart_writeElse (s : Spelling) {e : String} (he : Proper e.toList) :
    elsePart (s.writeElse (some e)) = some e.toList := by
  refine afterKeywordBetween_append s.isGap_beforeElse s.isKeyword_else s.isGap_afterElse rfl
    he.trimmed.1 ?_
  simp [he.isPart.1, he.isPart.2]

/-- The commands after `then` are found as they were written. -/
theorem branches_write (s : Spelling) (h : c.Writable) :
    branches (c.thenBranch.toList ++ s.writeElse c.elseBranch) =
      some (c.thenBranch.toList, c.elseBranch.map String.toList) := by
  refine afterText_of_first h.thenBranch.isPart (fun p q hpq hq => ?_) ?_
  · have hnone : elsePart (q ++ s.writeElse c.elseBranch) = none :=
      h.thenBranch.afterKeywordBetween_eq_none rfl (s.head_writeElse _) h.no_else hpq hq
    simp [hnone, hq]
  · rw [List.append_nil, List.reverse_reverse]
    cases he : c.elseBranch with
    | none => rfl
    | some e => rw [elsePart_writeElse s (h.elseBranch e he)]; rfl

/-- What comes after `if` is found as it was written. -/
theorem afterIf_write (s : Spelling) (h : c.Writable) :
    afterIf (c.condition.toList ++ s.writeThen c) =
      some (c.condition.toList, c.thenBranch.toList, c.elseBranch.map String.toList) := by
  refine afterText_of_first h.condition.isPart (fun p q hpq hq => ?_) ?_
  · exact h.condition.afterKeywordBetween_eq_none rfl (s.head_writeThen c) h.no_then hpq hq
  · refine afterKeywordBetween_append s.isGap_beforeThen s.isKeyword_then s.isGap_afterThen
      rfl (h.thenBranch.head _) ?_
    rw [branches_write s h, List.append_nil, List.reverse_reverse, Option.map_some]

theorem parts_write (s : Spelling) (h : c.Writable) :
    parts (s.write c).toList =
      some (c.condition.toList, c.thenBranch.toList, c.elseBranch.map String.toList) := by
  rw [Spelling.write, String.toList_ofList, parts_eq, afterKeyword?_append s.isKeyword_if,
    Option.bind_some]
  exact afterBlanks_of_head s.isGap_afterIf (h.condition.head _) (afterIf_write s h)

theorem getLast_writeBranches (s : Spelling) (h : c.Writable) :
    ∀ d ∈ (c.thenBranch.toList ++ s.writeElse c.elseBranch).getLast?, Text.isBlank d = false := by
  cases he : c.elseBranch with
  | none =>
    rw [Spelling.writeElse, List.append_nil]
    exact h.thenBranch.trimmed.2
  | some e =>
    have hproper := h.elseBranch e he
    simp only [Spelling.writeElse, ← List.append_assoc]
    rw [List.getLast?_append_of_ne_nil _ hproper.isPart.1]
    exact hproper.trimmed.2

theorem trimmed_write (s : Spelling) (h : c.Writable) : Text.Trimmed (s.write c).toList := by
  rw [Spelling.write, String.toList_ofList]
  refine ⟨head_of_isKeyword s.isKeyword_if rfl _, ?_⟩
  simp only [Spelling.writeThen, ← List.append_assoc]
  rw [List.append_assoc, List.getLast?_append_of_ne_nil]
  · exact getLast_writeBranches s h
  · exact List.append_ne_nil_of_left_ne_nil h.thenBranch.isPart.1 _

/-- Without a keyword in it, a trimmed text is no conditional with two commands. -/
theorem elseBranch_eq_none {line : String} {inner : Conditional}
    (htrimmed : Text.Trimmed line.toList)
    (hno : ¬ HoldsKeyword ['e', 'l', 's', 'e'] (line.toList ++ [' ']))
    (h : parse? line = some inner) : inner.elseBranch = none := by
  obtain ⟨condition, first, second, hparts, rfl⟩ := exists_of_parse? h
  rw [Text.trimChars_eq_self htrimmed] at hparts
  cases second with
  | none => rfl
  | some second =>
    have hsplit := parts_sound hparts
    generalize line.toList = cs at hno hsplit
    cases hsplit with
    | @mk kw gap condition gap' kw' gap'' rest first second _ _ _ _ _ _ hrest =>
      cases hrest with
      | @both first gap₂ kw₂ gap₂' second hfirst hgap₂ hkw₂ hgap₂' =>
        obtain ⟨b, gap₂', rfl⟩ := List.exists_cons_of_ne_nil hgap₂'.1
        refine absurd ?_ hno
        simpa only [List.append_assoc, List.cons_append] using
          holdsKeyword_of_gap (kw ++ (gap ++ (condition ++ (gap' ++ (kw' ++ (gap'' ++ first))))))
            (gap₂' ++ (second ++ [' '])) hgap₂ hkw₂ (hgap₂'.2 b List.mem_cons_self)

end

/-- **A conditional is read back however it is written.** If the first command is a conditional as
well, it has no second command: an `else` in the line is that of the line. -/
theorem parse?_write (s : Spelling) (c : Conditional) (h : c.Writable) :
    parse? (s.write c) = some c ∧
      ∀ inner, parse? c.thenBranch = some inner → inner.elseBranch = none := by
  refine ⟨?_, fun inner => elseBranch_eq_none h.thenBranch.trimmed h.no_else⟩
  have helse : (c.elseBranch.map String.toList).map trimmed = c.elseBranch := by
    rw [Option.map_map, Option.map_congr (g := id), Option.map_id, id]
    exact fun e he => (h.elseBranch e he).trimmed_eq
  rw [parse?, Text.trimChars_eq_self (trimmed_write s h), parts_write s h, Option.map_some]
  simp only [h.condition.trimmed_eq, h.thenBranch.trimmed_eq, helse]

/-- Keywords in mixed case, one of them with a long s, and tabs among the blanks. -/
def mixed : Spelling where
  ifWord := ['I', 'f']
  afterIf := [' ']
  beforeThen := ['\t']
  thenWord := ['T', 'h', 'e', 'N']
  afterThen := [' ', ' ']
  beforeElse := [' ', '\t']
  elseWord := ['e', 'L', 'ſ', 'e']
  afterElse := ['\t']
  isKeyword_if := by decide
  isGap_afterIf := by decide
  isGap_beforeThen := by decide
  isKeyword_then := by decide
  isGap_afterThen := by decide
  isGap_beforeElse := by decide
  isKeyword_else := by decide
  isGap_afterElse := by decide

/-- The `else` belongs to the outer conditional, and the words that only look like keywords stay in
their parts. -/
theorem parse?_write_mixed :
    Writable ⟨"then > 3", "if lasted > 5 then elsewhere", some "sell else buy"⟩ ∧
      parse? "If then > 3\tTheN  if lasted > 5 then elsewhere \teLſe\tsell else buy" =
        some ⟨"then > 3", "if lasted > 5 then elsewhere", some "sell else buy"⟩ ∧
      parse? "if lasted > 5 then elsewhere" = some ⟨"lasted > 5", "elsewhere", none⟩ := by
  have h : Writable ⟨"then > 3", "if lasted > 5 then elsewhere", some "sell else buy"⟩ := by
    decide
  have hline : mixed.write ⟨"then > 3", "if lasted > 5 then elsewhere", some "sell else buy"⟩ =
      "If then > 3\tTheN  if lasted > 5 then elsewhere \teLſe\tsell else buy" := by decide
  exact ⟨h, hline ▸ (parse?_write mixed _ h).1, by decide⟩

end StreetConsole.Conditional
