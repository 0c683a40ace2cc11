import StreetConsole.Proofs.Lines
import StreetConsole.Text.LetterCase

/-!
# Letter case, line by line

A text is put in lower or upper case as a whole, and the capital sigma looks at what stands around
it. It does not look beyond its line: a line feed is not looked through and is no letter with a
case, so it ends the search for a neighbour as the end of the text does
(`meetsCased_append_feed`).

**Theorem (`lower_unlines`, `upper_unlines`).** The lines of a text in lower or upper case are its
lines in lower or upper case. No letter becomes a line feed (`isLine_lower`, `isLine_upper`): all
images of other characters in the tables of case are greater.
-/

namespace StreetConsole.Text

/-! ## The images of characters -/

/-- Runs whose images are all greater than `m` have `m` as its own image only. -/
theorem CaseRuns.eq_of_apply_eq {runs : CaseRuns} {m n : Nat}
    (hruns : ∀ r ∈ runs, (m : Int) < r.first + r.shift) (h : runs.apply n = m) : n = m := by
  induction runs with
  | nil => exact h
  | cons r rest ih =>
    obtain ⟨hr, hrest⟩ := List.forall_mem_cons.1 hruns
    unfold CaseRuns.apply at h
    split at h
    · exact h
    · split at h
      · omega
      · exact ih hrest h

/-- No other code point than that of the line feed has it in its image. -/
theorem feed_of_mem_image {runs : CaseRuns} {expansions : List (Nat × List Nat)} {n : Nat}
    (hruns : ∀ r ∈ runs, ('\n'.toNat : Int) < r.first + r.shift)
    (hexpansions : ∀ p ∈ expansions, '\n'.toNat ∉ p.2)
    (h : '\n'.toNat ∈ (expansions.lookup n).getD [runs.apply n]) : n = '\n'.toNat := by
  cases hlookup : expansions.lookup n with
  | none =>
    rw [hlookup, Option.getD_none, List.mem_singleton] at h
    exact CaseRuns.eq_of_apply_eq hruns h.symm
  | some image =>
    obtain ⟨front, back, hentry, -⟩ := List.lookup_eq_some_iff.1 hlookup
    have hmem : (n, image) ∈ expansions := by simp [hentry]
    rw [hlookup, Option.getD_some] at h
    exact absurd h (hexpansions _ hmem)

theorem feed_of_mem_lowerImage {n : Nat} (h : '\n'.toNat ∈ lowerImage n) : n = '\n'.toNat :=
  feed_of_mem_image (by decide +kernel) (by decide +kernel) h

theorem feed_of_mem_upperImage {n : Nat} (h : '\n'.toNat ∈ upperImage n) : n = '\n'.toNat :=
  feed_of_mem_image (by decide +kernel) (by decide +kernel) h

theorem feed_mem_of_mem_map_ofNat {codes : List Nat} (h : '\n' ∈ codes.map Char.ofNat) :
    '\n'.toNat ∈ codes := by
  obtain ⟨n, hn, hchar⟩ := List.mem_map.1 h
  have hcode : '\n'.toNat = n ∨ '\n'.toNat = 0 := by
    rw [← hchar, Char.ofNat]
    by_cases hvalid : n.isValidChar
    · rw [dif_pos hvalid]
      exact .inl rfl
    · rw [dif_neg hvalid]
      exact .inr rfl
  rcases hcode with hcode | hcode
  · exact hcode ▸ hn
  · cases hcode

/-! ## The neighbours of a sigma -/

theorem meetsCased_cons (c : Char) (cs : List Char) : meetsCased (c :: cs) =
    if caseIgnorableRanges.has c.toNat then meetsCased cs else casedRanges.has c.toNat := by
  unfold meetsCased
  by_cases h : caseIgnorableRanges.has c.toNat <;> simp [h]

/-- What stands beyond a line feed is not seen. -/
theorem meetsCased_append_feed (cs ds : List Char) :
    meetsCased (cs ++ '\n' :: ds) = meetsCased cs := by
  induction cs with
  | nil => rfl
  | cons c cs ih => rw [List.cons_append, meetsCased_cons, meetsCased_cons, ih]

theorem lowerAfter_append_feed_left (before beyond cs : List Char) :
    lowerAfter (before ++ '\n' :: beyond) cs = lowerAfter before cs := by
  induction cs generalizing before with
  | nil => rfl
  | cons c cs ih =>
    have hsigma : smallSigma (before ++ '\n' :: beyond) cs = smallSigma before cs := by
      rw [smallSigma, meetsCased_append_feed, smallSigma]
    rw [lowerAfter, lowerAfter, hsigma, ← ih (c :: before)]
    rfl

/-- Lower case begins anew after a line feed. -/
theorem lowerAfter_append_feed (before cs ds : List Char) :
    lowerAfter before (cs ++ '\n' :: ds) = lowerAfter before cs ++ '\n' :: lowerAfter [] ds := by
  induction cs generalizing before with
  | nil =>
    show '\n' :: lowerAfter ([] ++ '\n' :: before) ds = _
    rw [lowerAfter_append_feed_left]
    rfl
  | cons c cs ih =>
    have hsigma : smallSigma before (cs ++ '\n' :: ds) = smallSigma before cs := by
      rw [smallSigma, meetsCased_append_feed, smallSigma]
    rw [List.cons_append, lowerAfter, lowerAfter, hsigma, ih, List.append_assoc]

theorem feed_of_mem_lowerAfter {before cs : List Char} (h : '\n' ∈ lowerAfter before cs) :
    '\n' ∈ cs := by
  induction cs generalizing before with
  | nil => exact h
  | cons c cs ih =>
    rw [lowerAfter] at h
    rcases List.mem_append.1 h with h | h
    · split at h
      · unfold smallSigma at h
        split at h <;> exact absurd h (by decide)
      · have hc := feed_of_mem_lowerImage (feed_mem_of_mem_map_ofNat h)
        rw [← Char.toNat_inj.1 hc]
        exact List.mem_cons_self
    · exact List.mem_cons_of_mem c (ih h)

/-! ## Lines -/

variable {l : String}

theorem isLine_lower (h : IsLine l) : IsLine (lower l) := by
  rw [IsLine, lower, String.toList_ofList]
  exact mt feed_of_mem_lowerAfter h

theorem isLine_upper (h : IsLine l) : IsLine (upper l) := by
  rw [IsLine, upper, String.toList_ofList]
  intro hfeed
  obtain ⟨c, hc, himage⟩ := List.mem_flatMap.1 hfeed
  have hcode := feed_of_mem_upperImage (feed_mem_of_mem_map_ofNat himage)
  rw [Char.toNat_inj.1 hcode] at hc
  exact h hc

/-- A change of texts that begins anew after a line feed is one of their lines. -/
theorem change_unlines {f : String → String} (hempty : f "" = "")
    (hfeed : ∀ a b, f (a ++ "\n" ++ b) = f a ++ "\n" ++ f b) (ls : List String) :
    f (unlines ls) = unlines (ls.map f) := by
  induction ls with
  | nil => exact hempty
  | cons l ls ih =>
    cases ls with
    | nil => simp [unlines]
    | cons l' ls =>
      have hcons (l l' : String) (ls : List String) :
          unlines (l :: l' :: ls) = l ++ "\n" ++ unlines (l' :: ls) :=
        String.intercalate_cons_cons
      rw [hcons, hfeed, ih]
      exact (hcons _ _ _).symm

theorem lower_unlines (ls : List String) : lower (unlines ls) = unlines (ls.map lower) := by
  refine change_unlines rfl (fun a b => ?_) ls
  rw [← String.toList_inj]
  simp only [lower, String.toList_append, String.toList_ofList]
  have hsplit : a.toList ++ "\n".toList ++ b.toList = a.toList ++ '\n' :: b.toList := by simp
  rw [hsplit, lowerAfter_append_feed]
  simp

theorem upper_unlines (ls : List String) : upper (unlines ls) = unlines (ls.map upper) := by
  refine change_unlines rfl (fun a b => ?_) ls
  rw [← String.toList_inj]
  simp only [upper, String.toList_append, String.toList_ofList, List.flatMap_append]
  rfl

end StreetConsole.Text
