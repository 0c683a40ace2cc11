import StreetConsole.Engine

/-!
# What cannot be put into words

Writing a value is given up on an integer of more than `maxDigits` digits, at any depth, and on
nothing else (`Value.failsIf_written`). The text of a raised fault shows arguments of the fault, so
it may be given up as well, and then for the same reason (`Fault.failsIf_message`). All other faults
have a text.

The engine turns the faults of a runner into failures by their texts. So it is given up exactly on a
raised fault without a text (`Engine.settle_eq_error_iff`). An answer without an outcome does no
harm: the cause is an integer that is too long, and this fault has a text.
-/

namespace StreetConsole

theorem bind_ok_eq_error_iff {α β : Type} {m : Except Fault α} {r : α → β} {f : Fault} :
    m >>= (fun a => .ok (r a)) = .error f ↔ m = .error f := by
  cases m with
  | error g =>
    show Except.error g = Except.error f ↔ _
    rw [Except.error.injEq, Except.error.injEq]
  | ok a => constructor <;> nofun

/-- The computation is given up exactly if `P`, and then with the fault `g`. -/
def FailsIf {α : Type} (m : Except Fault α) (g : Fault) (P : Prop) : Prop :=
  ∀ f, m = .error f ↔ P ∧ f = g

namespace FailsIf

variable {α β : Type} {m : Except Fault α} {k : α → Except Fault β} {g : Fault} {P Q : Prop}

theorem congr (h : FailsIf m g P) (hPQ : P ↔ Q) : FailsIf m g Q := by
  rwa [hPQ] at h

theorem ok (a : α) : FailsIf (.ok a) g False := fun _ => ⟨nofun, fun h => h.1.elim⟩

theorem bind (hm : FailsIf m g P) (hk : ∀ a, FailsIf (k a) g Q) : FailsIf (m >>= k) g (P ∨ Q) := by
  intro f
  cases m with
  | error h =>
    obtain ⟨hP, rfl⟩ := (hm h).1 rfl
    show Except.error _ = Except.error f ↔ _
    rw [Except.error.injEq]
    exact ⟨fun hf => ⟨Or.inl hP, hf.symm⟩, fun hf => hf.2.symm⟩
  | ok a =>
    have hP : ¬ P := fun hP => nomatch (hm g).2 ⟨hP, rfl⟩
    show k a = .error f ↔ _
    rw [hk a f]
    simp [hP]

/-- What is done with the answer at the end cannot be given up. -/
theorem map (h : FailsIf m g P) (r : α → β) : FailsIf (m >>= fun a => .ok (r a)) g P :=
  fun f => bind_ok_eq_error_iff.trans (h f)

end FailsIf

/-! ## Values -/

namespace Value

/-- The value is, or holds at some depth, an integer of more digits than are written. -/
inductive Overlong : Value → Prop
  | int {n : Int} : maxDigits < (Nat.toDigits 10 n.natAbs).length → Overlong (.int n)
  | item {items : List Value} {v : Value} : v ∈ items → Overlong v → Overlong (.list items)
  | entry {entries : List (String × Value)} {p : String × Value} : p ∈ entries → Overlong p.2 →
      Overlong (.table entries)

theorem failsIf_writtenInt (n : Int) :
    FailsIf (writtenInt n) .integerTooLong (Overlong (.int n)) := by
  intro f
  unfold writtenInt
  dsimp only
  split
  · next hlong =>
    rw [Except.error.injEq]
    exact ⟨fun h => ⟨.int hlong, h.symm⟩, fun h => h.2.symm⟩
  · next hshort =>
    refine ⟨nofun, fun ⟨h, _⟩ => ?_⟩
    cases h with
    | int hlong => exact absurd hlong hshort

mutual

theorem failsIf_written : (v : Value) → FailsIf v.written .integerTooLong v.Overlong
  | .null => (FailsIf.ok _).congr ⟨False.elim, nofun⟩
  | .bool true => (FailsIf.ok _).congr ⟨False.elim, nofun⟩
  | .bool false => (FailsIf.ok _).congr ⟨False.elim, nofun⟩
  | .int n => failsIf_writtenInt n
  | .double _ => (FailsIf.ok _).congr ⟨False.elim, nofun⟩
  | .text _ => (FailsIf.ok _).congr ⟨False.elim, nofun⟩
  | .list items => by
    refine ((failsIf_writtenItems items).map _).congr ⟨?_, ?_⟩
    · rintro ⟨v, hv, h⟩
      exact .item hv h
    · rintro (_ | ⟨hv, h⟩)
      exact ⟨_, hv, h⟩
  | .table entries => by
    refine ((failsIf_writtenEntries entries).map _).congr ⟨?_, ?_⟩
    · rintro ⟨p, hp, h⟩
      exact .entry hp h
    · rintro (_ | _ | ⟨hp, h⟩)
      exact ⟨_, hp, h⟩

theorem failsIf_writtenItems : (items : List Value) →
    FailsIf (writtenItems items) .integerTooLong (∃ v ∈ items, v.Overlong)
  | [] => (FailsIf.ok _).congr (by simp)
  | v :: rest =>
    ((failsIf_written v).bind fun _ => (failsIf_writtenItems rest).map _).congr (by simp)

theorem failsIf_writtenEntries : (entries : List (String × Value)) →
    FailsIf (writtenEntries entries) .integerTooLong (∃ p ∈ entries, p.2.Overlong)
  | [] => (FailsIf.ok _).congr (by simp)
  | (k, v) :: rest =>
    ((failsIf_written v).bind fun _ => (failsIf_writtenEntries rest).map _).congr (by simp)

end

theorem failsIf_shown (v : Value) : FailsIf v.shown .integerTooLong v.Overlong := by
  unfold shown
  split
  · exact (FailsIf.ok _).congr ⟨False.elim, nofun⟩
  · exact failsIf_written v

end Value

/-! ## Faults -/

namespace Fault

/-- The files that the text of a system fault shows. -/
def shownFiles : List Value → List Value
  | [] | .null :: _ => []
  | [file, _, other] => [file, other]
  | file :: _ => [file]

/-- The arguments that the text of a raised fault shows: all of them, unless it is a system fault
with two to five arguments. One that is raised with a useless count shows none. -/
def shownArguments : RaisedKind → List Value → List Value
  | .system, number :: reason :: rest =>
    if 3 < rest.length then number :: reason :: rest
    else if (countError? (number :: reason :: rest)).isSome then []
    else number :: reason :: shownFiles (fileArguments number rest)
  | _, args => args

/-- The fault has no text: it would show an integer that is too long. -/
def Wordless : Fault → Prop
  | .raised kind args => ∃ v ∈ shownArguments kind args, v.Overlong
  | _ => False

theorem failsIf_argumentText (args : List Value) :
    FailsIf (argumentText args) .integerTooLong (∃ v ∈ args, v.Overlong) := by
  unfold argumentText
  split
  · exact (FailsIf.ok _).congr (by simp)
  · next v => exact v.failsIf_shown.congr (by simp)
  · exact (Value.failsIf_writtenItems args).map _

theorem failsIf_systemFaultFiles (files : List Value) :
    FailsIf (systemFaultFiles files) .integerTooLong (∃ v ∈ shownFiles files, v.Overlong) := by
  fun_cases shownFiles files with
  | case1 => exact (FailsIf.ok _).congr (by simp)
  | case2 rest => exact (FailsIf.ok _).congr (by simp)
  | case3 file between other hfile =>
    rw [systemFaultFiles.eq_3 _ _ _ hfile]
    have hother (first : String) : FailsIf (if other.isNull then .ok (": " ++ first) else do
        return ": " ++ first ++ " -> " ++ (← other.written)) .integerTooLong other.Overlong := by
      -- A second file that is null is not shown, and null is never too long.
      split
      · next hnull =>
        cases other <;> cases hnull
        exact (FailsIf.ok _).congr ⟨False.elim, nofun⟩
      · exact other.failsIf_written.map _
    exact (file.failsIf_written.bind hother).congr (by simp)
  | case4 file rest hfile hrest =>
    rw [systemFaultFiles.eq_4 _ _ hfile hrest]
    exact (file.failsIf_written.map _).congr (by simp)

theorem failsIf_systemFaultText : (args : List Value) → countError? args = none →
    FailsIf (systemFaultText args) .integerTooLong (∃ v ∈ shownArguments .system args, v.Overlong)
  | [], _ => failsIf_argumentText []
  | [v], _ => failsIf_argumentText [v]
  | number :: reason :: rest, hcount => by
    by_cases hrest : 3 < rest.length
    · simp only [systemFaultText, shownArguments, if_pos hrest]
      exact failsIf_argumentText _
    · simp only [systemFaultText, shownArguments, if_neg hrest, hcount, Option.isSome_none,
        Bool.false_eq_true, if_false]
      exact (number.failsIf_shown.bind fun _ => reason.failsIf_shown.bind fun _ =>
        (failsIf_systemFaultFiles (fileArguments number rest)).map _).congr (by simp)

/-- What is raised because of a useless count shows nothing. -/
theorem shownArguments_of_countError? {args : List Value} {e : CountError}
    (h : countError? args = some e) : shownArguments .system args = [] := by
  rcases args with _ | ⟨number, _ | ⟨reason, rest⟩⟩
  · cases h
  · cases h
  · have hrest : ¬ 3 < rest.length := by
      intro hlong
      rw [countError?, if_pos hlong] at h
      cases h
    rw [shownArguments, if_neg hrest, h]
    rfl

/-- **A fault has no text exactly if it would show an integer that is too long.** -/
theorem failsIf_message (f : Fault) : FailsIf f.message .integerTooLong f.Wordless := by
  cases f with
  | raised kind args =>
    cases kind with
    | system =>
      cases hcount : countError? args with
      | none =>
        simp only [message, hcount]
        exact failsIf_systemFaultText args hcount
      | some e =>
        simp only [message, hcount]
        exact (FailsIf.ok _).congr (by simp [Wordless, shownArguments_of_countError? hcount])
    | key =>
      rcases args with _ | ⟨v, _ | ⟨w, rest⟩⟩
      · exact failsIf_argumentText []
      · exact v.failsIf_written.congr (by simp [Wordless, shownArguments])
      · exact failsIf_argumentText (v :: w :: rest)
    | runtime | value | type | lookup => exact failsIf_argumentText args
  | _ => exact FailsIf.ok _

end Fault

/-! ## Answers of a runner -/

/-- An answer without an outcome fails on an integer that is too long. -/
theorem Reply.exists_failsIf_normalize (r : Reply) :
    ∃ P, FailsIf r.normalize .integerTooLong P := by
  have hfields (fields : Table) : ∃ P, FailsIf (ofFields fields) .integerTooLong P := by
    have herror : ∃ Q, ∀ output : String, FailsIf (if (field fields "error").truthy then do
          let error ← some <$> (field fields "error").shown
          return (⟨!isFalse (field fields "success"), output, error⟩ : Outcome)
        else return ⟨!isFalse (field fields "success"), output, none⟩) .integerTooLong Q := by
      split
      · rw [map_eq_pure_bind]
        exact ⟨_, fun _ => ((Value.failsIf_shown _).map _).map _⟩
      · exact ⟨_, fun _ => FailsIf.ok _⟩
    obtain ⟨Q, herror⟩ := herror
    unfold ofFields
    dsimp only
    split
    · exact ⟨_, (Value.failsIf_shown _).bind herror⟩
    · split
      · exact ⟨_, (Value.failsIf_shown _).bind herror⟩
      · exact ⟨_, herror ""⟩
  cases r with
  | outcome o => exact ⟨_, FailsIf.ok _⟩
  | object fields => exact hfields fields
  | value v =>
    cases v with
    | table fields => exact hfields fields
    | _ => exact ⟨_, FailsIf.ok _⟩

namespace Engine

theorem failsIf_failureOf (g : Fault) : FailsIf (failureOf g) .integerTooLong g.Wordless :=
  g.failsIf_message.map _

/-- **An answer is given up exactly if it is a fault without a text.** -/
theorem settle_eq_error_iff {command : String} {answer : Except Fault Reply} {f : Fault} :
    settle command answer = .error f ↔
      (∃ g, answer = .error g ∧ g.Wordless) ∧ f = .integerTooLong := by
  unfold settle
  cases answer with
  | error g =>
    show failureOf g = .error f ↔ _
    rw [failsIf_failureOf g f]
    simp
  | ok r =>
    obtain ⟨P, hP⟩ := r.exists_failsIf_normalize
    have hbind : (Except.ok r : Except Fault Reply).bind Reply.normalize = r.normalize := rfl
    rw [hbind]
    cases hr : r.normalize with
    | error g =>
      obtain ⟨-, rfl⟩ := (hP g).1 hr
      constructor
      · nofun
      · rintro ⟨⟨_, ⟨⟩, _⟩, _⟩
    | ok o =>
      dsimp only
      split <;> simp

end Engine

end StreetConsole
