import StreetConsole.Proofs.Arguments
import StreetConsole.Proofs.Conservation

/-!
# Lines without operators

`hasChainOperators` tells which lines need more than a single command. It only looks for the
characters that operators are made of and for the keyword `if`, and takes no notice of quotes. So
it may say of a single command that it needs more, but not the other way round.

**Theorem (`unchained_runs_single`).** A line that is not blank and has no chain operators in this
sense is one word or nothing at all. Executing it is running the word as a single command, or a
failure without any call of the runner. Neither the state nor the filters make a difference.

The scan of such a line never closes a word before the end (`scan_of_unchained`), and its one word is
the line without quotes. The test for a conditional is the one that is made by `execute`, so that
the line is read as a chain, of one link or none.
-/

namespace StreetConsole

/-! ## One word -/

namespace Token

/-- The character is no part of an operator. -/
def IsUnchained (c : Char) : Prop := c ≠ '|' ∧ c ≠ '&' ∧ c ≠ ';'

theorem exists_mem_spelling {t : Token} (ht : t.isWord = false) :
    ∃ c ∈ t.spelling.toList, ¬ IsUnchained c := by
  cases t with
  | word w => cases ht
  | pipe => exact ⟨'|', by decide, fun h => h.1 rfl⟩
  | op o =>
    cases o with
    | and => exact ⟨'&', by decide, fun h => h.2.1 rfl⟩
    | or => exact ⟨'|', by decide, fun h => h.1 rfl⟩
    | sequence => exact ⟨';', by decide, fun h => h.2.2 rfl⟩

/-- **Without operators a scan takes all but the quotes into one word**, wherever quotes are opened
and whether they are closed or not. -/
theorem scan_of_unchained (quote : Option Char) {cs : List Char} (h : ∀ c ∈ cs, IsUnchained c)
    (current : List Char) :
    scan quote current cs = flush ((unquoted quote cs).reverse ++ current) := by
  induction quote, cs using scan_induction generalizing current with
  | nil quote => simp [scan, unquoted]
  | goesOn quote c cs hstep ih =>
    have hcs : ∀ d ∈ cs, IsUnchained d := fun d hd => h d (List.mem_cons_of_mem c hd)
    rw [hstep, ih hcs, unquoted]
    simp [reverse_taken]
  | closes t cs ht hstep ih =>
    obtain ⟨c, hc, hchained⟩ := exists_mem_spelling ht
    exact absurd (h c (List.mem_append_left cs hc)) hchained

theorem tokenize_of_unchained {line : String}
    (h : ∀ c ∈ Text.trimChars line.toList, IsUnchained c) :
    tokenize line = wordOf (String.ofList (unquoted none (Text.trimChars line.toList))) := by
  rw [tokenize, scan_of_unchained none h, flush_eq_wordOf]
  simp

end Token

theorem hasChainOperators_eq_false_iff {line : String} :
    hasChainOperators line = false ↔
      (∀ c ∈ Text.trimChars line.toList, Token.IsUnchained c) ∧
        Conditional.isConditional line = false := by
  simp [hasChainOperators, Token.IsUnchained, Conditional.isConditional, and_assoc]

/-- A line without chain operators is nothing or one word. -/
theorem tokenize_of_not_hasChainOperators {line : String} (h : hasChainOperators line = false) :
    tokenize line = [] ∨ ∃ w, tokenize line = [.word w] := by
  rw [Token.tokenize_of_unchained (hasChainOperators_eq_false_iff.1 h).1, Token.wordOf]
  split_ifs
  · exact Or.inl rfl
  · exact Or.inr ⟨_, rfl⟩

/-! ## One command -/

namespace Engine

variable {σ : Type}

theorem execute_of_no_tokens (e : Engine σ) {line : String} (hblank : Text.trim line ≠ "")
    (hplain : Conditional.isConditional line = false) (htokens : tokenize line = [])
    (state : Value) : e.execute state line = pure (.fail "No commands to execute") := by
  rw [execute_of_not_isConditional _ _ hplain, if_neg hblank, plainLine, Chain.parse, htokens]
  rfl

/-- Of an engine, only its runner counts for a single command. -/
theorem single_of_runner_eq {e e' : Engine σ} (h : e.runner = e'.runner) (command : String) :
    e.single command = e'.single command := by
  rw [single, single, h]

/-- **A line without chain operators is run as a single command.** If it has no tokens, it fails and
no command is called. If it has one, which is a word, executing the line is running this word, which
is the one call that is made if there is a runner. In either case the result depends on the runner
only, and not on the state or the filters. -/
theorem unchained_runs_single {line : String} (hblank : Text.trim line ≠ "")
    (hline : hasChainOperators line = false) :
    ((tokenize line = [] ∧ ∀ (σ : Type) (e : Engine σ) (state : Value),
        e.execute state line = pure (.fail "No commands to execute") ∧
        ∀ s, Run.on (e.recording.execute state line) (s, []) =
          (.ok (.fail "No commands to execute"), s, [])) ∨
      ∃ w, tokenize line = [.word w] ∧ ∀ (σ : Type) (e : Engine σ) (state : Value),
        e.execute state line = e.single w ∧
        ∀ s, Run.on (e.recording.execute state line) (s, []) =
          ((Run.on (e.single w) s).1, (Run.on (e.single w) s).2, e.called w)) ∧
    ∀ (σ : Type) (e e' : Engine σ) (state state' : Value), e.runner = e'.runner →
      e.execute state line = e'.execute state' line := by
  have hplain := (hasChainOperators_eq_false_iff.1 hline).2
  rcases tokenize_of_not_hasChainOperators hline with htokens | ⟨w, htokens⟩
  · have hfails {σ : Type} (e : Engine σ) := e.execute_of_no_tokens hblank hplain htokens
    refine ⟨Or.inl ⟨htokens, fun σ e state => ⟨hfails e state, fun s => ?_⟩⟩, ?_⟩
    · rw [hfails, Run.on_pure]
    · intro σ e e' state state' _
      rw [hfails, hfails]
  · have hruns {σ : Type} (e : Engine σ) :=
      e.execute_of_lone hplain (Chain.parse_of_word htokens)
    refine ⟨Or.inr ⟨w, htokens, fun σ e state => ⟨hruns e state, fun s => ?_⟩⟩, ?_⟩
    · rw [hruns, on_single_recording, List.nil_append]
    · intro σ e e' state state' hrunner
      rw [hruns, hruns, single_of_runner_eq hrunner]

/-- A keyword in quotes makes no conditional, and a quote that is never closed does no harm. Quotes
with a blank in them make no command. -/
theorem unchained_runs_single_quoted :
    (Text.trim "'if' x > \"1 " ≠ "" ∧ hasChainOperators "'if' x > \"1 " = false ∧
      ∀ (σ : Type) (e : Engine σ) (state : Value),
        e.execute state "'if' x > \"1 " = e.single "if x > 1") ∧
    (Text.trim "'' \"" ≠ "" ∧ hasChainOperators "'' \"" = false ∧
      ∀ (σ : Type) (e : Engine σ) (state : Value),
        e.execute state "'' \"" = pure (.fail "No commands to execute")) := by
  have hword : tokenize "'if' x > \"1 " = [.word "if x > 1"] := by decide +kernel
  have hnothing : tokenize "'' \"" = [] := by decide +kernel
  have hblank : Text.trim "'if' x > \"1 " ≠ "" := by decide +kernel
  have hblank' : Text.trim "'' \"" ≠ "" := by decide +kernel
  have hline : hasChainOperators "'if' x > \"1 " = false := by decide +kernel
  have hline' : hasChainOperators "'' \"" = false := by decide +kernel
  refine ⟨⟨hblank, hline, fun σ e state => ?_⟩, hblank', hline', fun σ e state => ?_⟩
  · rcases (unchained_runs_single hblank hline).1 with ⟨hnil, -⟩ | ⟨w, hw, hruns⟩
    · rw [hword] at hnil
      cases hnil
    · rw [hword] at hw
      cases hw
      exact (hruns σ e state).1
  · rcases (unchained_runs_single hblank' hline').1 with ⟨-, hfails⟩ | ⟨w, hw, -⟩
    · exact (hfails σ e state).1
    · rw [hnothing] at hw
      cases hw

end Engine

end StreetConsole
