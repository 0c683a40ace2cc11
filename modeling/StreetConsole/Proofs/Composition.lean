import StreetConsole.Proofs.WellFormed

/-!
# Chains put together

**Theorem (`parse_joined`).** Two lines with an operator between them are read one after the other:
what is wrong with the first is the error of the whole line, then what is wrong with the second, and
otherwise the links of the second follow those of the first, tied to them by the operator. The first
line must leave no quote open, and the second must not begin with an operator.

An operator closes the link that is being read, so that what comes after it is read afresh, except
that the chain may have been started (`parseFrom_append_op`). That and the operator reach no further
than the next link (`parseFrom_of_words`).
-/

namespace StreetConsole.Chain

/-- The chain with another operator in front of its first link. -/
def tie (operator : Option Operator) (links : List Link) : List Link :=
  links.modifyHead fun l => { l with operator := operator }

section

variable (operator : Option Operator) (started : Bool) {words : List String} (pipes : List String)

theorem parseFrom_op (words : List String) (o : Operator) (ts : List Token) :
    parseFrom operator started words pipes (.op o :: ts) = do
      let closed ← closeLink operator words pipes
      let links ← parseFrom (if started || !closed.isEmpty then some o else none)
        (started || !closed.isEmpty) [] [] ts
      return closed ++ links := rfl

theorem parseFrom_pipe_nil (ts : List Token) :
    parseFrom operator started [] pipes (.pipe :: ts) = .error .pipeWithoutCommand := by
  rw [parseFrom.eq_def]
  rfl

theorem parseFrom_pipe_word (hwords : words ≠ []) (f : String) (ts : List Token) :
    parseFrom operator started words pipes (.pipe :: .word f :: ts) =
      parseFrom operator started words (pipes ++ [f]) ts := by
  rw [parseFrom, if_neg (by simpa using hwords)]

theorem parseFrom_pipe_other (hwords : words ≠ []) {ts : List Token}
    (hts : ∀ f us, ts ≠ .word f :: us) :
    parseFrom operator started words pipes (.pipe :: ts) = .error .pipeWithoutFilter := by
  rw [parseFrom, if_neg (by simpa using hwords)]
  exact hts

theorem closeLink_of_words (hwords : words ≠ []) (pipes : List String) :
    closeLink operator words pipes =
      if (Text.unwords words).isEmpty then .error .emptyCommand
      else .ok [⟨Text.unwords words, pipes, operator⟩] := by
  rw [closeLink, if_neg (by simpa using hwords)]

theorem closeLink_eq_tie (words pipes : List String) :
    closeLink operator words pipes = tie operator <$> closeLink none words pipes := by
  unfold closeLink
  dsimp only
  split_ifs <;> rfl

end

/-- **After an operator, reading begins afresh.** -/
theorem parseFrom_append_op (operator : Option Operator) (started : Bool)
    (words pipes : List String) (ts : List Token) (o : Operator) (us : List Token) :
    parseFrom operator started words pipes (ts ++ .op o :: us) = do
      let before ← parseFrom operator started words pipes ts
      let after ← parseFrom (if started || !before.isEmpty then some o else none)
        (started || !before.isEmpty) [] [] us
      return before ++ after := by
  fun_induction parseFrom operator started words pipes ts with
  | case1 => rfl
  | case2 operator started words pipes w rest ih => exact ih
  | case3 operator started words pipes o' rest ih =>
    have hstarted (closed links : List Link) : (started || !closed.isEmpty || !links.isEmpty) =
        (started || !(closed ++ links).isEmpty) := by
      cases closed <;> simp
    rw [List.cons_append, parseFrom_op]
    simp only [ih, bind_assoc, pure_bind, hstarted, List.append_assoc]
  | case4 operator started words pipes rest hwords =>
    rw [List.isEmpty_iff.1 hwords, List.cons_append, parseFrom_pipe_nil]
    rfl
  | case5 operator started words pipes hwords f rest ih =>
    rw [List.cons_append, List.cons_append, parseFrom_pipe_word _ _ _ (by simpa using hwords), ih]
  | case6 operator started words pipes rest hwords hrest =>
    -- A pipe at the end of the first part meets the operator in place of a filter.
    have hnext : ∀ f us', rest ++ .op o :: us ≠ .word f :: us' := by
      intro f us' h
      cases rest with
      | nil => cases h
      | cons t rest => exact hrest f rest (by rw [(List.cons.inj h).1])
    rw [List.cons_append, parseFrom_pipe_other _ _ _ (by simpa using hwords) hnext]
    rfl

/-- **The operator in front reaches no further than the link that is being read.** -/
theorem parseFrom_of_words (operator : Option Operator) (started : Bool) {words : List String}
    (hwords : words ≠ []) (pipes : List String) (ts : List Token) :
    parseFrom operator started words pipes ts =
      tie operator <$> parseFrom none false words pipes ts := by
  fun_induction parseFrom operator started words pipes ts with
  | case1 operator started words pipes => exact closeLink_eq_tie operator words pipes
  | case2 operator started words pipes w rest ih => exact ih (by simp)
  | case3 operator started words pipes o rest ih =>
    rw [parseFrom_op, closeLink_of_words operator hwords, closeLink_of_words none hwords]
    split
    · rfl
    · -- From here on the chain has been started, whether it was before or not.
      show (parseFrom (if started || true then some o else none) (started || true) [] [] rest >>=
          fun links => _) = tie operator <$> (parseFrom (some o) true [] [] rest >>= fun links => _)
      rw [Bool.or_true, if_pos rfl, map_bind]
      rfl
  | case4 operator started words pipes rest hempty =>
    exact absurd (List.isEmpty_iff.1 hempty) hwords
  | case5 operator started words pipes _ f rest ih =>
    rw [ih hwords, parseFrom_pipe_word _ _ _ hwords]
  | case6 operator started words pipes rest _ hrest =>
    rw [parseFrom_pipe_other _ _ _ hwords hrest]
    rfl

/-- Tokens that do not begin with an operator are read alike after any operator. -/
theorem parseFrom_eq_tie (operator : Option Operator) (started : Bool) {ts : List Token}
    (hts : ∀ t ∈ ts.head?, ∀ o, t ≠ .op o) :
    parseFrom operator started [] [] ts = tie operator <$> ofTokens ts := by
  rcases ts with _ | ⟨w | _ | o, ts⟩
  · rfl
  · exact parseFrom_of_words operator started (by simp) [] ts
  · rw [ofTokens, parseFrom_pipe_nil, parseFrom_pipe_nil]
    rfl
  · exact absurd rfl (hts _ rfl o)

/-- **Lines with an operator between them are read one after the other.** The first error counts;
without errors the links of the second line follow those of the first, tied to them by the operator
if there are any. -/
theorem parse_joined (o : Operator) {a b : String} (ha : Token.Closed a)
    (hb : ∀ t ∈ (tokenize b).head?, ∀ o', t ≠ .op o') :
    parse (a ++ " " ++ o.symbol ++ " " ++ b) = do
      let before ← parse a
      let after ← parse b
      return before ++ tie (if before = [] then none else some o) after := by
  rw [parse, ofTokens, Token.tokenize_joined o ha, parseFrom_append_op]
  refine bind_congr fun before => ?_
  rw [parseFrom_eq_tie _ _ hb, bind_map_left]
  cases before <;> rfl

/-- A line with an operator in quotes and a pipe, and one with an operator of its own. -/
theorem parse_joined_alternative :
    Token.Closed "get 'a || b' | sort" ∧
    (∀ t ∈ (tokenize "say no ; stop").head?, ∀ o, t ≠ .op o) ∧
    parse ("get 'a || b' | sort" ++ " " ++ Operator.or.symbol ++ " " ++ "say no ; stop") =
      .ok [⟨"get a || b", ["sort"], none⟩, ⟨"say no", [], some .or⟩,
        ⟨"stop", [], some .sequence⟩] := by
  have ha : Token.Closed "get 'a || b' | sort" := by decide +kernel
  have hfirst : (tokenize "say no ; stop").head? = some (.word "say no") := by decide +kernel
  have hb : ∀ t ∈ (tokenize "say no ; stop").head?, ∀ o, t ≠ .op o := by simp [hfirst]
  exact ⟨ha, hb, (parse_joined .or ha hb).trans (by decide +kernel)⟩

end StreetConsole.Chain
