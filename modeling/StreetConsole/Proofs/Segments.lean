import StreetConsole.Proofs.Composition

/-!
# Chains by their segments

The operators of a token list cut it into segments. A pipe is out of place where it begins its
segment or where no word comes right after it.

**Theorem (`ofTokens_by_segments`).** A token list is a chain exactly if no pipe is out of place,
and the first one that is decides what is wrong. The links of the chain are the segments that are
not empty: the words right after pipes are the filters, the other words make up the command, and the
operator is the one in front of the segment, which the first link does without.

Words of a token list may be empty, though not those of a line. So only a token list that no line
has can make up an empty command (`parse_ne_emptyCommand`).

The proof follows `parseFrom` with the tokens of the current segment that have been read. `Read`
says what the words and pipes gathered so far have to do with them, and every step keeps it; so what
remains to be read is always the rest of a segment whose beginning is known (`parseFrom_of_read`).
-/

namespace StreetConsole

namespace Token

/-- The operator that the token is, if it is one. -/
def operator? : Token → Option Operator
  | .op o => some o
  | .word _ | .pipe => none

def isOperator (t : Token) : Bool := t.operator?.isSome

/-- The text of a word. -/
def text? : Token → Option String
  | .word w => some w
  | .pipe | .op _ => none

end Token

namespace Chain

/-! ## Segments and their links -/

/-- The parts between the operators, one more than there are operators. -/
def bodies (ts : List Token) : List (List Token) := ts.splitOnP Token.isOperator

/-- What stands between two operators, and the operator in front of it. -/
structure Segment where
  operator : Option Operator
  body : List Token
deriving DecidableEq

/-- The segments of a token list with the given operator in front of it. -/
def segmentsAfter (operator : Option Operator) (ts : List Token) : List Segment :=
  List.zipWith Segment.mk (operator :: (ts.filterMap Token.operator?).map some) (bodies ts)

/-- Each token with the one in front of it. -/
def withPrevious (previous : Option Token) : List Token → List (Option Token × Token)
  | [] => []
  | t :: ts => (previous, t) :: withPrevious (some t) ts

/-- The words right after pipes. -/
def filtersOf (body : List Token) : List String :=
  (withPrevious none body).filterMap fun (previous, t) =>
    if previous = some .pipe then t.text? else none

/-- The words that are not right after pipes. -/
def commandOf (body : List Token) : List String :=
  (withPrevious none body).filterMap fun (previous, t) =>
    if previous = some .pipe then none else t.text?

def Segment.link (s : Segment) : Link :=
  ⟨Text.unwords (commandOf s.body), filtersOf s.body, s.operator⟩

/-- One link for each segment that is not empty. -/
def linksAfter (operator : Option Operator) (ts : List Token) : List Link :=
  ((segmentsAfter operator ts).filter (! ·.body.isEmpty)).map Segment.link

/-! ## Pipes out of place -/

/-- A pipe with these tokens of its segment before and after it begins the segment, or no word comes
right after it. -/
def OutOfPlace (before after : List Token) : Prop :=
  before = [] ∨ ∀ w, after.head? ≠ some (.word w)

/-- Some pipe of the segment is out of place. -/
def Faulty (body : List Token) : Prop :=
  ∃ before after, body = before ++ .pipe :: after ∧ OutOfPlace before after

/-- The first pipe of the segment that is out of place stands between these tokens. -/
structure FirstFault (body before after : List Token) : Prop where
  split : body = before ++ .pipe :: after
  outOfPlace : OutOfPlace before after
  first : ∀ b a, body = b ++ .pipe :: a → b.length < before.length → ¬ OutOfPlace b a

/-- What is wrong with a pipe: there is no word before it, or else none after it. -/
def pipeError (before : List Token) : ParseError :=
  if before.any Token.isWord then .pipeWithoutFilter else .pipeWithoutCommand

instance (before after : List Token) : Decidable (OutOfPlace before after) :=
  decidable_of_iff (before = [] ∨ ¬ after.head?.any Token.isWord) <| by
    rcases after with _ | ⟨_ | _ | _, _⟩ <;> simp [OutOfPlace, Token.isWord]

/-- The error of the first pipe that is out of place in the rest of a segment. -/
def errorFrom? (before : List Token) : List Token → Option ParseError
  | [] => none
  | .pipe :: after =>
    if OutOfPlace before after then some (pipeError before)
    else errorFrom? (before ++ [.pipe]) after
  | t :: after => errorFrom? (before ++ [t]) after

/-- The error of a segment. -/
def error? (body : List Token) : Option ParseError := errorFrom? [] body

/-- A pipe in a list is its first token or one of the others. -/
theorem exists_split_cons {t : Token} {ts : List Token} {P : List Token → List Token → Prop} :
    (∃ before after, t :: ts = before ++ .pipe :: after ∧ P before after) ↔
      (t = .pipe ∧ P [] ts) ∨
        ∃ before after, ts = before ++ .pipe :: after ∧ P (t :: before) after := by
  constructor
  · rintro ⟨_ | ⟨u, before⟩, after, h, hP⟩
    · obtain ⟨rfl, rfl⟩ := List.cons.inj h
      exact Or.inl ⟨rfl, hP⟩
    · obtain ⟨rfl, rfl⟩ := List.cons.inj h
      exact Or.inr ⟨before, after, rfl, hP⟩
  · rintro (⟨rfl, hP⟩ | ⟨before, after, rfl, hP⟩)
    · exact ⟨[], ts, rfl, hP⟩
    · exact ⟨t :: before, after, rfl, hP⟩

theorem forall_split_cons {t : Token} {ts : List Token} {P : List Token → List Token → Prop} :
    (∀ before after, t :: ts = before ++ .pipe :: after → P before after) ↔
      (t = .pipe → P [] ts) ∧
        ∀ before after, ts = before ++ .pipe :: after → P (t :: before) after := by
  have h := not_congr (@exists_split_cons t ts fun b a => ¬ P b a)
  simpa only [not_exists, not_and, not_or, not_not] using h

/-- The first pipe that is out of place is found, with what is wrong with it. -/
theorem errorFrom?_eq_some_iff {seen ts : List Token} {e : ParseError} :
    errorFrom? seen ts = some e ↔
      ∃ before after, ts = before ++ .pipe :: after ∧ OutOfPlace (seen ++ before) after ∧
        (∀ b a, ts = b ++ .pipe :: a → b.length < before.length → ¬ OutOfPlace (seen ++ b) a) ∧
        pipeError (seen ++ before) = e := by
  fun_induction errorFrom? seen ts with
  | case1 seen => simp
  | case2 seen after hout =>
    rw [exists_split_cons]
    simp [forall_split_cons, hout]
  | case3 seen after hout ih =>
    rw [ih, exists_split_cons]
    simp [forall_split_cons, hout]
  | case4 seen t after ht ih =>
    have ht : t ≠ .pipe := ht
    rw [ih, exists_split_cons]
    simp [forall_split_cons, ht]

theorem error?_eq_some_iff {body : List Token} {e : ParseError} :
    error? body = some e ↔ ∃ before after, FirstFault body before after ∧ pipeError before = e := by
  rw [error?, errorFrom?_eq_some_iff]
  constructor
  · rintro ⟨before, after, split, outOfPlace, first, he⟩
    exact ⟨before, after, ⟨split, outOfPlace, first⟩, he⟩
  · rintro ⟨before, after, ⟨split, outOfPlace, first⟩, he⟩
    exact ⟨before, after, split, outOfPlace, first, he⟩

theorem errorFrom?_eq_none_iff {seen ts : List Token} :
    errorFrom? seen ts = none ↔
      ∀ before after, ts = before ++ .pipe :: after → ¬ OutOfPlace (seen ++ before) after := by
  fun_induction errorFrom? seen ts with
  | case1 seen => simp
  | case2 seen after hout => simp [forall_split_cons, hout]
  | case3 seen after hout ih => simp [ih, forall_split_cons, hout]
  | case4 seen t after ht ih =>
    have ht : t ≠ .pipe := ht
    simp [ih, forall_split_cons, ht]

theorem error?_eq_none_iff {body : List Token} : error? body = none ↔ ¬ Faulty body := by
  rw [error?, errorFrom?_eq_none_iff, Faulty]
  simp only [List.nil_append, not_exists, not_and]

instance (body : List Token) : Decidable (Faulty body) :=
  decidable_of_iff (error? body ≠ none) (by rw [ne_eq, error?_eq_none_iff, not_not])

/-! ## What has been read of a segment -/

/-- The tokens of a segment that have been read, and the words and pipes gathered from them. -/
inductive Read : (seen : List Token) → (words pipes : List String) → Prop
  | nothing : Read [] [] []
  | word {seen words pipes} (h : Read seen words pipes) (w : String) :
      Read (seen ++ [.word w]) (words ++ [w]) pipes
  | pipe {seen words pipes} (h : Read seen words pipes) (hwords : words ≠ []) (f : String) :
      Read (seen ++ [.pipe, .word f]) words (pipes ++ [f])

theorem withPrevious_append (previous : Option Token) (ts us : List Token) :
    withPrevious previous (ts ++ us) =
      withPrevious previous ts ++ withPrevious (ts.getLast?.or previous) us := by
  induction ts generalizing previous with
  | nil => rfl
  | cons t ts ih =>
    simp only [List.cons_append, withPrevious, ih, List.getLast?_cons]
    cases ts.getLast? <;> rfl

namespace Read

variable {seen : List Token} {words pipes : List String}

theorem isOperator_eq_false (h : Read seen words pipes) : ∀ t ∈ seen, t.isOperator = false := by
  induction h with
  | nothing => simp
  | word h w ih => simpa [or_imp, forall_and] using ⟨ih, rfl⟩
  | pipe h hwords f ih => simpa [or_imp, forall_and] using ⟨ih, rfl, rfl⟩

theorem getLast?_ne_pipe (h : Read seen words pipes) : seen.getLast? ≠ some .pipe := by
  cases h <;> simp

theorem words_eq_nil_iff (h : Read seen words pipes) : words = [] ↔ seen = [] := by
  induction h with
  | nothing => simp
  | word h w ih => simp
  | pipe h hwords f ih => simpa using hwords

theorem any_isWord (h : Read seen words pipes) (hseen : seen ≠ []) :
    seen.any Token.isWord = true := by
  cases h with
  | nothing => exact absurd rfl hseen
  | word h w => simp [Token.isWord]
  | pipe h hwords f => simp [Token.isWord]

theorem commandOf_eq (h : Read seen words pipes) : commandOf seen = words := by
  induction h with
  | nothing => rfl
  | word h w ih =>
    rw [commandOf] at ih ⊢
    rw [withPrevious_append, List.filterMap_append, ih]
    simp [withPrevious, h.getLast?_ne_pipe, Token.text?]
  | pipe h hwords f ih =>
    rw [commandOf] at ih ⊢
    rw [withPrevious_append, List.filterMap_append, ih]
    simp [withPrevious, Token.text?]

theorem filtersOf_eq (h : Read seen words pipes) : filtersOf seen = pipes := by
  induction h with
  | nothing => rfl
  | word h w ih =>
    rw [filtersOf] at ih ⊢
    rw [withPrevious_append, List.filterMap_append, ih]
    simp [withPrevious, h.getLast?_ne_pipe]
  | pipe h hwords f ih =>
    rw [filtersOf] at ih ⊢
    rw [withPrevious_append, List.filterMap_append, ih]
    simp [withPrevious, Token.text?]

/-- The pipes that have been read are in place, whatever comes next. -/
theorem error?_append (h : Read seen words pipes) (more : List Token) :
    error? (seen ++ more) = errorFrom? seen more := by
  induction h generalizing more with
  | nothing => rfl
  | word h w ih => rw [List.append_assoc, ih, List.singleton_append, errorFrom?]; simp
  | @pipe seen words pipes h hwords f ih =>
    have hseen : seen ≠ [] := mt h.words_eq_nil_iff.2 hwords
    have hplace : ¬ OutOfPlace seen (.word f :: more) := by simp [OutOfPlace, hseen]
    rw [List.append_assoc, ih]
    simp [errorFrom?, hplace]

theorem error?_eq_none (h : Read seen words pipes) : error? seen = none := by
  have := h.error?_append []
  rwa [List.append_nil] at this

end Read

/-! ## Cutting at operators -/

section

variable {seen : List Token} (hseen : ∀ t ∈ seen, t.isOperator = false)

include hseen

theorem operators_of_not_isOperator : seen.filterMap Token.operator? = [] := by
  refine List.filterMap_eq_nil_iff.2 fun t ht => ?_
  simpa [Token.isOperator] using hseen t ht

theorem bodies_append_op (o : Operator) (ts : List Token) :
    bodies (seen ++ .op o :: ts) = seen :: bodies ts := by
  rw [bodies, List.splitOnP_append_cons seen ts rfl, List.splitOnP_eq_singleton hseen]
  rfl

theorem bodies_append {ts body : List Token} {others : List (List Token)}
    (hts : bodies ts = body :: others) : bodies (seen ++ ts) = (seen ++ body) :: others := by
  induction seen with
  | nil => exact hts
  | cons t seen ih =>
    obtain ⟨ht, hseen⟩ := List.forall_mem_cons.1 hseen
    have hrest : List.splitOnP Token.isOperator (seen ++ ts) = (seen ++ body) :: others := ih hseen
    rw [bodies, List.cons_append, List.splitOnP_cons_eq_if_modifyHead, ht, hrest]
    rfl

theorem linksAfter_of_not_isOperator (operator : Option Operator) :
    linksAfter operator seen = if seen = [] then [] else [Segment.link ⟨operator, seen⟩] := by
  rw [linksAfter, segmentsAfter, bodies, List.splitOnP_eq_singleton hseen,
    operators_of_not_isOperator hseen]
  cases seen <;> rfl

/-- An operator ends the segment in front of it and belongs to the one after it. -/
theorem linksAfter_append_op (operator : Option Operator) (o : Operator) (ts : List Token) :
    linksAfter operator (seen ++ .op o :: ts) =
      linksAfter operator seen ++ linksAfter (some o) ts := by
  rw [linksAfter_of_not_isOperator hseen, linksAfter, segmentsAfter, bodies_append_op hseen,
    List.filterMap_append, operators_of_not_isOperator hseen]
  cases seen <;> rfl

end

theorem bodies_pipe_cons {ts body : List Token} {others : List (List Token)}
    (hts : bodies ts = body :: others) : bodies (.pipe :: ts) = (.pipe :: body) :: others :=
  bodies_append (List.forall_mem_singleton.2 rfl) hts

theorem exists_bodies_eq (ts : List Token) :
    ∃ body others, bodies ts = body :: others ∧ ∀ w, body.head? = some (.word w) →
      ts.head? = some (.word w) := by
  cases ts with
  | nil => exact ⟨[], [], rfl, by simp⟩
  | cons t ts =>
    obtain ⟨body, others, h⟩ :=
      List.exists_cons_of_ne_nil (List.splitOnP_ne_nil Token.isOperator ts)
    cases ht : t.isOperator with
    | true =>
      exact ⟨[], bodies ts, by simp [bodies, List.splitOnP_cons_eq_if_modifyHead, ht], by simp⟩
    | false =>
      exact ⟨t :: body, others,
        by simp [bodies, List.splitOnP_cons_eq_if_modifyHead, ht, h], by simp⟩

/-- The operator in front does not matter where the first link does without one. -/
theorem tie_linksAfter (operator a b : Option Operator) (ts : List Token) :
    tie operator (linksAfter a ts) = tie operator (linksAfter b ts) := by
  obtain ⟨body, others, h, -⟩ := exists_bodies_eq ts
  rw [linksAfter, linksAfter, segmentsAfter, segmentsAfter, h]
  cases body <;> rfl

/-! ## Reading by segments -/

theorem unwords_ne_empty {words : List String} (hne : words ≠ []) (hwords : ∀ w ∈ words, w ≠ "") :
    Text.unwords words ≠ "" := by
  cases words with
  | nil => exact absurd rfl hne
  | cons w words =>
    have hw : w ≠ "" := hwords w List.mem_cons_self
    cases words with
    | nil => simpa [Text.unwords] using hw
    | cons v words => simp [Text.unwords, String.intercalate_cons_cons, hw]

theorem Read.of_mem_words {seen : List Token} {words pipes : List String}
    (h : Read seen words pipes) {w : String} (hw : w ∈ words) : .word w ∈ seen := by
  induction h with
  | nothing => cases hw
  | word h v ih =>
    rcases List.mem_append.1 hw with hw | hw
    · exact List.mem_append_left _ (ih hw)
    · simp [List.mem_singleton.1 hw]
  | pipe h hwords f ih => exact List.mem_append_left _ (ih hw)

/-- The link that is closed is that of the segment. -/
theorem closeLink_of_read {seen : List Token} {words pipes : List String}
    (h : Read seen words pipes) (hwords : ∀ w, .word w ∈ seen → w ≠ "")
    (operator : Option Operator) :
    closeLink operator words pipes = .ok (linksAfter operator seen) := by
  rw [linksAfter_of_not_isOperator h.isOperator_eq_false]
  by_cases hseen : seen = []
  · rw [if_pos hseen, h.words_eq_nil_iff.2 hseen, closeLink_nil]
  · have hne : words ≠ [] := mt h.words_eq_nil_iff.1 hseen
    have hcommand : Text.unwords words ≠ "" :=
      unwords_ne_empty hne fun w hw => hwords w (h.of_mem_words hw)
    rw [if_neg hseen, closeLink_of_words _ hne, if_neg (by simpa using hcommand), Segment.link,
      h.commandOf_eq, h.filtersOf_eq]

/-- The links of the rest of a line: once the chain has been started, each has its operator. -/
def restLinks (operator : Option Operator) (started : Bool) (ts : List Token) : List Link :=
  if started then linksAfter operator ts else tie none (linksAfter operator ts)

theorem restLinks_of_not_isOperator {operator : Option Operator} {started : Bool}
    {seen : List Token}
    (hseen : ∀ t ∈ seen, t.isOperator = false) (hop : started = false → operator = none) :
    restLinks operator started seen = linksAfter operator seen := by
  cases started with
  | true => rfl
  | false =>
    rw [restLinks, if_neg Bool.false_ne_true, hop rfl, linksAfter_of_not_isOperator hseen]
    split <;> rfl

/-- A segment that is not empty starts the chain. -/
theorem restLinks_append_op {operator : Option Operator} {started : Bool} {seen : List Token}
    (hseen : ∀ t ∈ seen, t.isOperator = false) (hop : started = false → operator = none)
    (o : Operator) (ts : List Token) :
    restLinks operator started (seen ++ .op o :: ts) =
      linksAfter operator seen ++
        restLinks (if started || !(linksAfter operator seen).isEmpty then some o else none)
          (started || !(linksAfter operator seen).isEmpty) ts := by
  rw [restLinks, linksAfter_append_op hseen, linksAfter_of_not_isOperator hseen]
  cases started with
  | true => simp [restLinks]
  | false =>
    rw [hop rfl]
    by_cases hempty : seen = []
    · simpa [restLinks, hempty] using tie_linksAfter none (some o) none ts
    · simp [restLinks, hempty, tie, Segment.link]

/-- **The rest of a line is read by segments**, the first of which begins with what has been
read. -/
theorem parseFrom_of_read {operator : Option Operator} {started : Bool} {words pipes : List String}
    {ts seen : List Token} (h : Read seen words pipes) (hop : started = false → operator = none)
    (hwords : ∀ w, .word w ∈ seen ++ ts → w ≠ "") :
    parseFrom operator started words pipes ts =
      match (bodies (seen ++ ts)).findSome? error? with
      | some e => .error e
      | none => .ok (restLinks operator started (seen ++ ts)) := by
  fun_induction parseFrom operator started words pipes ts generalizing seen with
  | case1 operator started words pipes =>
    rw [List.append_nil] at hwords ⊢
    rw [closeLink_of_read h hwords, bodies, List.splitOnP_eq_singleton h.isOperator_eq_false,
      List.findSome?_singleton, h.error?_eq_none,
      restLinks_of_not_isOperator h.isOperator_eq_false hop]
  | case2 operator started words pipes w rest ih =>
    rw [ih (h.word w) hop (by simpa using hwords)]
    simp
  | case3 operator started words pipes o rest ih =>
    have hseen : ∀ w, .word w ∈ seen → w ≠ "" := fun w hw => hwords w (List.mem_append_left _ hw)
    have hrest : ∀ w, .word w ∈ rest → w ≠ "" := fun w hw => hwords w (by simp [hw])
    have hop' (started : Bool) : started = false → (if started then some o else none) = none := by
      rintro rfl
      rfl
    rw [closeLink_of_read h hseen, bodies_append_op h.isOperator_eq_false,
      restLinks_append_op h.isOperator_eq_false hop]
    show (parseFrom (if started || !(linksAfter operator seen).isEmpty then some o else none)
      (started || !(linksAfter operator seen).isEmpty) [] [] rest >>= fun links => _) = _
    rw [ih (linksAfter operator seen) .nothing (hop' _) hrest, List.findSome?_cons,
      h.error?_eq_none, List.nil_append]
    cases (bodies rest).findSome? error? <;> rfl
  | case4 operator started words pipes rest hempty =>
    -- Nothing has been read of the segment, so the pipe begins it.
    obtain rfl : seen = [] := h.words_eq_nil_iff.1 (by simpa using hempty)
    obtain ⟨body, others, hbodies, -⟩ := exists_bodies_eq rest
    have hpipe : bodies (.pipe :: rest) = (.pipe :: body) :: others := bodies_pipe_cons hbodies
    rw [List.nil_append, hpipe, List.findSome?_cons]
    rfl
  | case5 operator started words pipes hempty f rest ih =>
    rw [ih (h.pipe (by simpa using hempty) f) hop (by simpa using hwords)]
    simp
  | case6 operator started words pipes rest hempty hrest =>
    -- The pipes that have been read are in place, so this one is the first that is not.
    have hseen : seen ≠ [] := mt h.words_eq_nil_iff.2 (by simpa using hempty)
    obtain ⟨body, others, hbodies, hhead⟩ := exists_bodies_eq rest
    have hpipe : bodies (.pipe :: rest) = (.pipe :: body) :: others := bodies_pipe_cons hbodies
    have hplace : OutOfPlace seen body := by
      refine Or.inr fun w hw => ?_
      obtain ⟨us, hus⟩ := List.head?_eq_some_iff.1 (hhead w hw)
      exact hrest w us hus
    rw [bodies_append h.isOperator_eq_false hpipe, List.findSome?_cons, h.error?_append, errorFrom?,
      if_pos hplace, pipeError, h.any_isWord hseen]
    rfl

theorem ofTokens_eq {ts : List Token} (hwords : ∀ w, .word w ∈ ts → w ≠ "") :
    ofTokens ts =
      match (bodies ts).findSome? error? with
      | some e => .error e
      | none => .ok (tie none (linksAfter none ts)) :=
  parseFrom_of_read .nothing (fun _ => rfl) hwords

/-- No line has an empty command, since its words are not empty. -/
theorem parse_ne_emptyCommand (line : String) : parse line ≠ .error .emptyCommand := by
  have hwords (w : String) (hw : .word w ∈ tokenize line) : w ≠ "" :=
    ((Token.canonical_tokenize line).tidy w hw).1
  rw [parse, ofTokens_eq hwords]
  cases h : (bodies (tokenize line)).findSome? error? with
  | none => simp
  | some e =>
    obtain ⟨body, -, hbody⟩ := List.exists_of_findSome?_eq_some h
    obtain ⟨before, -, -, rfl⟩ := error?_eq_some_iff.1 hbody
    have hpipe : pipeError before ≠ .emptyCommand := by
      unfold pipeError
      split <;> decide
    simpa using hpipe

theorem message_injective : Function.Injective ParseError.message := by
  intro a b h
  cases a <;> cases b <;> simp [ParseError.message] at h ⊢

theorem message_pipeError (before : List Token) :
    (pipeError before).message =
      if before.any Token.isWord then "Pipe requires a filter after it"
      else "Pipe requires a command before it" := by
  rw [pipeError]
  split <;> rfl

/-- **A token list is a chain exactly if no pipe is out of place in its segment.** Otherwise the
first pipe that is out of place decides what is wrong. The links are those of the segments that are
not empty, in their order, each with the operator in front of it but for the first. -/
theorem ofTokens_by_segments {ts : List Token} (hwords : ∀ w, .word w ∈ ts → w ≠ "") :
    ((∃ e, ofTokens ts = .error e) ↔ ∃ body ∈ bodies ts, Faulty body) ∧
    (∀ e, ofTokens ts = .error e ↔ ∃ front body back before after,
      bodies ts = front ++ body :: back ∧ (∀ b ∈ front, ¬ Faulty b) ∧
      FirstFault body before after ∧
      e.message = if before.any Token.isWord then "Pipe requires a filter after it"
        else "Pipe requires a command before it") ∧
    ((∀ body ∈ bodies ts, ¬ Faulty body) →
      ofTokens ts = .ok (tie none (linksAfter none ts))) := by
  have herror (e : ParseError) :
      ofTokens ts = .error e ↔ (bodies ts).findSome? error? = some e := by
    rw [ofTokens_eq hwords]
    cases (bodies ts).findSome? error? <;> simp
  refine ⟨?_, fun e => ?_, fun h => ?_⟩
  · simp only [herror]
    rw [← Option.isSome_iff_exists, List.findSome?_isSome_iff]
    simp only [Option.isSome_iff_ne_none, ne_eq, error?_eq_none_iff, not_not]
  · rw [herror, List.findSome?_eq_some_iff]
    constructor
    · rintro ⟨front, body, back, hsplit, hbody, hfront⟩
      obtain ⟨before, after, hfault, rfl⟩ := error?_eq_some_iff.1 hbody
      exact ⟨front, body, back, before, after, hsplit,
        fun b hb => error?_eq_none_iff.1 (hfront b hb), hfault, message_pipeError before⟩
    · rintro ⟨front, body, back, before, after, hsplit, hfront, hfault, he⟩
      have he : pipeError before = e := message_injective ((message_pipeError before).trans he.symm)
      exact ⟨front, body, back, hsplit, error?_eq_some_iff.2 ⟨before, after, hfault, he⟩,
        fun b hb => error?_eq_none_iff.2 (hfront b hb)⟩
  · have hnone : (bodies ts).findSome? error? = none :=
      List.findSome?_eq_none_iff.2 fun body hbody => error?_eq_none_iff.2 (h body hbody)
    rw [ofTokens_eq hwords, hnone]

/-- Operators at both ends and in a row, and a word after a filter. -/
def scattered : List Token :=
  [.op .and, .word "get", .word "all", .pipe, .word "grep x", .word "now", .op .sequence, .op .or,
    .word "stop", .op .and]

/-- The second pipe has no filter; the third one, which begins its segment, no longer counts. -/
def misplaced : List Token :=
  [.word "get", .pipe, .word "sort", .pipe, .op .or, .pipe, .word "sort"]

theorem ofTokens_by_segments_scattered :
    (∀ w, .word w ∈ scattered → w ≠ "") ∧ (∀ w, .word w ∈ misplaced → w ≠ "") ∧
    ofTokens scattered = .ok [⟨"get all now", ["grep x"], none⟩, ⟨"stop", [], some .or⟩] ∧
    ofTokens misplaced = .error .pipeWithoutFilter := by
  have hscattered : ∀ w, .word w ∈ scattered → w ≠ "" := by simp [scattered]
  have hmisplaced : ∀ w, .word w ∈ misplaced → w ≠ "" := by simp [misplaced]
  have hclean : ∀ body ∈ bodies scattered, ¬ Faulty body := by decide
  have hfault : FirstFault [.word "get", .pipe, .word "sort", .pipe]
      [.word "get", .pipe, .word "sort"] [] := by
    refine ⟨rfl, Or.inr (by simp), ?_⟩
    simp [forall_split_cons, OutOfPlace]
  refine ⟨hscattered, hmisplaced, ?_, ?_⟩
  · exact ((ofTokens_by_segments hscattered).2.2 hclean).trans (by decide)
  · exact ((ofTokens_by_segments hmisplaced).2.1 _).2
      ⟨[], _, [[.pipe, .word "sort"]], _, _, rfl, by simp, hfault, rfl⟩

end Chain

end StreetConsole
