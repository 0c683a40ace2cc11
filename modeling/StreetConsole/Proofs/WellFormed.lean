import StreetConsole.Chain
import StreetConsole.Proofs.Tokens

/-!
# Well-formed chains

A chain is well formed when its first link has no operator, every later link has one, and each
command and each filter is tidy.

**Theorem (`parse_eq_ok_iff_wellFormed`).** The chains that lines are read as are the well-formed
ones. A well-formed chain is read from the line that puts each character of its commands and filters
in quotes and writes the pipes and operators between them.

One direction is an invariant of `parseFrom` on canonical token lists (`rest_of_parseFrom`): the
link that is being read has at most one word, which no second word follows. The other direction
goes through the tokens of a chain: they are canonical (`canonical_tokens`), the grouping gives the
chain back (`ofTokens_tokens`), and their quoted line is that of the chain (`quotedLine_tokens`).
-/

namespace StreetConsole

/-- The command and the filters are tidy. -/
def Link.Tidy (l : Link) : Prop := Text.Tidy l.command ∧ ∀ p ∈ l.pipes, Text.Tidy p

namespace Chain

/-- Only the first link has no operator, and all texts are tidy. -/
structure WellFormed (links : List Link) : Prop where
  first : ∀ l ∈ links.head?, l.operator = none
  later : ∀ l ∈ links.tail, l.operator ≠ none
  tidy : ∀ l ∈ links, l.Tidy

/-! ## What is read is well formed -/

/-- The links that are still to be read are tidy and have operators, the first of them only if the
chain has been started. -/
structure Rest (started : Bool) (links : List Link) : Prop where
  first : ∀ l ∈ links.head?, l.operator.isSome = started
  later : ∀ l ∈ links.tail, l.operator.isSome = true
  tidy : ∀ l ∈ links, l.Tidy

theorem wellFormed_iff_rest {links : List Link} : WellFormed links ↔ Rest false links := by
  constructor
  · rintro ⟨first, later, tidy⟩
    exact ⟨fun l hl => by simp [first l hl], fun l hl => Option.isSome_iff_ne_none.2 (later l hl),
      tidy⟩
  · rintro ⟨first, later, tidy⟩
    exact ⟨fun l hl => by simpa using first l hl,
      fun l hl => Option.isSome_iff_ne_none.1 (later l hl), tidy⟩

theorem rest_nil (started : Bool) : Rest started [] := ⟨by simp, by simp, by simp⟩

/-- After a link every link has an operator. -/
theorem rest_cons {l : Link} {links : List Link} (hl : l.Tidy) (hlinks : Rest true links) :
    Rest l.operator.isSome (l :: links) := by
  refine ⟨by simp, fun k hk => ?_, List.forall_mem_cons.2 ⟨hl, hlinks.tidy⟩⟩
  cases links with
  | nil => simp at hk
  | cons k' ks =>
    rcases List.mem_cons.1 hk with rfl | hk
    · exact hlinks.first k rfl
    · exact hlinks.later k hk

theorem Rest.tail {started : Bool} {l : Link} {links : List Link} (h : Rest started (l :: links)) :
    Rest true links :=
  ⟨fun k hk => h.later k (List.mem_of_mem_head? hk),
    fun k hk => h.later k (List.mem_of_mem_tail hk), fun k hk => h.tidy k (List.mem_cons_of_mem l hk)⟩

/-- What a link consists of while it is read from canonical tokens: nothing, or one tidy word with
tidy filters and no word next. -/
inductive Reading : (words pipes : List String) → (next : List Token) → Prop
  | nothing (next) : Reading [] [] next
  | command {w pipes next} (hw : Text.Tidy w) (hpipes : ∀ p ∈ pipes, Text.Tidy p)
      (hnext : ∀ t ∈ next.head?, t.isWord = false) : Reading [w] pipes next

theorem closeLink_nil (operator : Option Operator) (pipes : List String) :
    closeLink operator [] pipes = .ok [] := rfl

theorem closeLink_singleton {w : String} (hw : w ≠ "") (operator : Option Operator)
    (pipes : List String) : closeLink operator [w] pipes = .ok [⟨w, pipes, operator⟩] := by
  have hunwords : Text.unwords [w] = w := String.intercalate_singleton
  simp [closeLink, hunwords, hw]

/-- Closing a link gives at most the link that has been read. -/
theorem closeLink_eq_ok {operator : Option Operator} {words pipes : List String} {next : List Token}
    (h : Reading words pipes next) {closed : List Link}
    (hclosed : closeLink operator words pipes = .ok closed) :
    closed = [] ∨ ∃ l : Link, l.Tidy ∧ l.operator = operator ∧ closed = [l] := by
  cases h with
  | nothing next =>
    rw [closeLink_nil] at hclosed
    cases hclosed
    exact Or.inl rfl
  | @command w pipes next hw hpipes hnext =>
    rw [closeLink_singleton hw.1] at hclosed
    cases hclosed
    exact Or.inr ⟨_, ⟨hw, hpipes⟩, rfl, rfl⟩

theorem bind_eq_ok_iff {α β : Type} {m : Except ParseError α} {k : α → Except ParseError β}
    {b : β} : m >>= k = .ok b ↔ ∃ a, m = .ok a ∧ k a = .ok b := by
  cases m with
  | error e => exact ⟨nofun, nofun⟩
  | ok a => exact ⟨fun h => ⟨a, rfl, h⟩, by rintro ⟨_, ⟨⟩, h⟩; exact h⟩

/-- **Reading canonical tokens gives a well-formed rest.** -/
theorem rest_of_parseFrom {operator : Option Operator} {started : Bool} {words pipes : List String}
    {ts : List Token} (hts : Token.Canonical ts) (hread : Reading words pipes ts)
    (hop : operator.isSome = started) {links : List Link}
    (h : parseFrom operator started words pipes ts = .ok links) : Rest started links := by
  fun_induction parseFrom operator started words pipes ts generalizing links with
  | case1 operator started words pipes =>
    obtain rfl | ⟨l, hl, rfl, rfl⟩ := closeLink_eq_ok hread h
    · exact rest_nil started
    · exact hop ▸ rest_cons hl (rest_nil true)
  | case2 operator started words pipes w rest ih =>
    refine ih hts.tail ?_ hop h
    cases hread with
    | nothing => exact .command (hts.tidy w List.mem_cons_self) (by simp) hts.head_of_word
    | command hw hpipes hnext => exact absurd (hnext _ rfl) (by simp [Token.isWord])
  | case3 operator started words pipes o rest ih =>
    obtain ⟨closed, hclosed, h⟩ := bind_eq_ok_iff.1 h
    obtain ⟨links', hlinks, h⟩ := bind_eq_ok_iff.1 h
    cases h
    have hrest := ih closed hts.tail (.nothing rest) (by split <;> simp_all) hlinks
    obtain rfl | ⟨l, hl, hlop, rfl⟩ := closeLink_eq_ok hread hclosed
    · simpa using hrest
    · have hrest' : Rest true links' := by simpa using hrest
      rw [← hop, ← hlop]
      exact rest_cons hl hrest'
  | case4 operator started words pipes rest hwords => cases h
  | case5 operator started words pipes hwords f rest ih =>
    refine ih hts.tail.tail ?_ hop h
    cases hread with
    | nothing => exact absurd rfl hwords
    | command hw hpipes hnext =>
      have hf : Text.Tidy f := hts.tidy f (by simp)
      refine .command hw (fun p hp => ?_) hts.tail.head_of_word
      rcases List.mem_append.1 hp with hp | hp
      · exact hpipes p hp
      · rw [List.mem_singleton.1 hp]
        exact hf
  | case6 => cases h

theorem wellFormed_of_parse {line : String} {links : List Link} (h : parse line = .ok links) :
    WellFormed links :=
  wellFormed_iff_rest.2 (rest_of_parseFrom (Token.canonical_tokenize line) (.nothing _) rfl h)

/-! ## What is well formed is read -/

/-- A pipe and its filter, for each filter. -/
def pipeTokens (pipes : List String) : List Token := pipes.flatMap fun p => [.pipe, .word p]

/-- The operator of a link, if it has one, its command and its pipes. -/
def linkTokens (l : Link) : List Token :=
  l.operator.toList.map .op ++ .word l.command :: pipeTokens l.pipes

/-- The tokens that spell a chain. -/
def tokens (links : List Link) : List Token := links.flatMap linkTokens

theorem tokens_cons (l : Link) (links : List Link) :
    tokens (l :: links) =
      l.operator.toList.map .op ++ .word l.command :: (pipeTokens l.pipes ++ tokens links) := by
  simp [tokens, linkTokens]

theorem parseFrom_pipeTokens (operator : Option Operator) (started : Bool) (w : String)
    (pipes pipes' : List String) (ts : List Token) :
    parseFrom operator started [w] pipes (pipeTokens pipes' ++ ts) =
      parseFrom operator started [w] (pipes ++ pipes') ts := by
  induction pipes' generalizing pipes with
  | nil => simp [pipeTokens]
  | cons p ps ih =>
    show parseFrom operator started [w] (pipes ++ [p]) (pipeTokens ps ++ ts) = _
    rw [ih]
    simp

/-- The tokens of a link are read as the link, and then come the tokens of the others. -/
theorem parseFrom_tokens {links : List Link} (hlinks : Rest true links) {w : String} (hw : w ≠ "")
    (operator : Option Operator) (started : Bool) (pipes : List String) :
    parseFrom operator started [w] pipes (tokens links) = .ok (⟨w, pipes, operator⟩ :: links) := by
  induction links generalizing w operator started pipes with
  | nil => exact closeLink_singleton hw operator pipes
  | cons l links ih =>
    obtain ⟨o, ho⟩ : ∃ o, l.operator = some o := Option.isSome_iff_exists.1 (hlinks.first l rfl)
    have hcommand : l.command ≠ "" := (hlinks.tidy l List.mem_cons_self).1.1
    rw [tokens_cons, ho]
    show (closeLink operator [w] pipes >>= fun closed => _) = _
    rw [closeLink_singleton hw]
    show (parseFrom (if (started || true) then some o else none) (started || true) [l.command] []
      (pipeTokens l.pipes ++ tokens links) >>= fun links => _) = _
    rw [parseFrom_pipeTokens, ih hlinks.tail hcommand, Bool.or_true, if_pos rfl, ← ho]
    rfl

/-- Grouping the tokens of a well-formed chain gives the chain. -/
theorem ofTokens_tokens {links : List Link} (h : WellFormed links) :
    ofTokens (tokens links) = .ok links := by
  cases links with
  | nil => rfl
  | cons l links =>
    have hop : l.operator = none := h.first l rfl
    have hrest : Rest true links := (wellFormed_iff_rest.1 h).tail
    rw [tokens_cons, hop]
    show parseFrom none false [l.command] [] (pipeTokens l.pipes ++ tokens links) = _
    rw [parseFrom_pipeTokens, parseFrom_tokens hrest (h.tidy l List.mem_cons_self).1.1, ← hop]
    rfl

theorem canonical_pipeTokens_append {pipes : List String} (hpipes : ∀ p ∈ pipes, Text.Tidy p)
    {ts : List Token} (hts : Token.Canonical ts) (hhead : ∀ t ∈ ts.head?, t.isWord = false) :
    Token.Canonical (pipeTokens pipes ++ ts) ∧
      ∀ t ∈ (pipeTokens pipes ++ ts).head?, t.isWord = false := by
  induction pipes with
  | nil => exact ⟨hts, hhead⟩
  | cons p ps ih =>
    obtain ⟨hp, hps⟩ := List.forall_mem_cons.1 hpipes
    obtain ⟨hcanonical, hhead'⟩ := ih hps
    exact ⟨Token.canonical_cons rfl (Token.canonical_word_cons hp hcanonical hhead'),
      by simp [pipeTokens, Token.isWord]⟩

theorem head_tokens {links : List Link} (h : Rest true links) :
    ∀ t ∈ (tokens links).head?, t.isWord = false := by
  cases links with
  | nil => simp [tokens]
  | cons l links =>
    obtain ⟨o, ho⟩ : ∃ o, l.operator = some o := Option.isSome_iff_exists.1 (h.first l rfl)
    simp [tokens_cons, ho, Token.isWord]

theorem canonical_tokens {started : Bool} {links : List Link} (h : Rest started links) :
    Token.Canonical (tokens links) := by
  induction links generalizing started with
  | nil => exact Token.canonical_nil
  | cons l links ih =>
    obtain ⟨hcommand, hpipes⟩ := h.tidy l List.mem_cons_self
    obtain ⟨hcanonical, hhead⟩ :=
      canonical_pipeTokens_append hpipes (ih h.tail) (head_tokens h.tail)
    have hwords := Token.canonical_word_cons hcommand hcanonical hhead
    rw [tokens_cons]
    cases l.operator with
    | none => exact hwords
    | some o => exact Token.canonical_cons rfl hwords

/-! ## The line of a chain -/

/-- A command and its filters in quotes, with pipes between them. -/
def quotedLink (l : Link) : String :=
  " | ".intercalate ((l.command :: l.pipes).map Token.quoteText)

/-- The links in quotes, each after its operator. -/
def quotedLine (links : List Link) : String :=
  String.join (links.map fun l =>
    (l.operator.elim "" fun o => " " ++ o.symbol ++ " ") ++ quotedLink l)

theorem quotedLine_cons (l : Link) (links : List Link) :
    quotedLine (l :: links) =
      (l.operator.elim "" fun o => " " ++ o.symbol ++ " ") ++ quotedLink l ++ quotedLine links := by
  simp [quotedLine, String.join_cons]

theorem quotedLine_pipeTokens (w : String) (pipes : List String) (ts : List Token) :
    Token.quotedLine (.word w :: (pipeTokens pipes ++ ts)) =
      " | ".intercalate ((w :: pipes).map Token.quoteText) ++
        if ts = [] then "" else " " ++ Token.quotedLine ts := by
  induction pipes generalizing w with
  | nil => simp [pipeTokens, Token.quotedLine_cons, Token.quotedSpelling]
  | cons p ps ih =>
    show Token.quotedLine (.word w :: .pipe :: .word p :: (pipeTokens ps ++ ts)) = _
    have hpipe (t : String) : " " ++ ("|" ++ (" " ++ t)) = " | " ++ t := by
      rw [← String.append_assoc, ← String.append_assoc]
      rfl
    rw [Token.quotedLine_cons, Token.quotedLine_cons, ih]
    simp [Token.quotedSpelling, Token.spelling, String.intercalate_cons_cons, String.append_assoc,
      hpipe]

/-- The later links of a chain are written as their tokens are, after a space. -/
theorem quotedLine_eq_of_rest {links : List Link} (h : Rest true links) :
    (if tokens links = [] then "" else " " ++ Token.quotedLine (tokens links)) =
      quotedLine links := by
  induction links with
  | nil => rfl
  | cons l links ih =>
    obtain ⟨o, ho⟩ : ∃ o, l.operator = some o := Option.isSome_iff_exists.1 (h.first l rfl)
    rw [tokens_cons, ho, quotedLine_cons, ho, ← ih h.tail]
    show " " ++ Token.quotedLine
      (.op o :: .word l.command :: (pipeTokens l.pipes ++ tokens links)) = _
    rw [Token.quotedLine_cons, if_neg (by simp), quotedLine_pipeTokens]
    simp [Token.quotedSpelling, Token.spelling, quotedLink, String.append_assoc]

/-- The line of a well-formed chain is the quoted line of its tokens. -/
theorem quotedLine_tokens {links : List Link} (h : WellFormed links) :
    Token.quotedLine (tokens links) = quotedLine links := by
  cases links with
  | nil => rfl
  | cons l links =>
    rw [tokens_cons, quotedLine_cons, h.first l rfl,
      ← quotedLine_eq_of_rest (wellFormed_iff_rest.1 h).tail]
    exact (quotedLine_pipeTokens _ _ _).trans (by simp [quotedLink])

theorem parse_quotedLine {links : List Link} (h : WellFormed links) :
    parse (quotedLine links) = .ok links := by
  rw [parse, ← quotedLine_tokens h,
    Token.tokenize_of_canonical (canonical_tokens (wellFormed_iff_rest.1 h)), ofTokens_tokens h]

/-- **The chains that lines are read as are the well-formed ones**, and a well-formed chain is read
from its quoted line. -/
theorem parse_eq_ok_iff_wellFormed (links : List Link) :
    ((∃ line, parse line = .ok links) ↔ WellFormed links) ∧
      (WellFormed links → parse (quotedLine links) = .ok links) :=
  ⟨⟨fun ⟨_, h⟩ => wellFormed_of_parse h, fun h => ⟨_, parse_quotedLine h⟩⟩, parse_quotedLine⟩

example :
    quotedLine [⟨"a;'b", ["||"], none⟩, ⟨"c", [], some .or⟩] =
        "'a'';'\"'\"'b' | '|''|' || 'c'" ∧
      parse "'a'';'\"'\"'b' | '|''|' || 'c'" =
        .ok [⟨"a;'b", ["||"], none⟩, ⟨"c", [], some .or⟩] := by
  decide +kernel

end Chain

end StreetConsole
