import StreetConsole.Proofs.Pieces
import StreetConsole.Proofs.ReadBack
import StreetConsole.Proofs.Scan

/-!
# Arguments in quotes

Quotes are read twice: `tokenize` takes them off the line, and what is left is split into words
by the runner, which would respect quotes but does not see any.

**Theorem (`quotedCall_intact_iff`).** A line of a name and arguments in double quotes calls the
command of that name once. The command is given the pieces of the arguments between spaces, tabs and
line ends, not the arguments themselves; it gets these exactly if no argument holds a separator and
the last one does not end with a blank. Operators in an argument do no harm.

The proof follows the line through both readings. The scan takes the name and the quoted texts into
one word (`tokenize_quotedCall`), which loses the blanks at its end; without quotes and backslashes
the words of a command are its pieces (`words_eq_pieces`).
-/

namespace StreetConsole

/-! ## Words of a command without quotes -/

namespace Command

/-- The character is taken as it is when a command is split into words: it is no quote and no
backslash. -/
def isLiteral (c : Char) : Bool := !isQuote c && c != '\\'

theorem splitFrom_eq_pieces {cs : List Char} (hcs : ∀ c ∈ cs, isLiteral c = true) :
    (∀ word hadQuotes,
      splitFrom .between word hadQuotes cs = some (Text.pieces isSeparator cs)) ∧
    ∀ word, word ≠ [] → (∀ c ∈ word, isSeparator c = false) →
      splitFrom .bare word false cs = some (Text.pieces isSeparator (word.reverse ++ cs)) := by
  induction cs with
  | nil =>
    refine ⟨fun word hadQuotes => rfl, fun word hne hword => ?_⟩
    rw [List.append_nil, Text.pieces_eq_singleton (by simpa using hword) (by simpa using hne)]
    simp [splitFrom, finish, hne]
  | cons c cs ih =>
    obtain ⟨hbetween, hbare⟩ := ih fun d hd => hcs d (List.mem_cons_of_mem c hd)
    have hc : isQuote c = false ∧ c ≠ '\\' := by
      simpa [isLiteral] using hcs c List.mem_cons_self
    constructor
    · intro word hadQuotes
      by_cases hsep : isSeparator c = true
      · rw [Text.pieces_cons hsep, ← hbetween word hadQuotes, splitFrom, if_pos hsep]
      · rw [splitFrom, if_neg hsep, if_neg hc.2, if_neg (by simp [hc.1]),
          hbare [c] (List.cons_ne_nil c []) (by simpa using hsep)]
        rfl
    · intro word hne hword
      by_cases hsep : isSeparator c = true
      · rw [Text.pieces_append_cons _ hsep, Text.pieces_eq_singleton (by simpa using hword)
          (by simpa using hne), splitFrom, if_pos hsep, hbetween]
        simp [finish, hne]
      · have hcword : ∀ d ∈ c :: word, isSeparator d = false := by
          intro d hd
          rcases List.mem_cons.1 hd with rfl | hd
          · simpa using hsep
          · exact hword d hd
        rw [splitFrom, if_neg hsep, if_neg hc.2, if_neg (by simp [hc.1]),
          hbare (c :: word) (List.cons_ne_nil c word) hcword]
        simp

/-- **Without quotes and backslashes the words of a command are its pieces between separators.** -/
theorem words_eq_pieces {command : String} (h : ∀ c ∈ command.toList, isLiteral c = true) :
    words command = (Text.pieces isSeparator command.toList).map String.ofList := by
  rw [words, (splitFrom_eq_pieces h).1]

end Command

/-! ## Words with spaces between them -/

namespace Text

variable {p : Char → Bool} {name : String} {ws : List String}

theorem toList_unwords_cons (w : String) (ws : List String) :
    (unwords (w :: ws)).toList = w.toList ++ ws.flatMap fun v => ' ' :: v.toList := by
  induction ws generalizing w with
  | nil => simp [unwords]
  | cons v ws ih =>
    have hcons : unwords (w :: v :: ws) = w ++ (" " ++ unwords (v :: ws)) := by
      simp [unwords, String.intercalate_cons_cons, String.append_assoc]
    rw [hcons, String.toList_append, String.toList_append, ih]
    simp

/-- Words with spaces between them are found again as pieces. -/
theorem pieces_unwords (hspace : p ' ' = true)
    (hws : ∀ w ∈ ws, w ≠ "" ∧ ∀ c ∈ w.toList, p c = false) :
    pieces p (unwords ws).toList = ws.map String.toList := by
  induction ws with
  | nil => rfl
  | cons w ws ih =>
    obtain ⟨hne, hw⟩ := hws w List.mem_cons_self
    have hpiece : pieces p w.toList = [w.toList] := pieces_eq_singleton hw (by simpa using hne)
    have hrest := ih fun v hv => hws v (List.mem_cons_of_mem w hv)
    cases ws with
    | nil => simpa [unwords] using hpiece
    | cons v ws =>
      rw [toList_unwords_cons, List.flatMap_cons, List.cons_append, ← toList_unwords_cons,
        pieces_append_cons _ hspace, hpiece, hrest]
      rfl

/-- A word in front keeps the blanks at the beginning of what follows it. -/
theorem exists_trimChars_append {w : List Char} (hne : w ≠ [])
    (hw : ∀ c ∈ w, isBlank c = false) (cs : List Char) :
    ∃ front after, cs = front ++ after ∧ (∀ c ∈ after, isBlank c = true) ∧
      trimChars (w ++ cs) = w ++ front := by
  obtain ⟨before, after, hall, hbefore, hafter⟩ := exists_eq_blanks_trimChars (w ++ cs)
  have hnil : before = [] := by
    cases before with
    | nil => rfl
    | cons b before =>
      obtain ⟨c, w, rfl⟩ := List.exists_cons_of_ne_nil hne
      have hb := hbefore b List.mem_cons_self
      rw [← (List.cons.inj hall).1, hw c List.mem_cons_self] at hb
      cases hb
  rw [hnil, List.nil_append] at hall
  rcases List.append_eq_append_iff.1 hall with ⟨front, htrim, hcs⟩ | ⟨extra, hwextra, hextra⟩
  · exact ⟨front, after, hcs, hafter, htrim⟩
  · -- What is taken off is blank, so it cannot begin inside the word.
    have hnone : extra = [] := by
      refine List.eq_nil_iff_forall_not_mem.2 fun c hc => ?_
      have hblank := hafter c (hextra ▸ List.mem_append_left cs hc)
      rw [hw c (hwextra ▸ List.mem_append_right _ hc)] at hblank
      cases hblank
    rw [hnone, List.append_nil] at hwextra
    rw [hnone, List.nil_append] at hextra
    exact ⟨[], cs, rfl, hextra ▸ hafter, by rw [← hwextra, List.append_nil]⟩

/-- If trimming loses no character that satisfies `q`, and the last one does, then nothing is taken
off at the end. -/
theorem isBlank_of_filter_trimChars {q : Char → Bool} {cs : List Char} {c : Char}
    (h : (trimChars cs).filter q = cs.filter q) (hc : c ∈ cs.getLast?) (hq : q c = true) :
    isBlank c = false := by
  obtain ⟨before, after, hcs, -, -⟩ := exists_eq_blanks_trimChars cs
  have hlost : (before.filter q).length + (after.filter q).length = 0 := by
    have hlength := congrArg List.length h
    rw [congrArg (List.filter q) hcs, List.filter_append, List.filter_append, List.length_append,
      List.length_append] at hlength
    omega
  have hbefore : c ∉ before := fun hmem => by
    have hpos := List.length_pos_of_mem (List.mem_filter.2 ⟨hmem, hq⟩)
    omega
  have hafter : c ∉ after := fun hmem => by
    have hpos := List.length_pos_of_mem (List.mem_filter.2 ⟨hmem, hq⟩)
    omega
  -- The last character is in none of the parts taken off, so it is the last one of what is left.
  have hlast : c ∈ (trimChars cs).getLast? := by
    rw [hcs, List.getLast?_append, List.getLast?_append] at hc
    cases hend : after.getLast? with
    | some d =>
      rw [hend] at hc
      cases hc
      exact absurd (List.mem_of_getLast? hend) hafter
    | none =>
      cases hmid : (trimChars cs).getLast? with
      | some d => simpa [hend, hmid] using hc
      | none =>
        rw [hend, hmid] at hc
        exact absurd (List.mem_of_getLast? hc) hbefore
  exact (trimmed_trimChars cs).2 c hlast

theorem map_ofList_eq_iff {pieces : List (List Char)} {ws : List String} :
    pieces.map String.ofList = ws ↔ pieces = ws.map String.toList := by
  constructor
  · rintro rfl
    simp [Function.comp_def]
  · rintro rfl
    simp [Function.comp_def]

end Text

/-! ## The line -/

/-- The character means nothing by itself in a line: it is no blank, quote or backslash, and no part
of an operator. -/
def isPlain (c : Char) : Bool :=
  !Text.isBlank c && Command.isLiteral c && c != '|' && c != '&' && c != ';'

/-- The text is a word of plain characters. -/
def PlainWord (w : String) : Prop := w ≠ "" ∧ ∀ c ∈ w.toList, isPlain c = true

theorem PlainWord.isBlank {w : String} (hw : PlainWord w) :
    ∀ c ∈ w.toList, Text.isBlank c = false := by
  intro c hc
  have hplain := hw.2 c hc
  simp only [isPlain, Bool.and_eq_true, Bool.not_eq_true'] at hplain
  exact hplain.1.1.1.1

theorem PlainWord.isLiteral {w : String} (hw : PlainWord w) :
    ∀ c ∈ w.toList, Command.isLiteral c = true := by
  intro c hc
  have hplain := hw.2 c hc
  simp only [isPlain, Bool.and_eq_true] at hplain
  exact hplain.1.1.1.2

/-- The character is taken into a word wherever it stands: it is no quote and no part of an
operator. -/
def Token.isInert (c : Char) : Bool := !isQuote c && c != '|' && c != '&' && c != ';'

theorem PlainWord.isInert {w : String} (hw : PlainWord w) :
    ∀ c ∈ w.toList, Token.isInert c = true := by
  intro c hc
  have hplain := hw.2 c hc
  simp only [isPlain, Command.isLiteral, Bool.and_eq_true] at hplain
  obtain ⟨⟨⟨⟨-, hquote, -⟩, hpipe⟩, hand⟩, hsequence⟩ := hplain
  simp only [Token.isInert, Bool.and_eq_true]
  exact ⟨⟨⟨hquote, hpipe⟩, hand⟩, hsequence⟩

/-- The text in double quotes. -/
def inQuotes (text : String) : String :=
  String.singleton Text.doubleQuote ++ text ++ String.singleton Text.doubleQuote

/-- The line that calls a command by name, with its arguments in double quotes. -/
def quotedCall (name : String) (args : List String) : String :=
  Text.unwords (name :: args.map inQuotes)

namespace Token

theorem scan_inert_append {cs : List Char} (hcs : ∀ c ∈ cs, isInert c = true)
    (current rest : List Char) :
    scan none current (cs ++ rest) = scan none (cs.reverse ++ current) rest := by
  induction cs generalizing current with
  | nil => rfl
  | cons c cs ih =>
    have hc := hcs c List.mem_cons_self
    simp only [isInert, Bool.and_eq_true, bne_iff_ne, Bool.not_eq_true'] at hc
    obtain ⟨⟨⟨hquote, hpipe⟩, hand⟩, hsequence⟩ := hc
    rw [List.cons_append, scan_turn_none (fun _ h => absurd h hand) hpipe hsequence]
    simp [turn, taken, hquote, ih fun d hd => hcs d (List.mem_cons_of_mem c hd)]

/-- Arguments in quotes are taken into the word so far, with a space in front of each. -/
theorem scan_quotedArgs {args : List String} (hargs : ∀ a ∈ args, Text.doubleQuote ∉ a.toList)
    (current : List Char) :
    scan none current ((args.map inQuotes).flatMap fun a => ' ' :: a.toList) =
      flush ((args.flatMap fun a => ' ' :: a.toList).reverse ++ current) := by
  induction args generalizing current with
  | nil => rfl
  | cons a args ih =>
    have hquoted : ' ' :: (inQuotes a).toList =
        ' ' :: Text.doubleQuote :: (a.toList ++ [Text.doubleQuote]) := by
      simp [inQuotes]
    have hscan (cs : List Char) :
        scan none current (' ' :: Text.doubleQuote :: (a.toList ++ [Text.doubleQuote]) ++ cs) =
          scan none (a.toList.reverse ++ ' ' :: current) cs := by
      show scan (some Text.doubleQuote) (' ' :: current) (a.toList ++ [Text.doubleQuote] ++ cs) = _
      rw [List.append_assoc, List.singleton_append, scan_quoted (hargs a List.mem_cons_self)]
    rw [List.map_cons, List.flatMap_cons, hquoted, hscan,
      ih fun b hb => hargs b (List.mem_cons_of_mem a hb)]
    simp

/-- **A call with arguments in quotes becomes one word**, which has no quotes any more. -/
theorem tokenize_quotedCall {name : String} {args : List String} (hname : PlainWord name)
    (hargs : ∀ a ∈ args, Text.doubleQuote ∉ a.toList) :
    tokenize (quotedCall name args) = [.word (Text.trim (Text.unwords (name :: args)))] := by
  have hword : tokenize (quotedCall name args) = wordOf (Text.unwords (name :: args)) := by
    rw [tokenize_eq_scan, quotedCall, Text.toList_unwords_cons, scan_inert_append hname.isInert,
      scan_quotedArgs hargs, flush_eq_wordOf]
    congr 1
    rw [← String.toList_inj, Text.toList_unwords_cons]
    simp
  have hne : name.toList ≠ [] := by simpa using hname.1
  obtain ⟨front, -, -, -, htrim⟩ := Text.exists_trimChars_append hne hname.isBlank
    (args.flatMap fun a => ' ' :: a.toList)
  rw [hword, wordOf, if_neg]
  rw [← String.toList_inj, Text.toList_trim, Text.toList_unwords_cons, htrim]
  simp [hne]

end Token

/-! ## What the command is given -/

namespace Command

variable {name : String} {args : List String}

/-- The name of a call and what is given to its command: the pieces of the text without quotes. -/
def callWords (name : String) (args : List String) : List String :=
  (Text.pieces isSeparator (Text.trim (Text.unwords (name :: args))).toList).map String.ofList

theorem isBlank_of_isSeparator {c : Char} (h : isSeparator c = true) : Text.isBlank c = true := by
  simp only [isSeparator, Bool.or_eq_true, beq_iff_eq] at h
  rcases h with ((rfl | rfl) | rfl) | rfl <;> rfl

theorem isSeparator_of_isBlank_eq_false {c : Char} (h : Text.isBlank c = false) :
    isSeparator c = false := by
  rw [← Bool.not_eq_true] at h ⊢
  exact fun hc => h (isBlank_of_isSeparator hc)

/-- The first word of a call is its name. -/
theorem exists_callWords (hname : PlainWord name) (args : List String) :
    ∃ given, callWords name args = name :: given := by
  have hne : name.toList ≠ [] := by simpa using hname.1
  have hpiece : Text.pieces isSeparator name.toList = [name.toList] :=
    Text.pieces_eq_singleton (fun c hc => isSeparator_of_isBlank_eq_false (hname.isBlank c hc)) hne
  obtain ⟨front, after, hcut, -, htrim⟩ := Text.exists_trimChars_append hne hname.isBlank
    (args.flatMap fun a => ' ' :: a.toList)
  rw [callWords, Text.toList_trim, Text.toList_unwords_cons, htrim]
  cases front with
  | nil => exact ⟨[], by rw [List.append_nil, hpiece]; simp⟩
  | cons c front =>
    -- What follows the name begins with a space.
    have hc : isSeparator c = true := by
      cases args with
      | nil => cases hcut
      | cons a args =>
        rw [← (List.cons.inj hcut).1]
        rfl
    rw [Text.pieces_append_cons _ hc, hpiece]
    exact ⟨(Text.pieces isSeparator front).map String.ofList, by simp⟩

theorem getLast?_unwords (hargs : ∀ a ∈ args, a ≠ "") :
    (Text.unwords (name :: args)).toList.getLast? =
      (args.getLast?.getD name).toList.getLast? := by
  rw [Text.toList_unwords_cons]
  rcases List.eq_nil_or_concat args with rfl | ⟨front, a, rfl⟩
  · simp
  · have ha : a.toList ≠ [] := by simpa using hargs a (by simp)
    rw [List.concat_eq_append, List.flatMap_append, List.flatMap_singleton, ← List.append_assoc,
      ← List.singleton_append, ← List.append_assoc, List.getLast?_append_of_ne_nil _ ha]
    simp

/-- **Arguments reach the command as they are** exactly if none of them holds a separator and the
last one does not end with a blank. -/
theorem callWords_eq_iff (hname : PlainWord name) (hargs : ∀ a ∈ args, a ≠ "") :
    callWords name args = name :: args ↔
      (∀ a ∈ args, ∀ c ∈ a.toList, isSeparator c = false) ∧
        ∀ a ∈ args.getLast?, ∀ c ∈ a.toList.getLast?, Text.isBlank c = false := by
  have hseparators (hsep : ∀ a ∈ args, ∀ c ∈ a.toList, isSeparator c = false) :
      Text.pieces isSeparator (Text.unwords (name :: args)).toList =
        (name :: args).map String.toList := by
    refine Text.pieces_unwords rfl fun w hw => ?_
    rcases List.mem_cons.1 hw with rfl | hw
    · exact ⟨hname.1, fun c hc => isSeparator_of_isBlank_eq_false (hname.isBlank c hc)⟩
    · exact ⟨hargs w hw, hsep w hw⟩
  rw [callWords, Text.map_ofList_eq_iff, Text.toList_trim]
  constructor
  · intro hintact
    have hsep : ∀ a ∈ args, ∀ c ∈ a.toList, isSeparator c = false := by
      intro a ha c hc
      have hpiece : a.toList ∈ (name :: args).map String.toList :=
        List.mem_map_of_mem (List.mem_cons_of_mem name ha)
      rw [← hintact] at hpiece
      exact Text.of_mem_pieces hpiece hc
    refine ⟨hsep, fun a ha c hc => ?_⟩
    -- The pieces are the same with and without trimming, so it takes off separators only.
    have hkept := congrArg List.flatten (hintact.trans (hseparators hsep).symm)
    rw [Text.flatten_pieces, Text.flatten_pieces] at hkept
    have hlast : c ∈ (Text.unwords (name :: args)).toList.getLast? := by
      rwa [getLast?_unwords hargs, Option.mem_def.1 ha, Option.getD_some]
    have hcsep : isSeparator c = false :=
      hsep a (List.mem_of_getLast? ha) c (List.mem_of_getLast? hc)
    exact Text.isBlank_of_filter_trimChars hkept hlast (by rw [hcsep]; rfl)
  · rintro ⟨hsep, hlast⟩
    have htrimmed : Text.Trimmed (Text.unwords (name :: args)).toList := by
      constructor
      · intro c hc
        rw [Text.toList_unwords_cons, List.head?_append_of_ne_nil _ (by simpa using hname.1)] at hc
        exact hname.isBlank c (List.mem_of_mem_head? hc)
      · intro c hc
        rw [getLast?_unwords hargs] at hc
        cases ha : args.getLast? with
        | none =>
          rw [ha] at hc
          exact hname.isBlank c (List.mem_of_getLast? hc)
        | some a =>
          rw [ha] at hc
          exact hlast a ha c hc
    rw [Text.trimChars_eq_self htrimmed, hseparators hsep]

end Command

/-! ## Running the line -/

section Call

variable {name : String} {args : List String}

/-- A line that is one word is a lone command. -/
theorem Chain.parse_of_word {line w : String} (h : tokenize line = [.word w]) :
    Chain.parse line = .ok [⟨w, [], none⟩] := by
  have hw : Text.Tidy w := (Token.canonical_tokenize line).tidy w (by rw [h]; simp)
  rw [Chain.parse, h]
  exact Chain.closeLink_singleton hw.1 none []

theorem parse_quotedCall (hname : PlainWord name)
    (hargs : ∀ a ∈ args, ∀ c ∈ a.toList, Command.isLiteral c = true) :
    Chain.parse (quotedCall name args) =
      .ok [⟨Text.trim (Text.unwords (name :: args)), [], none⟩] := by
  refine Chain.parse_of_word (Token.tokenize_quotedCall hname fun a ha hquote => ?_)
  exact absurd (hargs a ha _ hquote) (by decide)

theorem words_quotedCall (hname : PlainWord name)
    (hargs : ∀ a ∈ args, ∀ c ∈ a.toList, Command.isLiteral c = true) :
    Command.words (Text.trim (Text.unwords (name :: args))) = Command.callWords name args := by
  refine Command.words_eq_pieces fun c hc => ?_
  have hmem : c ∈ name.toList ++ args.flatMap fun a => ' ' :: a.toList := by
    rw [← Text.toList_unwords_cons]
    rw [Text.toList_trim] at hc
    exact Text.mem_of_mem_trimChars hc
  rcases List.mem_append.1 hmem with hc | hc
  · exact hname.isLiteral c hc
  · obtain ⟨a, ha, hc⟩ := List.mem_flatMap.1 hc
    rcases List.mem_cons.1 hc with rfl | hc
    · rfl
    · exact hargs a ha c hc

/-- **A line with arguments in quotes calls its command once**, with the pieces of the arguments
between separators. These are the arguments themselves exactly if no argument holds a separator and
the last one does not end with a blank. The arguments may be any texts without quotes and
backslashes, and the name any plain word that does not make the line a conditional. -/
theorem quotedCall_intact_iff {commands : Commands} {handler : Handler}
    (hregistered : Dict.get? commands name = some handler) (hname : PlainWord name)
    (hargs : ∀ a ∈ args, a ≠ "" ∧ ∀ c ∈ a.toList, Command.isLiteral c = true)
    (hline : Conditional.isConditional (quotedCall name args) = false)
    {e : Engine Console} (he : e.runner = some commands.runner) :
    ∃ given, Command.callWords name args = name :: given ∧
      (∀ state console, Run.on (e.execute state (quotedCall name args)) console =
        (Engine.settle (Text.trim (Text.unwords (name :: args))) (handler given console).1,
          (handler given console).2)) ∧
      (given = args ↔
        (∀ a ∈ args, ∀ c ∈ a.toList, Command.isSeparator c = false) ∧
          ∀ a ∈ args.getLast?, ∀ c ∈ a.toList.getLast?, Text.isBlank c = false) := by
  obtain ⟨given, hgiven⟩ := Command.exists_callWords hname args
  have hliteral : ∀ a ∈ args, ∀ c ∈ a.toList, Command.isLiteral c = true := fun a ha =>
    (hargs a ha).2
  have hwords := (words_quotedCall hname hliteral).trans hgiven
  refine ⟨given, hgiven, fun state console => ?_, ?_⟩
  · rw [Engine.execute_of_lone e hline (parse_quotedCall hname hliteral),
      Engine.on_single_of_words he hwords hregistered]
  · rw [← Command.callWords_eq_iff hname fun a ha => (hargs a ha).1, hgiven]
    simp

/-- A command that shows its arguments, each on a line of its own. -/
def argumentLines : Handler := fun args => Command.reply (.ok (Text.unlines args))

/-- Operators and blanks of other kinds reach the command as they are. -/
theorem quotedCall_intact_iff_operators :
    let commands : Commands := [("list", argumentLines)]
    let args := ["a;b", "||", "x\u00a0y"]
    let console : Console := ⟨⟨[]⟩, ⟨Settings.packaged, .packaged⟩⟩
    quotedCall "list" args = "list \"a;b\" \"||\" \"x\u00a0y\"" ∧ PlainWord "list" ∧
    (∀ a ∈ args, a ≠ "" ∧ ∀ c ∈ a.toList, Command.isLiteral c = true) ∧
    Run.on (commands.engine.execute .null (quotedCall "list" args)) console =
      (.ok (.ok "a;b\n||\nx\u00a0y"), console) := by
  intro commands args console
  have hname : PlainWord "list" := ⟨by decide, List.all_eq_true.1 (by decide)⟩
  have hargs : ∀ a ∈ args, a ≠ "" ∧ ∀ c ∈ a.toList, Command.isLiteral c = true := by
    have hall : ∀ a ∈ args, a ≠ "" ∧ a.toList.all Command.isLiteral = true := by decide
    simpa only [List.all_eq_true] using hall
  have hseparators : ∀ a ∈ args, ∀ c ∈ a.toList, Command.isSeparator c = false := by
    have hall : ∀ a ∈ args, a.toList.all (! Command.isSeparator ·) = true := by decide
    simpa only [List.all_eq_true, Bool.not_eq_true'] using hall
  have hregistered : Dict.get? commands "list" = some argumentLines := rfl
  have hrunner : commands.engine.runner = some commands.runner := rfl
  obtain ⟨given, -, hrun, hintact⟩ :=
    quotedCall_intact_iff hregistered hname hargs (by decide +kernel) hrunner
  have hgiven : given = args := by
    refine hintact.2 ⟨hseparators, ?_⟩
    rintro a ⟨⟩ c ⟨⟩
    decide
  refine ⟨by decide, hname, hargs, ?_⟩
  rw [hrun, hgiven]
  rfl

/-- A space in an argument cuts it in two: the command is not given what stood in the quotes. -/
theorem quotedCall_space_cut :
    let commands : Commands := [("list", argumentLines)]
    let console : Console := ⟨⟨[]⟩, ⟨Settings.packaged, .packaged⟩⟩
    let line := quotedCall "list" ["a b"]
    line = "list \"a b\"" ∧
    Run.on (commands.engine.execute .null line) console = (.ok (.ok "a\nb"), console) ∧
    argumentLines ["a b"] console = (.ok (.outcome (.ok "a b")), console) := by
  intro commands console line
  have hname : PlainWord "list" := ⟨by decide, List.all_eq_true.1 (by decide)⟩
  have hargs : ∀ a ∈ ["a b"], ∀ c ∈ a.toList, Command.isLiteral c = true := by
    have hall : ∀ a ∈ ["a b"], a.toList.all Command.isLiteral = true := by decide
    simpa only [List.all_eq_true] using hall
  have hwords : Command.words (Text.trim (Text.unwords ["list", "a b"])) = ["list", "a", "b"] := by
    decide +kernel
  have hrunner : commands.engine.runner = some commands.runner := rfl
  refine ⟨by decide, ?_, rfl⟩
  rw [Engine.execute_of_lone _ (by decide +kernel) (parse_quotedCall hname hargs),
    Engine.on_single_of_words hrunner hwords rfl]
  rfl

end Call

end StreetConsole
