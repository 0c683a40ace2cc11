import StreetConsole.Proofs.Transcript

/-!
# Pipelines put together

A pipeline goes from filter to filter until one is unknown, fails or is given up. `Passes` says that
a text gets through: each filter is known and succeeds on what the one before it has made.

**Theorem (`pipelines_compose`).** A pipeline in two parts is the first part and then, on its
output, the second. If the first part stops, so does the whole, with the same result and without a
call of any filter of the second part. A text that gets through comes out as a success without an
error; otherwise the result is that of the first filter that did not succeed, or the failure that
names the first unknown one.

That no filter is called can only be seen in a record of the calls. So the pipeline is written once
more, with a parameter for the way in which filters are called (`pipesVia`): called as they are they
make the pipeline itself (`applyPipes_eq_pipesVia`), and with a note of each call its record
(`recorded`). The two parts can be told apart in any way of calling filters, whatever its effects
are (`pipesVia_append`), and both forms of the theorem are instances of this.
-/

namespace StreetConsole

/-- A call of a filter with a text and arguments. -/
structure FilterCall where
  filter : Filter
  text : String
  args : List String

/-- What the filter makes of the text. -/
def FilterCall.answer (c : FilterCall) : Except Fault Outcome := c.filter.apply c.text c.args

namespace FilterRegistry

/-- The name of the filter that an invocation asks for; empty if the invocation is blank. -/
def nameIn (pipe : String) : String := (Text.words pipe).headD ""

/-- The arguments in an invocation. -/
def argsIn (pipe : String) : List String := (Text.words pipe).tail

/-! ## Ways of calling filters -/

section Calling

variable {m : Type → Type} [Monad m] (call : FilterCall → m Outcome) (r : FilterRegistry)

/-- Runs a text through one invocation, calling filters in the given way. -/
def pipeVia (text pipe : String) : m Outcome :=
  match r.get? (nameIn pipe) with
  | none => return .fail ("Unknown filter: " ++ nameIn pipe)
  | some f => call ⟨f, text, argsIn pipe⟩

/-- Runs a text through a pipeline, calling filters in the given way. -/
def pipesVia (text : String) : List String → m Outcome
  | [] => return .ok text
  | pipe :: rest => do
    let o ← pipeVia call r text pipe
    if o.success then pipesVia o.output rest else return o

/-- **A pipeline in two parts**, whatever it is to call a filter: the second part is for the output
of the first, if that is a success, and is left out otherwise. -/
theorem pipesVia_append [LawfulMonad m] (text : String) (p q : List String) :
    pipesVia call r text (p ++ q) = do
      let o ← pipesVia call r text p
      if o.success then pipesVia call r o.output q else return o := by
  induction p generalizing text with
  | nil =>
    rw [List.nil_append, pipesVia, pure_bind]
    rfl
  | cons pipe p ih =>
    rw [List.cons_append, pipesVia, pipesVia, bind_assoc]
    congr 1
    funext o
    by_cases ho : o.success = true
    · rw [if_pos ho, if_pos ho, ih]
    · rw [if_neg ho, if_neg ho, pure_bind, if_neg ho]

end Calling

variable {r : FilterRegistry} {text pipe : String} {p pipes : List String} {o : Outcome}

/-- Filters that are called as they are make the pipeline itself. -/
theorem applyPipes_eq_pipesVia (r : FilterRegistry) (text : String) (pipes : List String) :
    r.applyPipes text pipes = pipesVia FilterCall.answer r text pipes := by
  induction pipes generalizing text with
  | nil => rfl
  | cons pipe pipes ih =>
    have hpipe : r.applyPipe text pipe = pipeVia FilterCall.answer r text pipe := rfl
    rw [applyPipes, pipesVia, hpipe]
    congr 1
    funext o
    rw [ih]

/-! ## The record of the calls -/

/-- Calls a filter and notes the call. -/
def noting (c : FilterCall) : Run (List FilterCall) Outcome := fun made => (c.answer, made ++ [c])

/-- Runs a text through a pipeline and notes the calls of filters. -/
def recorded (r : FilterRegistry) (text : String) (pipes : List String) :
    Run (List FilterCall) Outcome :=
  pipesVia noting r text pipes

/-- The calls of filters that a pipeline makes, in order. -/
def calls (r : FilterRegistry) (text : String) (pipes : List String) : List FilterCall :=
  (Run.on (r.recorded text pipes) []).2

/-- The call that an invocation makes: none if the filter is unknown. -/
def callsOf (r : FilterRegistry) (text pipe : String) : List FilterCall :=
  (r.get? (nameIn pipe)).toList.map fun f => ⟨f, text, argsIn pipe⟩

/-- **An invocation** fails without a call, or has the result of the one filter that it calls. -/
theorem applyPipe_cases (r : FilterRegistry) (text pipe : String) :
    (r.get? (nameIn pipe) = none ∧ r.callsOf text pipe = [] ∧
        r.applyPipe text pipe = .ok (.fail ("Unknown filter: " ++ nameIn pipe))) ∨
      ∃ f, r.get? (nameIn pipe) = some f ∧ r.callsOf text pipe = [⟨f, text, argsIn pipe⟩] ∧
        r.applyPipe text pipe = f.apply text (argsIn pipe) := by
  have happly := applyPipe_eq r text pipe
  cases hget : r.get? (nameIn pipe) with
  | none =>
    refine Or.inl ⟨rfl, by simp [callsOf, hget], ?_⟩
    rw [happly, show r.get? ((Text.words pipe).headD "") = none from hget]
    rfl
  | some f =>
    refine Or.inr ⟨f, rfl, by simp [callsOf, hget], ?_⟩
    rw [happly, show r.get? ((Text.words pipe).headD "") = some f from hget]
    rfl

theorem on_pipeVia_noting (r : FilterRegistry) (text pipe : String) (made : List FilterCall) :
    Run.on (pipeVia noting r text pipe) made =
      (r.applyPipe text pipe, made ++ r.callsOf text pipe) := by
  rcases applyPipe_cases r text pipe with ⟨hget, hcalls, happly⟩ | ⟨f, hget, hcalls, happly⟩
  · rw [pipeVia, hget, hcalls, happly, List.append_nil]
    rfl
  · rw [pipeVia, hget, hcalls, happly]
    rfl

theorem on_recorded_cons_of_stops (h : Stops (r.applyPipe text pipe)) (pipes : List String)
    (made : List FilterCall) :
    Run.on (r.recorded text (pipe :: pipes)) made =
      (r.applyPipe text pipe, made ++ r.callsOf text pipe) := by
  rw [recorded, pipesVia, Run.on_bind, on_pipeVia_noting]
  cases hpipe : r.applyPipe text pipe with
  | error f => rfl
  | ok o => simp [h o hpipe]

theorem on_recorded_cons_of_ok (h : r.applyPipe text pipe = .ok o) (ho : o.success = true)
    (pipes : List String) (made : List FilterCall) :
    Run.on (r.recorded text (pipe :: pipes)) made =
      Run.on (r.recorded o.output pipes) (made ++ r.callsOf text pipe) := by
  rw [recorded, pipesVia, Run.on_bind, on_pipeVia_noting, h]
  dsimp only
  rw [if_pos ho]
  rfl

/-- **The record of a pipeline** has the result of the pipeline, and its calls come after those that
were noted before. -/
theorem on_recorded (r : FilterRegistry) (text : String) (pipes : List String)
    (made : List FilterCall) :
    Run.on (r.recorded text pipes) made =
      (r.applyPipes text pipes, made ++ r.calls text pipes) := by
  suffices h : ∃ further, ∀ made,
      Run.on (r.recorded text pipes) made = (r.applyPipes text pipes, made ++ further) by
    obtain ⟨further, h⟩ := h
    have hcalls : r.calls text pipes = further := by simp [calls, h]
    rw [h, hcalls]
  induction pipes generalizing text with
  | nil => exact ⟨[], fun made => by simp [recorded, pipesVia, applyPipes]⟩
  | cons pipe pipes ih =>
    rcases stops_or_ok (r.applyPipe text pipe) with hstops | ⟨o, hpipe, ho⟩
    · refine ⟨r.callsOf text pipe, fun made => ?_⟩
      rw [applyPipes_cons_of_stops hstops, on_recorded_cons_of_stops hstops]
    · obtain ⟨further, h⟩ := ih o.output
      refine ⟨r.callsOf text pipe ++ further, fun made => ?_⟩
      rw [applyPipes_cons_of_ok hpipe ho, on_recorded_cons_of_ok hpipe ho, h, List.append_assoc]

theorem calls_cons_of_stops (h : Stops (r.applyPipe text pipe)) (pipes : List String) :
    r.calls text (pipe :: pipes) = r.callsOf text pipe := by
  rw [calls, on_recorded_cons_of_stops h, List.nil_append]

theorem calls_cons_of_ok (h : r.applyPipe text pipe = .ok o) (ho : o.success = true)
    (pipes : List String) :
    r.calls text (pipe :: pipes) = r.callsOf text pipe ++ r.calls o.output pipes := by
  rw [calls, on_recorded_cons_of_ok h ho, on_recorded, List.nil_append]

/-! ## Two parts -/

/-- **The result of a pipeline in two parts.** -/
theorem applyPipes_append (r : FilterRegistry) (text : String) (p q : List String) :
    r.applyPipes text (p ++ q) = do
      let o ← r.applyPipes text p
      if o.success then r.applyPipes o.output q else return o := by
  simp only [applyPipes_eq_pipesVia, pipesVia_append]

/-- **The calls of a pipeline in two parts**: those of the second part are made after a success of
the first only. -/
theorem calls_append (r : FilterRegistry) (text : String) (p q : List String) :
    r.calls text (p ++ q) = r.calls text p ++ match r.applyPipes text p with
      | .ok o => if o.success then r.calls o.output q else []
      | .error _ => [] := by
  have hrecorded : r.recorded text (p ++ q) = do
      let o ← r.recorded text p
      if o.success then r.recorded o.output q else return o :=
    pipesVia_append noting r text p q
  rw [calls, hrecorded, Run.on_bind, on_recorded, List.nil_append]
  cases r.applyPipes text p with
  | error f => exact (List.append_nil _).symm
  | ok o =>
    dsimp only
    by_cases ho : o.success = true
    · rw [if_pos ho, if_pos ho, on_recorded]
    · rw [if_neg ho, if_neg ho, List.append_nil]
      rfl

/-- Where the first part succeeds, the second goes on from its output. -/
theorem append_of_ok (h : r.applyPipes text p = .ok o) (ho : o.success = true) (q : List String) :
    r.applyPipes text (p ++ q) = r.applyPipes o.output q ∧
      r.calls text (p ++ q) = r.calls text p ++ r.calls o.output q := by
  rw [applyPipes_append, calls_append, h]
  dsimp only
  rw [if_pos ho]
  exact ⟨if_pos ho, rfl⟩

/-- Where the first part stops, no filter of the second is called. -/
theorem append_of_stops (h : Stops (r.applyPipes text p)) (q : List String) :
    r.applyPipes text (p ++ q) = r.applyPipes text p ∧
      r.calls text (p ++ q) = r.calls text p := by
  rw [applyPipes_append, calls_append]
  cases hresult : r.applyPipes text p with
  | error f => exact ⟨rfl, List.append_nil _⟩
  | ok o =>
    have ho : ¬ o.success = true := by simp [h o hresult]
    dsimp only
    rw [if_neg ho, List.append_nil]
    exact ⟨if_neg ho, rfl⟩

/-! ## How a pipeline ends -/

/-- **The text gets through the pipeline**: each filter is known and succeeds on what the one before
it has made. These are the calls, and this is what comes out. -/
inductive Passes (r : FilterRegistry) : String → List String → List FilterCall → String → Prop
  | nil (text : String) : Passes r text [] [] text
  | cons {text pipe out : String} {pipes : List String} {f : Filter} {o : Outcome}
      {calls : List FilterCall} : r.get? (nameIn pipe) = some f →
      f.apply text (argsIn pipe) = .ok o → o.success = true → Passes r o.output pipes calls out →
      Passes r text (pipe :: pipes) (⟨f, text, argsIn pipe⟩ :: calls) out

/-- A success has come through all filters, and has no error. -/
theorem passes_of_success (h : r.applyPipes text pipes = .ok o) (ho : o.success = true) :
    Passes r text pipes (r.calls text pipes) o.output ∧ o.error = none := by
  induction pipes generalizing text with
  | nil =>
    cases h
    exact ⟨.nil text, rfl⟩
  | cons pipe pipes ih =>
    rcases stops_or_ok (r.applyPipe text pipe) with hstops | ⟨o', hpipe, ho'⟩
    · rw [applyPipes_cons_of_stops hstops] at h
      rw [hstops o h] at ho
      cases ho
    · rw [applyPipes_cons_of_ok hpipe ho'] at h
      obtain ⟨hpasses, herror⟩ := ih h
      rw [calls_cons_of_ok hpipe ho']
      rcases applyPipe_cases r text pipe with ⟨-, -, happly⟩ | ⟨f, hget, hcalls, happly⟩
      · -- An unknown filter does not succeed.
        rw [happly] at hpipe
        cases hpipe
        cases ho'
      · rw [hcalls]
        exact ⟨.cons hget (happly ▸ hpipe) ho' hpasses, herror⟩

/-- **Pipelines compose.** Where the first part of a pipeline succeeds, it has no error, and the
whole does what the second part does with its output, and makes the calls of both. Where the first
part fails or is given up, the whole ends in the same way, and no filter is called beyond those of
the first part. The first part then ends at an invocation that the text has got to through all
filters in front: either its filter is unknown, or the result is that of its filter. -/
theorem pipelines_compose (r : FilterRegistry) (text : String) (p q : List String) :
    (∀ o, r.applyPipes text p = .ok o → o.success = true →
      o.error = none ∧ Passes r text p (r.calls text p) o.output ∧
      r.applyPipes text (p ++ q) = r.applyPipes o.output q ∧
      r.calls text (p ++ q) = r.calls text p ++ r.calls o.output q) ∧
    ((∀ o, r.applyPipes text p = .ok o → o.success = false) →
      r.applyPipes text (p ++ q) = r.applyPipes text p ∧
      r.calls text (p ++ q) = r.calls text p ∧
      ∃ before pipe after through, p = before ++ pipe :: after ∧
        Passes r text before (r.calls text before) through ∧
        (r.get? (nameIn pipe) = none ∧ r.calls text p = r.calls text before ∧
            r.applyPipes text p = .ok (.fail ("Unknown filter: " ++ nameIn pipe)) ∨
          ∃ f, r.get? (nameIn pipe) = some f ∧
            r.calls text p = r.calls text before ++ [⟨f, through, argsIn pipe⟩] ∧
            r.applyPipes text p = f.apply through (argsIn pipe))) := by
  refine ⟨fun o h ho => ?_, fun hstops => ?_⟩
  · obtain ⟨hpasses, herror⟩ := passes_of_success h ho
    exact ⟨herror, hpasses, append_of_ok h ho q⟩
  · obtain ⟨hresult, hcalls⟩ := append_of_stops hstops q
    refine ⟨hresult, hcalls, ?_⟩
    obtain ⟨before, pipe, after, o, rfl, hbefore, ho, hpipe⟩ :=
      (applyPipes_eq_iff_of_stops hstops).1 rfl
    -- The calls are those of the part in front, and that of the invocation at which it ends.
    have hmade : r.calls text (before ++ pipe :: after) =
        r.calls text before ++ r.callsOf o.output pipe := by
      rw [(append_of_ok hbefore ho _).2, calls_cons_of_stops (hpipe ▸ hstops)]
    refine ⟨before, pipe, after, o.output, rfl, (passes_of_success hbefore ho).1, ?_⟩
    rcases applyPipe_cases r o.output pipe with ⟨hget, hnone, happly⟩ | ⟨f, hget, hone, happly⟩
    · rw [hnone, List.append_nil] at hmade
      exact Or.inl ⟨hget, hmade, hpipe ▸ happly⟩
    · rw [hone] at hmade
      exact Or.inr ⟨f, hget, hmade, hpipe ▸ happly⟩

/-- A filter that adds a mark and warns, one that fails, and one that is given up. -/
def warier : FilterRegistry := [
  ⟨"mark", "mark", "Add a mark, with a warning", fun text _ => .ok ⟨true, text ++ "!", some "hm"⟩⟩,
  ⟨"refuse", "refuse", "Fail", fun _ args => .ok (.fail (Text.unwords args))⟩,
  ⟨"break", "break", "Be given up", fun _ _ => .error (.raised .value [])⟩]

/-- The warning is lost on the way. The failure and the unknown filter keep `break` from being
called, and where it is called the pipeline is given up. -/
theorem pipelines_compose_warier :
    warier.applyPipes "a" (["mark"] ++ ["mark"]) = .ok (.ok "a!!") ∧
    warier.applyPipes "a" (["mark", "refuse not now"] ++ ["break"]) = .ok (.fail "not now") ∧
    (warier.calls "a" (["mark", "refuse not now"] ++ ["break"])).map (·.filter.name) =
      ["mark", "refuse"] ∧
    warier.applyPipes "a" ([" lose it "] ++ ["break"]) = .ok (.fail "Unknown filter: lose") ∧
    warier.calls "a" ([" lose it "] ++ ["break"]) = [] ∧
    warier.applyPipes "a" (["break"] ++ ["mark"]) = .error (.raised .value []) := by
  have hmark := (pipelines_compose warier "a" ["mark"] ["mark"]).1 (.ok "a!") rfl rfl
  have hrefuse := (pipelines_compose warier "a" ["mark", "refuse not now"] ["break"]).2
    fun o h => by cases h; rfl
  have hlose := (pipelines_compose warier "a" [" lose it "] ["break"]).2 fun o h => by cases h; rfl
  have hbreak := (pipelines_compose warier "a" ["break"] ["mark"]).2 fun o h => by cases h
  refine ⟨hmark.2.2.1, hrefuse.1, ?_, hlose.1, hlose.2.1, hbreak.1⟩
  rw [hrefuse.2.1]
  rfl

end FilterRegistry

end StreetConsole
