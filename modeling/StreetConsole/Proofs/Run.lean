import StreetConsole.Engine

/-!
# Computations on a state

A computation of the engine is a function of the state it starts from: `Run.on` gives its answer and
the state after it. Two computations are the same when they agree on every state (`Run.ext`).

A sequence of two computations is opened by `on_bind_eq_ok_iff` and `on_bind_eq_error_iff`: it
returns when both parts return, and it is given up in the first part or in the second. A fold is
given up at one of its items (`on_foldlM_eq_error_iff`).

The engine does not look at the state of its runner, so a runner that writes down its calls is a
runner like any other. `Engine.recording` makes one of any engine.
-/

namespace StreetConsole

/-! ## Answers and states -/

namespace Run

variable {σ α β : Type}

/-- What a computation answers when it starts from a state, and the state after it. -/
def on (m : Run σ α) (s : σ) : Except Fault α × σ := m.run.run s

theorem ext {m n : Run σ α} (h : ∀ s, on m s = on n s) : m = n := funext h

@[simp] theorem on_pure (a : α) (s : σ) : on (pure a : Run σ α) s = (.ok a, s) := rfl

@[simp] theorem on_mk_pure (r : Except Fault α) (s : σ) :
    on (ExceptT.mk (pure r) : Run σ α) s = (r, s) := rfl

theorem on_bind (m : Run σ α) (k : α → Run σ β) (s : σ) :
    on (m >>= k) s = match on m s with
      | (.ok a, s') => on (k a) s'
      | (.error f, s') => (.error f, s') := by
  show ExceptT.bindCont k (on m s).1 (on m s).2 = _
  cases on m s with
  | mk r s' => cases r <;> rfl

theorem on_bind_of_ok {m : Run σ α} {k : α → Run σ β} {s s' : σ} {a : α}
    (h : on m s = (.ok a, s')) : on (m >>= k) s = on (k a) s' := by
  rw [on_bind, h]

theorem on_bind_of_error {m : Run σ α} {k : α → Run σ β} {s s' : σ} {f : Fault}
    (h : on m s = (.error f, s')) : on (m >>= k) s = (.error f, s') := by
  rw [on_bind, h]

theorem on_bind_eq_ok_iff {m : Run σ α} {k : α → Run σ β} {s t : σ} {b : β} :
    on (m >>= k) s = (.ok b, t) ↔
      ∃ a s', on m s = (.ok a, s') ∧ on (k a) s' = (.ok b, t) := by
  constructor
  · intro h
    rcases hm : on m s with ⟨f | a, s'⟩
    · rw [on_bind_of_error hm] at h
      cases h
    · exact ⟨a, s', rfl, by rwa [on_bind_of_ok hm] at h⟩
  · rintro ⟨a, s', hm, hk⟩
    rw [on_bind_of_ok hm, hk]

theorem on_bind_eq_error_iff {m : Run σ α} {k : α → Run σ β} {s t : σ} {f : Fault} :
    on (m >>= k) s = (.error f, t) ↔
      on m s = (.error f, t) ∨ ∃ a s', on m s = (.ok a, s') ∧ on (k a) s' = (.error f, t) := by
  constructor
  · intro h
    rcases hm : on m s with ⟨g | a, s'⟩
    · rw [on_bind_of_error hm] at h
      cases h
      exact Or.inl rfl
    · exact Or.inr ⟨a, s', rfl, by rwa [on_bind_of_ok hm] at h⟩
  · rintro (hm | ⟨a, s', hm, hk⟩)
    · exact on_bind_of_error hm
    · rw [on_bind_of_ok hm, hk]

theorem on_map (g : α → β) (m : Run σ α) (s : σ) :
    on (g <$> m) s = ((on m s).1.map g, (on m s).2) := by
  rw [map_eq_pure_bind, on_bind]
  rcases on m s with ⟨f | a, s'⟩ <;> rfl

/-- What each step of a fold keeps, the fold keeps. -/
theorem on_foldlM_invariant {step : α → β → Run σ α} {P : α → Prop} {xs : List β} {a b : α}
    {s t : σ} (hstep : ∀ x ∈ xs, ∀ a s b t, P a → on (step a x) s = (.ok b, t) → P b) (ha : P a)
    (h : on (xs.foldlM step a) s = (.ok b, t)) : P b := by
  induction xs generalizing a s with
  | nil =>
    cases h
    exact ha
  | cons x xs ih =>
    rw [List.foldlM_cons] at h
    obtain ⟨c, u, hx, hxs⟩ := on_bind_eq_ok_iff.1 h
    exact ih (fun y hy => hstep y (List.mem_cons_of_mem x hy))
      (hstep x List.mem_cons_self a s c u ha hx) hxs

/-- A fold is given up at one of its items, all items in front of it having been gone through. -/
theorem on_foldlM_eq_error_iff {step : α → β → Run σ α} {xs : List β} {a : α} {s t : σ}
    {f : Fault} :
    on (xs.foldlM step a) s = (.error f, t) ↔
      ∃ before x after b s', xs = before ++ x :: after ∧
        on (before.foldlM step a) s = (.ok b, s') ∧ on (step b x) s' = (.error f, t) := by
  induction xs generalizing a s with
  | nil => simp
  | cons x xs ih =>
    rw [List.foldlM_cons, on_bind_eq_error_iff]
    constructor
    · rintro (hx | ⟨b, s', hx, hxs⟩)
      · exact ⟨[], x, xs, a, s, rfl, rfl, hx⟩
      · obtain ⟨before, y, after, c, u, rfl, hbefore, hy⟩ := ih.1 hxs
        refine ⟨x :: before, y, after, c, u, rfl, ?_, hy⟩
        rw [List.foldlM_cons, on_bind_of_ok hx, hbefore]
    · rintro ⟨_ | ⟨z, before⟩, y, after, c, u, hxs, hbefore, hy⟩
      · obtain ⟨rfl, rfl⟩ := List.cons.inj hxs
        cases hbefore
        exact Or.inl hy
      · obtain ⟨rfl, rfl⟩ := List.cons.inj hxs
        rw [List.foldlM_cons] at hbefore
        obtain ⟨b, s', hx, hrest⟩ := on_bind_eq_ok_iff.1 hbefore
        exact Or.inr ⟨b, s', hx, ih.2 ⟨before, y, after, c, u, rfl, hrest, hy⟩⟩

/-- The state after one computation for each item, one after the other. A computation that is given
up leaves the state as it is then. -/
def after (step : β → Run σ α) (xs : List β) (s : σ) : σ :=
  xs.foldl (fun s x => (on (step x) s).2) s

theorem after_concat (step : β → Run σ α) (xs : List β) (x : β) (s : σ) :
    after step (xs ++ [x]) s = (on (step x) (after step xs s)).2 := by
  simp [after]

end Run

/-! ## Recorded calls -/

namespace Engine

variable {σ : Type}

/-- The engine that also writes down, in order, the commands that it hands to its runner. -/
def recording (e : Engine σ) : Engine (σ × List String) where
  runner := e.runner.map fun run command s =>
    ((run command s.1).1, (run command s.1).2, s.2 ++ [command])
  filters := e.filters

/-- The calls that running a command makes: one, unless there is no runner. -/
def called (e : Engine σ) (command : String) : List String :=
  if e.runner.isSome then [command] else []

theorem on_single (e : Engine σ) (command : String) (s : σ) :
    Run.on (e.single command) s = match e.runner with
      | none => (.ok (.fail "No command executor set"), s)
      | some run => (settle command (run command s).1, (run command s).2) := by
  unfold single
  cases e.runner <;> rfl

theorem on_single_recording (e : Engine σ) (command : String) (s : σ) (calls : List String) :
    Run.on (e.recording.single command) (s, calls) =
      ((Run.on (e.single command) s).1, (Run.on (e.single command) s).2,
        calls ++ e.called command) := by
  simp only [on_single, recording, called]
  cases e.runner <;> simp

theorem on_link (e : Engine σ) (l : Link) (s : σ) :
    Run.on (e.link l) s = match Run.on (e.single l.command) s with
      | (.ok o, s') =>
        (if !l.pipes.isEmpty && o.success then e.filters.applyPipes o.output l.pipes else .ok o, s')
      | (.error f, s') => (.error f, s') := by
  rw [link, Run.on_bind]
  rcases Run.on (e.single l.command) s with ⟨f | o, s'⟩
  · rfl
  · dsimp only
    split <;> rfl

/-- Recording changes neither what a link answers nor what it does to the state. -/
theorem on_link_recording (e : Engine σ) (l : Link) (s : σ) (calls : List String) :
    Run.on (e.recording.link l) (s, calls) =
      ((Run.on (e.link l) s).1, (Run.on (e.link l) s).2, calls ++ e.called l.command) := by
  simp only [on_link, on_single_recording]
  rcases Run.on (e.single l.command) s with ⟨f | o, s'⟩ <;> rfl

end Engine

end StreetConsole
