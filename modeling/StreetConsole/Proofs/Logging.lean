import StreetConsole.Log
import StreetConsole.Proofs.Discovered

/-!
# How loud loggers are

**Theorem (`configure_by_orders`).** Logging is set up by orders: one for the root logger, then
those for single loggers, then those for loggers to be silenced. The first order that is refused
ends it, with its fault, and only those in front of it are carried out. Each logger has the level of
the last order for it that was carried out, or else the one it had before. The root logger goes by
two names, and an order under either counts. It writes its records unless its own order was refused.

Only one text is refused as a level, in any case of its letters (`fault?_eq_some_iff`).

An order changes the level of its own logger and of no other (`level_setLevel`), so the levels in
the end are the last contributions of the orders (`foldl_eq_findSome?_reverse`).
-/

namespace StreetConsole.Log

/-- Whether two names are of one logger. -/
def sameLogger (a b : String) : Bool := a == b || (isRoot a && isRoot b)

/-- The fault of an order that is refused. -/
def Order.fault? (o : Order) : Option Fault :=
  match o.level with
  | .ok _ => none
  | .error f => some f

/-- The level that an order gives to a logger. -/
def Order.levelFor? (o : Order) (name : String) : Option Int :=
  if sameLogger o.logger name then o.level.toOption else none

/-- The loggers after an order; a refused one changes nothing. -/
def Loggers.carryOut (l : Loggers) (o : Order) : Loggers :=
  match o.level with
  | .ok n => l.setLevel o.logger n
  | .error _ => l

/-- The orders that are carried out: those in front of the first that is refused. -/
def carriedOut (os : List Order) : List Order := os.takeWhile (·.fault?.isNone)

/-- All orders of a setup. -/
def allOrders (general : Request) (modules silenced : Dict Request) : List Order :=
  .general general :: orders modules silenced

variable {o : Order} {os : List Order} {l : Loggers}

theorem Order.fault?_eq_some_iff {f : Fault} :
    o.fault? = some f ↔
      ∃ s, o.request = .name s ∧ Text.upper s = layoutName ∧ f = .unknownLevel layout := by
  obtain ⟨logger, request, default⟩ := o
  cases request with
  | number n => simp [fault?, level, Request.level]
  | name s =>
    by_cases h : Text.upper s = layoutName
    · simp [fault?, level, Request.level, h, eq_comm]
    · simp [fault?, level, Request.level, h]

/-! ## One order -/

theorem level_setLevel (l : Loggers) (a : String) (n : Int) (b : String) :
    (l.setLevel a n).level b = if sameLogger a b then n else l.level b := by
  by_cases ha : isRoot a = true
  · by_cases hb : isRoot b = true
    · simp [Loggers.setLevel, Loggers.level, sameLogger, ha, hb]
    · have hne : a ≠ b := by
        rintro rfl
        exact hb ha
      simp [Loggers.setLevel, Loggers.level, sameLogger, ha, hb, hne]
  · by_cases hb : isRoot b = true
    · have hne : a ≠ b := by
        rintro rfl
        exact ha hb
      simp [Loggers.setLevel, Loggers.level, sameLogger, ha, hb, hne]
    · by_cases hab : a = b
      · subst hab
        simp [Loggers.setLevel, Loggers.level, sameLogger, ha]
      · simp [Loggers.setLevel, Loggers.level, sameLogger, ha, hb, hab,
          Dict.get?_put_of_ne (Ne.symm hab)]

theorem level_carryOut (l : Loggers) (o : Order) (name : String) :
    (l.carryOut o).level name = (o.levelFor? name).getD (l.level name) := by
  unfold Loggers.carryOut Order.levelFor?
  cases o.level with
  | ok n =>
    dsimp only
    rw [level_setLevel]
    cases sameLogger o.logger name <;> rfl
  | error f => cases sameLogger o.logger name <;> rfl

theorem writers_carryOut (l : Loggers) (o : Order) : (l.carryOut o).writers = l.writers := by
  unfold Loggers.carryOut Loggers.setLevel
  split
  · split <;> rfl
  · rfl

/-! ## All orders -/

/-- The orders in front of the first that is refused are carried out in turn. -/
theorem setLevels_eq (os : List Order) (l : Loggers) :
    setLevels os l = ((carriedOut os).foldl Loggers.carryOut l, os.findSome? Order.fault?) := by
  induction os generalizing l with
  | nil => rfl
  | cons o os ih =>
    unfold setLevels carriedOut
    cases h : o.level with
    | ok n =>
      have hfault : o.fault? = none := by rw [Order.fault?, h]
      have hcarry : l.carryOut o = l.setLevel o.logger n := by rw [Loggers.carryOut, h]
      simp [hfault, hcarry, ih, carriedOut]
    | error f =>
      have hfault : o.fault? = some f := by rw [Order.fault?, h]
      simp [hfault]

theorem level_foldl_carryOut (os : List Order) (l : Loggers) (name : String) :
    (os.foldl Loggers.carryOut l).level name =
      (os.reverse.findSome? (·.levelFor? name)).getD (l.level name) := by
  have hstep (l : Loggers) (o : Order) :
      some ((l.carryOut o).level name) = (o.levelFor? name).or (some (l.level name)) := by
    rw [level_carryOut]
    cases o.levelFor? name <;> rfl
  have hlast := foldl_eq_findSome?_reverse (fun l : Loggers => some (l.level name))
    (·.levelFor? name) hstep l os
  cases h : os.reverse.findSome? (·.levelFor? name) <;> simpa [h] using hlast

theorem writers_foldl_carryOut (os : List Order) (l : Loggers) :
    (os.foldl Loggers.carryOut l).writers = l.writers := by
  induction os generalizing l with
  | nil => rfl
  | cons o os ih => rw [List.foldl_cons, ih, writers_carryOut]

/-- **The first order that is refused ends the setup, and each logger has the level of the last
order for it that came before.** -/
theorem configure_by_orders (general : Request) (modules silenced : Dict Request) :
    let all := allOrders general modules silenced
    let set := configure general modules silenced
    set.2 = all.findSome? Order.fault? ∧
    (∀ name, set.1.level name = ((carriedOut all).reverse.findSome? (·.levelFor? name)).getD
      (Loggers.initial.level name)) ∧
    set.1.writers = if (Order.general general).fault?.isNone then [.console] else [] := by
  intro all set
  cases h : (Order.general general).level with
  | error f =>
    have hfault : (Order.general general).fault? = some f := by rw [Order.fault?, h]
    have hset : set = (.initial, some f) := by simp only [set, configure, h]
    simp [hset, hfault, all, allOrders, carriedOut, Loggers.initial]
  | ok n =>
    have hfault : (Order.general general).fault? = none := by rw [Order.fault?, h]
    -- The writer apart, the order for the root logger is carried out like the others.
    have hset : set = setLevels (orders modules silenced)
        { Loggers.initial.carryOut (.general general) with writers := [.console] } := by
      simp only [set, configure, h, Loggers.carryOut]
      rfl
    have hcarried : carriedOut all = .general general :: carriedOut (orders modules silenced) := by
      simp [all, allOrders, carriedOut, hfault]
    rw [hset, setLevels_eq]
    refine ⟨by simp [all, allOrders, hfault], fun name => ?_, ?_⟩
    · have hall := level_foldl_carryOut
        (.general general :: carriedOut (orders modules silenced)) .initial name
      rw [List.foldl_cons, level_foldl_carryOut] at hall
      rw [level_foldl_carryOut, hcarried, ← hall]
      rfl
    · rw [writers_foldl_carryOut, hfault]
      rfl

end StreetConsole.Log
