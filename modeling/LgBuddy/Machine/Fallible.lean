import Mathlib.Algebra.Group.Nat.Defs
import Mathlib.Tactic.TypeStar

/-!
# LgBuddy — functions that return an error or panic

The results of functions with unchecked arithmetic and slices: a value, an error that the function
returns, or a panic.

* `Fallible` — such results; `Fallible.bind_ok`, `Fallible.bind_panic` — where the result of two
  functions in a row comes from;
* `addUsize`, `subUsize`, `checkedAdd`, `checkedMul` — arithmetic on 64 bits;
* `slice`, `getSlice` — a range of a list, with a panic and without.
-/

namespace LgBuddy

universe u v

/-- Why there is no value. -/
inductive Abrupt (ε : Type u) where
  | error (e : ε)
  | panic
  deriving DecidableEq, Repr

abbrev Fallible (ε : Type u) (α : Type v) := Except (Abrupt ε) α

namespace Fallible

variable {ε : Type u} {α β : Type v}

def fail (e : ε) : Fallible ε α := .error (.error e)

def panic : Fallible ε α := .error .panic

/-- `Option::ok_or`. -/
def okOr (e : ε) : Option α → Fallible ε α
  | some a => .ok a
  | none => fail e

/-! ## Arithmetic and ranges -/

/-- `+` on `usize`. -/
def addUsize (a b : Nat) : Fallible ε Nat := if a + b < 2 ^ 64 then .ok (a + b) else panic

/-- `-` on `usize`. -/
def subUsize (a b : Nat) : Fallible ε Nat := if b ≤ a then .ok (a - b) else panic

def checkedAdd (a b : Nat) : Option Nat := if a + b < 2 ^ 64 then some (a + b) else none

def checkedMul (a b : Nat) : Option Nat := if a * b < 2 ^ 64 then some (a * b) else none

/-- The elements from one place up to another. -/
def range (start stop : Nat) (xs : List α) : List α := (xs.drop start).take (stop - start)

/-- `xs.get(start..stop)`. -/
def getSlice (start stop : Nat) (xs : List α) : Option (List α) :=
  if start ≤ stop ∧ stop ≤ xs.length then some (range start stop xs) else none

/-- `&xs[start..stop]`. -/
def slice (start stop : Nat) (xs : List α) : Fallible ε (List α) :=
  if start ≤ stop ∧ stop ≤ xs.length then .ok (range start stop xs) else panic

/-! ## Two functions in a row -/

theorem bind_ok {x : Except ε α} {f : α → Except ε β} {b : β} :
    (x >>= f) = .ok b ↔ ∃ a, x = .ok a ∧ f a = .ok b := by
  cases x with
  | ok a => simp [bind, Except.bind]
  | error h => simp [bind, Except.bind]

theorem mapError_ok {ε' : Type*} {x : Except ε α} {f : ε → ε'} {a : α} :
    x.mapError f = .ok a ↔ x = .ok a := by
  cases x with
  | error e =>
    constructor
    · intro h
      cases h
    · intro h
      cases h
  | ok b =>
    constructor
    · intro h
      cases h
      rfl
    · intro h
      cases h
      rfl

theorem bind_panic {x : Fallible ε α} {f : α → Fallible ε β} :
    (x >>= f) = panic ↔ x = panic ∨ ∃ a, x = .ok a ∧ f a = panic := by
  cases x with
  | ok a => simp [bind, Except.bind, panic]
  | error h => simp [bind, Except.bind, panic]

@[simp] theorem ok_bind {a : α} {f : α → Fallible ε β} : ((.ok a : Fallible ε α) >>= f) = f a := rfl

@[simp] theorem fail_ne_panic {e : ε} : (fail e : Fallible ε α) ≠ panic := by
  simp [fail, panic]

@[simp] theorem ok_ne_panic {a : α} : (.ok a : Fallible ε α) ≠ panic := by
  simp [panic]

@[simp] theorem fail_ne_ok {e : ε} {a : α} : (fail e : Fallible ε α) ≠ .ok a := by
  simp [fail]

theorem okOr_eq_ok {e : ε} {x : Option α} {a : α} : okOr e x = .ok a ↔ x = some a := by
  cases x with
  | none => simp [okOr]
  | some b => simp [okOr]

@[simp] theorem okOr_ne_panic {e : ε} {x : Option α} : okOr e x ≠ panic := by
  cases x with
  | none => exact fail_ne_panic
  | some b => exact ok_ne_panic

theorem addUsize_eq {a b : Nat} (h : a + b < 2 ^ 64) :
    (addUsize a b : Fallible ε Nat) = .ok (a + b) := if_pos h

theorem checkedAdd_eq_some {a b n : Nat} :
    checkedAdd a b = some n ↔ a + b = n ∧ a + b < 2 ^ 64 := by
  simp [checkedAdd, and_comm]

theorem checkedMul_eq_some {a b n : Nat} :
    checkedMul a b = some n ↔ a * b = n ∧ a * b < 2 ^ 64 := by
  simp [checkedMul, and_comm]

theorem getSlice_eq_some {start stop : Nat} {xs ys : List α} :
    getSlice start stop xs = some ys ↔
      (start ≤ stop ∧ stop ≤ xs.length) ∧ range start stop xs = ys := by
  unfold getSlice
  split
  · rename_i hrange
    simp [hrange]
  · rename_i hrange
    simp [hrange]

end Fallible

end LgBuddy
