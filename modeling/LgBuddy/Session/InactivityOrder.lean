import LgBuddy.Session.InactivitySafety

/-!
# LgBuddy — delivery order of a lock and of user input

Lock signals and user input reach the engine from different threads, so which of them is handled
first is a race. The two orders end in engines with different fields; `lock_activity_order` says
that no later sequence of calls can tell them apart. The relation behind it is `OrderRel`, in one
of three modes:

* the engines are equal (the input was stale, or the lock was already overtaken);
* `HeldPair`: the input fell into the lock's grace. One engine recorded it in its activity floor,
  the other did not; both wait for input behind the grace, which also passes both floors;
* `SpentPair`: the input lies behind the grace. One engine still carries the grace deadline, but
  the activity floor is already past it.

Both modes are kept by every call whose lock is not older than the last one, and `outputs_eq_of_rel`
closes the argument.
-/

namespace LgBuddy

open Mealy

/-- The instant an operation carries. -/
def EngineOp.at : EngineOp → Option Instant
  | .activity _ a => some a
  | .providerIdle t => some t
  | .completeBlank _ c => some c
  | .lock l => some l
  | .unlock => none
  | .time t _ => some t

/-- No instant of the run lies before `start`. -/
def SinceStart (start : Instant) (ops : List EngineOp) : Prop :=
  ∀ op ∈ ops, ∀ t ∈ op.at, start ≤ t

/-- Locks in order behind `last` are locks of which none is older than the one before it. -/
theorem NondecreasingLocks.admissible {last : Instant} {q : List EngineOp}
    (h : NondecreasingLocks (.lock last :: q)) :
    Admissible (fun last op => ∀ l ∈ op.lockAt, last ≤ l)
      (fun last op => op.lockAt.getD last) last q := by
  induction q generalizing last with
  | nil => trivial
  | cons op q ih =>
    obtain ⟨hle, hrest⟩ := h.uncons
    exact ⟨hle, ih hrest⟩

namespace InactivityEngine

variable {e e' e₀ x y : InactivityEngine} {start last : Instant} {op : EngineOp}
  {out : Option InactivityDecision} {k : InactivityObservation} {a l : Instant}

/-! ## Deadlines of runs that stay behind the start -/

/-- The blank deadline is the one of the start or the one of something already handled. -/
def DeadlineWithin (start : Instant) (e : InactivityEngine) : Prop :=
  ∀ d ∈ e.blankAt, d ≤ start + e.blankAfter ∨ ∃ f, FloorAtLeast e f ∧ d ≤ f + e.blankAfter

/-- An accepted observation sets the deadline to exactly its own. -/
theorem DeadlineWithin.accept_blankAt (hd : DeadlineWithin start e) (ha : start ≤ a)
    (hfresh : ¬ Stale e a) : (e.accept k a).blankAt = some (a + e.blankAfter) := by
  cases hb : e.blankAt with
  | none =>
    simp only [accept, hb, Option.getD_none, Option.some.injEq]
    exact Nat.max_eq_right (Nat.le_add_right a _)
  | some d =>
    simp only [accept, hb, Option.getD_some, Option.some.injEq]
    refine Nat.max_eq_right ?_
    rcases hd d hb with hds | ⟨f, hf, hdf⟩
    · lia
    · have := hf.of_fresh hfresh
      lia

/-- Every step at or after the start keeps the deadline within its bound. -/
theorem DeadlineWithin.effect (hw : Wf e) (hd : DeadlineWithin start e)
    (hop : ∀ t ∈ op.at, start ≤ t) (hs : Effect e op e' out) : DeadlineWithin start e' := by
  -- an unchanged deadline stays within its bound, because the floor only rises
  have hkeep : ∀ d ∈ e.blankAt, d ≤ start + e.blankAfter
      ∨ ∃ f, FloorAtLeast e' f ∧ d ≤ f + e.blankAfter := fun d hmem =>
    (hd d hmem).imp id fun ⟨f, hf, hdf⟩ => ⟨f, hf.effect hw hs, hdf⟩
  cases hs with
  | @accepted k a hfresh _ =>
    intro d hmem
    rw [hd.accept_blankAt (hop a rfl) hfresh, Option.mem_def, Option.some.injEq] at hmem
    exact .inr ⟨a, ⟨a, rfl, Nat.le_refl a⟩, Nat.le_of_eq hmem.symm⟩
  | idle | lock => intro d hmem; cases hmem
  | _ => exact hkeep

/-- Along a run since the start the deadline stays within its bound. -/
theorem Built.run_deadlineWithin (hb : Built e₀ start) (ops : List EngineOp)
    (hstart : SinceStart start ops) : DeadlineWithin start (e₀.run ops) := by
  refine run_induct (P := fun h e => SinceStart start h → DeadlineWithin start e) hb.wf ?_
    (fun is op e' out hw hs _ ih hst => ?_) ops hstart
  · intro _ d hd
    refine .inl (Nat.le_of_eq ?_)
    cases hb <;> exact (Option.some.inj hd).symm
  · exact (ih fun o ho => hst o (by simp [ho])).effect hw (hst op (by simp)) hs

/-! ## Engines that differ in the floor under a pending lock -/

/-- A lock is pending in both engines, which differ in the activity floor only; both floors are
at or below the latest input on record. -/
structure HeldPair (last : Instant) (x y : InactivityEngine) : Prop where
  eq : y = { x with activityFloor := y.activityFloor }
  held : ∃ l, LockHeld l last x
  seen : ∃ z ∈ x.latestIndependentActivityAt,
    (∀ f ∈ x.activityFloor, f ≤ z) ∧ ∀ f ∈ y.activityFloor, f ≤ z

/-- Everything below the latest input on record leaves that record as it is. -/
theorem note_eq_of_stale {z : Instant} (hz : z ∈ e.latestIndependentActivityAt)
    (hfloor : ∀ f ∈ e.activityFloor, f ≤ z) (hstale : Stale e a) : e.note k a = e := by
  obtain ⟨f, hf, haf⟩ := hstale
  have haz : a ≤ z := Nat.le_of_lt (Nat.lt_of_lt_of_le haf (hfloor f hf))
  rw [Option.mem_def] at hz
  cases hk : k.independent with
  | false => simp [note, latestWith, hk]
  | true =>
    have hlat : e.latestWith k a = e.latestIndependentActivityAt := by
      simp [latestWith, hk, hz, Nat.max_eq_left haz]
    rw [note, hlat]

/-- A blocked observation is only noted, stale or not. -/
theorem step_of_blocks {z : Instant} (hw : Wf e) (hz : z ∈ e.latestIndependentActivityAt)
    (hfloor : ∀ f ∈ e.activityFloor, f ≤ z) (hblock : Blocks e k a) :
    e.step (.activity k a) = (e.note k a, some .noOp) := by
  by_cases hstale : Stale e a
  · rw [note_eq_of_stale hz hfloor hstale]
    exact (Effect.stale hstale).step_eq hw
  · exact (Effect.ignored hstale hblock).step_eq hw

/-- The two engines of a held pair block the same observations. -/
theorem HeldPair.blocks_iff (h : HeldPair last x y) : Blocks y k a ↔ Blocks x k a := by
  rw [h.eq]
  rfl

/-- The latest input after an observation is no earlier than the one before. -/
theorem exists_ge_latestWith {z : Instant} (hz : z ∈ e.latestIndependentActivityAt)
    (k : InactivityObservation) (a : Instant) : ∃ z' ∈ e.latestWith k a, z ≤ z' := by
  rw [Option.mem_def] at hz
  cases hk : k.independent with
  | false => exact ⟨z, by simp [latestWith, hk, hz], Nat.le_refl z⟩
  | true => exact ⟨max z a, by simp [latestWith, hk, hz], Nat.le_max_left z a⟩

/-- Input that passes a pending lock passes every floor at or below the input on record. -/
theorem LockHeld.fresh_of_passes {z : Instant} (hh : LockHeld l last e)
    (hz : z ∈ e.latestIndependentActivityAt) (hpass : ¬ Blocks e k a)
    {floor : Option Instant} (hfloor : ∀ f ∈ floor, f ≤ z) :
    ¬ Stale { e with activityFloor := floor } a := by
  obtain ⟨l', _, hlast, hlf, hg, hlat⟩ := hh.held
  have hheld : LockHeld l' last e := ⟨hh.inactive, l', Nat.le_refl l', hlast, hlf, hg, hlat⟩
  have hga := (hheld.of_accepted hpass).2
  have hzg := hlat z hz
  rintro ⟨f, hf, haf⟩
  have := hfloor f hf
  lia

/-- On activity a held pair answers alike, and becomes equal or stays held. -/
theorem HeldPair.activity (hx : Wf x) (hy : Wf y) (h : HeldPair last x y) :
    (x.step (.activity k a)).2 = (y.step (.activity k a)).2
      ∧ ((x.step (.activity k a)).1 = (y.step (.activity k a)).1
        ∨ HeldPair last (x.step (.activity k a)).1 (y.step (.activity k a)).1) := by
  obtain ⟨l, hheld⟩ := h.held
  obtain ⟨z, hz, hxz, hyz⟩ := h.seen
  have hzy : z ∈ y.latestIndependentActivityAt := by rw [h.eq]; exact hz
  -- a blocked observation leaves the pair held, an accepted one makes it equal
  by_cases hblock : Blocks x k a
  · have hsx := step_of_blocks hx hz hxz hblock
    have hsy := step_of_blocks hy hzy hyz (h.blocks_iff.mpr hblock)
    have hheld' := hheld.effect (by rintro _ ⟨⟩) (by simp [hsx]) (step_effect hx (.activity k a))
    rw [hsx] at hheld' ⊢
    rw [hsy]
    refine ⟨rfl, .inr ⟨?_, ⟨l, hheld'⟩, ?_⟩⟩
    · rw [h.eq]
      rfl
    · obtain ⟨z', hz', hle⟩ := exists_ge_latestWith hz k a
      exact ⟨z', hz', fun f hf => Nat.le_trans (hxz f hf) hle,
        fun f hf => Nat.le_trans (hyz f hf) hle⟩
  · have hsx := (Effect.accepted (hheld.fresh_of_passes hz hblock hxz) hblock).step_eq hx
    have hfresh : ¬ Stale y a := by
      rw [h.eq]
      exact hheld.fresh_of_passes hz hblock hyz
    have hsy := (Effect.accepted hfresh (mt h.blocks_iff.mp hblock)).step_eq hy
    rw [hsx, hsy, h.eq]
    exact ⟨rfl, .inl rfl⟩

/-- A repeated system blank raises a floor unless it is stale; if both floors rise, the engines
become equal. -/
theorem HeldPair.providerIdle {t : Instant} (hx : Wf x) (hy : Wf y) (h : HeldPair last x y) :
    (x.step (.providerIdle t)).2 = (y.step (.providerIdle t)).2
      ∧ ((x.step (.providerIdle t)).1 = (y.step (.providerIdle t)).1
        ∨ HeldPair last (x.step (.providerIdle t)).1 (y.step (.providerIdle t)).1) := by
  obtain ⟨l, hheld⟩ := h.held
  obtain ⟨z, hz, hxz, hyz⟩ := h.seen
  have hiy : y.phase.inactive = true := by rw [h.eq]; exact hheld.inactive
  -- a stale blank lies below a floor, hence below the input on record
  have hle : ∀ {e : InactivityEngine}, (∀ f ∈ e.activityFloor, f ≤ z) → Stale e t → t ≤ z :=
    fun hfloor ⟨f, hf, htf⟩ => Nat.le_of_lt (Nat.lt_of_lt_of_le htf (hfloor f hf))
  have hraise : t ≤ z → ∀ f ∈ some t, f ≤ z := by rintro htz _ ⟨⟩; exact htz
  by_cases hsx : Stale x t <;> by_cases hsy : Stale y t
  · rw [(Effect.idleStale hsx).step_eq hx, (Effect.idleStale hsy).step_eq hy]
    exact ⟨rfl, .inr h⟩
  · rw [(Effect.idleStale hsx).step_eq hx, (Effect.idleAgain hsy hiy).step_eq hy]
    refine ⟨rfl, .inr ⟨?_, h.held, z, hz, hxz, hraise (hle hxz hsx)⟩⟩
    rw [h.eq]
  · rw [(Effect.idleAgain hsx hheld.inactive).step_eq hx, (Effect.idleStale hsy).step_eq hy]
    exact ⟨rfl, .inr ⟨h.eq, ⟨l, hheld.inactive, hheld.held⟩, z, hz, hraise (hle hyz hsy), hyz⟩⟩
  · rw [(Effect.idleAgain hsx hheld.inactive).step_eq hx, (Effect.idleAgain hsy hiy).step_eq hy]
    refine ⟨rfl, .inl ?_⟩
    rw [h.eq]

/-- Every other call on an inactive engine works on fields below which the floor is not read. -/
theorem Effect.setFloor (hi : x.phase.inactive = true) (hop : ∀ k a, op ≠ .activity k a)
    (hop' : ∀ t, op ≠ .providerIdle t) (floor : Option Instant) (hs : Effect x op e' out) :
    Effect { x with activityFloor := floor } op { e' with activityFloor := floor } out
      ∧ e'.activityFloor = x.activityFloor
      ∧ e'.latestIndependentActivityAt = x.latestIndependentActivityAt := by
  cases hs with
  | stale | ignored | accepted => exact absurd rfl (hop _ _)
  | idleStale | idleAgain | idle => exact absurd rfl (hop' _)
  | lock _ _ hawake | timerBlank hawake => simp [hi] at hawake
  | lateCompletion hphase => exact ⟨.lateCompletion hphase, rfl, rfl⟩
  | blanked hphase => exact ⟨.blanked hphase, rfl, rfl⟩
  | blankFailed hphase => exact ⟨.blankFailed hphase, rfl, rfl⟩
  | lockRepeated hlocked => exact ⟨.lockRepeated hlocked, rfl, rfl⟩
  | lockOvertaken hun hx hlx => exact ⟨.lockOvertaken hun hx hlx, rfl, rfl⟩
  | lockInactive hun hlat hi => exact ⟨.lockInactive hun hlat hi, rfl, rfl⟩
  | unlock => exact ⟨.unlock, rfl, rfl⟩
  | timerPowerOff hphase hd hdt => exact ⟨.timerPowerOff hphase hd hdt, rfl, rfl⟩
  | timerIdle hblank hearly => exact ⟨.timerIdle hblank hearly, rfl, rfl⟩

/-- Only an observation restores, so another call leaves a pending lock pending. -/
theorem HeldPair.other (hx : Wf x) (hy : Wf y) (h : HeldPair last x y)
    (horder : ∀ l ∈ op.lockAt, last ≤ l) (hop : ∀ k a, op ≠ .activity k a)
    (hop' : ∀ t, op ≠ .providerIdle t) :
    (x.step op).2 = (y.step op).2
      ∧ HeldPair (op.lockAt.getD last) (x.step op).1 (y.step op).1 := by
  obtain ⟨l, hheld⟩ := h.held
  obtain ⟨z, hz, hxz, hyz⟩ := h.seen
  have hs := step_effect hx op
  have hno : (x.step op).2 ≠ some .restoreNow := by
    intro hout
    rw [hout] at hs
    obtain ⟨k, a, rfl, _⟩ := hs.of_restore
    exact hop k a rfl
  obtain ⟨hsy, hfloor, hlat⟩ := hs.setFloor hheld.inactive hop hop' y.activityFloor
  rw [← h.eq] at hsy
  rw [hsy.step_eq hy]
  refine ⟨rfl, rfl, ⟨l, hheld.effect horder hno hs⟩, z, ?_, ?_, hyz⟩
  · rw [hlat]; exact hz
  · rw [hfloor]; exact hxz

/-! ## Engines that differ in a grace already passed -/

/-- The engines differ in the grace deadline only, and the floor is past both. -/
structure SpentPair (x y : InactivityEngine) : Prop where
  eq : y = { x with postLockActivityGraceUntil := y.postLockActivityGraceUntil }
  left : ∀ g ∈ x.postLockActivityGraceUntil, FloorAtLeast x g
  right : ∀ g ∈ y.postLockActivityGraceUntil, FloorAtLeast x g

/-- A grace behind the floor blocks nothing that is fresh. -/
theorem blocks_of_spent {g : Option Instant} (hfresh : ¬ Stale x a)
    (hspent : ∀ g ∈ x.postLockActivityGraceUntil, FloorAtLeast x g) (hblock : Blocks x k a) :
    Blocks { x with postLockActivityGraceUntil := g } k a := by
  rcases hblock with h | ⟨_, _, g, hg, hag⟩ | h
  · exact .inl h
  · exact absurd ((hspent g hg).of_fresh hfresh) (Nat.not_le.mpr hag)
  · exact .inr (.inr h)

/-- Where the grace is spent on both sides, a fresh observation is blocked alike. -/
theorem SpentPair.blocks_iff (h : SpentPair x y) (hfresh : ¬ Stale x a) :
    Blocks y k a ↔ Blocks x k a := by
  have hright : ∀ g ∈ y.postLockActivityGraceUntil, FloorAtLeast y g := by
    intro g hg
    rw [h.eq]
    exact h.right g hg
  have hfreshy : ¬ Stale y a := by rw [h.eq]; exact hfresh
  constructor
  · intro hblock
    have := blocks_of_spent (g := x.postLockActivityGraceUntil) hfreshy hright hblock
    rwa [h.eq] at this
  · intro hblock
    have := blocks_of_spent (g := y.postLockActivityGraceUntil) hfresh h.left hblock
    rwa [← h.eq] at this

/-- Every call does the same on both engines; a lock that is taken makes them equal. -/
theorem Effect.setGrace (h : SpentPair x y) (hs : Effect x op e' out) :
    Effect y op e' out
      ∨ (Effect y op { e' with postLockActivityGraceUntil := y.postLockActivityGraceUntil } out
        ∧ e'.postLockActivityGraceUntil = x.postLockActivityGraceUntil) := by
  have hb : ∀ {k a}, ¬ Stale x a → (Blocks y k a ↔ Blocks x k a) := h.blocks_iff
  rw [h.eq] at hb ⊢
  cases hs with
  | stale hstale => exact .inr ⟨.stale hstale, rfl⟩
  | ignored hfresh hblock => exact .inr ⟨.ignored hfresh ((hb hfresh).mpr hblock), rfl⟩
  | accepted hfresh hpass => exact .inr ⟨.accepted hfresh (mt (hb hfresh).mp hpass), rfl⟩
  | idleStale hstale => exact .inr ⟨.idleStale hstale, rfl⟩
  | idleAgain hfresh hi => exact .inr ⟨.idleAgain hfresh hi, rfl⟩
  | idle hfresh hawake => exact .inr ⟨.idle hfresh hawake, rfl⟩
  | lateCompletion hphase => exact .inr ⟨.lateCompletion hphase, rfl⟩
  | blanked hphase => exact .inr ⟨.blanked hphase, rfl⟩
  | blankFailed hphase => exact .inr ⟨.blankFailed hphase, rfl⟩
  | lockRepeated hlocked => exact .inr ⟨.lockRepeated hlocked, rfl⟩
  | lockOvertaken hun hx hlx => exact .inl (.lockOvertaken hun hx hlx)
  | lockInactive hun hlat hi => exact .inl (.lockInactive hun hlat hi)
  | lock hun hlat hawake => exact .inl (.lock hun hlat hawake)
  | unlock => exact .inr ⟨.unlock, rfl⟩
  | timerBlank hawake hd hdt => exact .inr ⟨.timerBlank hawake hd hdt, rfl⟩
  | timerPowerOff hphase hd hdt => exact .inr ⟨.timerPowerOff hphase hd hdt, rfl⟩
  | timerIdle hblank hearly => exact .inr ⟨.timerIdle hblank hearly, rfl⟩

/-- A spent pair answers alike, and becomes equal or stays spent. -/
theorem SpentPair.step (hx : Wf x) (hy : Wf y) (h : SpentPair x y) (op : EngineOp) :
    (x.step op).2 = (y.step op).2
      ∧ ((x.step op).1 = (y.step op).1 ∨ SpentPair (x.step op).1 (y.step op).1) := by
  have hs := step_effect hx op
  rcases hs.setGrace h with hsy | ⟨hsy, hgrace⟩
  · rw [hsy.step_eq hy]
    exact ⟨rfl, .inl rfl⟩
  · rw [hsy.step_eq hy]
    refine ⟨rfl, .inr ⟨rfl, fun g hg => ?_, fun g hg => (h.right g hg).effect hx hs⟩⟩
    rw [hgrace] at hg
    exact (h.left g hg).effect hx hs

/-! ## The relation between the two orders -/

/-- What the two delivery orders may leave behind; `last` is the latest lock instant. -/
structure OrderRel (last : Instant) (x y : InactivityEngine) : Prop where
  left : Wf x
  right : Wf y
  mode : x = y ∨ HeldPair last x y ∨ SpentPair x y

/-- Every step answers alike on related engines and keeps them related. -/
theorem OrderRel.step (h : OrderRel last x y) (horder : ∀ l ∈ op.lockAt, last ≤ l) :
    (x.step op).2 = (y.step op).2
      ∧ OrderRel (op.lockAt.getD last) (x.step op).1 (y.step op).1 := by
  have hwx : Wf (x.step op).1 := h.left.effect (step_effect h.left op)
  have hwy : Wf (y.step op).1 := h.right.effect (step_effect h.right op)
  -- the pair is equal, held or spent
  rcases h.mode with rfl | hheld | hspent
  · exact ⟨rfl, hwx, hwx, .inl rfl⟩
  · cases op with
    | activity k a =>
      obtain ⟨hout, hmode⟩ := hheld.activity h.left h.right
      exact ⟨hout, hwx, hwy, hmode.imp id .inl⟩
    | providerIdle t =>
      obtain ⟨hout, hmode⟩ := hheld.providerIdle h.left h.right
      exact ⟨hout, hwx, hwy, hmode.imp id .inl⟩
    | completeBlank | lock | unlock | time =>
      obtain ⟨hout, hmode⟩ := hheld.other h.left h.right horder
        (fun _ _ => nofun) (fun _ => nofun)
      exact ⟨hout, hwx, hwy, .inr (.inl hmode)⟩
  · obtain ⟨hout, hmode⟩ := hspent.step h.left h.right op
    exact ⟨hout, hwx, hwy, hmode.imp id .inr⟩

/-- Related engines give the same outputs on every continuation whose locks do not decrease. -/
theorem OrderRel.outputs_eq (h : OrderRel last x y) {q : List EngineOp}
    (hq : NondecreasingLocks (.lock last :: q)) :
    outputs InactivityEngine.step x q = outputs InactivityEngine.step y q :=
  outputs_eq_of_rel (fun _ _ _ _ hR hok => hR.step hok) q last x y h
    hq.admissible

/-! ## The two orders -/

/-- `observe_lock`, and the completion of the blank if it asked for one. -/
def lockAndComplete (e : InactivityEngine) (l : Instant) (succeeded : Bool)
    (completedAt : Instant) : InactivityEngine :=
  match e.observeLock l with
  | (e, .blankNow) => e.completeBlank succeeded completedAt
  | (e, _) => e

/-- The effect of a lock determines what observing it returns. -/
theorem observeLock_of_effect {d : InactivityDecision} (hw : Wf e)
    (hs : Effect e (.lock l) e' (some d)) : e.observeLock l = (e', d) := by
  have h := hs.step_eq hw
  rw [step_lock, Prod.mk.injEq, Option.some.injEq] at h
  exact Prod.ext h.1 h.2

/-- An awake engine takes a lock that no input has overtaken, and blanks. -/
theorem lockAndComplete_of_awake {b : Bool} {c : Instant} (hw : Wf e)
    (hun : e.sessionLockedSince = none) (hawake : e.phase.inactive = false)
    (hlat : ∀ x ∈ e.latestIndependentActivityAt, x < l + POST_LOCK_ACTIVITY_GRACE) :
    e.lockAndComplete l b c
      = { e with
          sessionLockedSince := some l
          lockActivityFloor := some l
          postLockActivityGraceUntil := some (l + POST_LOCK_ACTIVITY_GRACE)
          phase := if b then .blanked else .inactiveWithoutEscalation
          blankAt := none
          restorePending := b
          powerOffAt := if b then some (c + e.powerOffAfter) else none } := by
  rw [lockAndComplete, observeLock_of_effect hw (.lock hun hlat hawake)]
  cases b <;> simp [completeBlank, hw.awake_restorePending hawake]

/-- An input past the grace overtakes the lock: the screen is not blanked. -/
theorem lockAndComplete_of_overtaken {b : Bool} {c z : Instant} (hw : Wf e)
    (hun : e.sessionLockedSince = none) (hz : z ∈ e.latestIndependentActivityAt)
    (hlz : l + POST_LOCK_ACTIVITY_GRACE ≤ z) :
    e.lockAndComplete l b c
      = { e with
          sessionLockedSince := some l
          lockActivityFloor := none
          postLockActivityGraceUntil := none } := by
  rw [lockAndComplete, observeLock_of_effect hw (.lockOvertaken hun hz hlz)]

/-- Locking and completing the blank keeps the engine well formed. -/
theorem Wf.lockAndComplete {b : Bool} {c : Instant} (hw : Wf e) :
    Wf (e.lockAndComplete l b c) := by
  have hlock := hw.effect (step_effect hw (.lock l))
  rw [InactivityEngine.lockAndComplete]
  split
  · next e' heq =>
    rw [step_lock, heq] at hlock
    exact hlock.effect (step_effect hlock (.completeBlank b c))
  · next e' d _ heq =>
    rw [step_lock, heq] at hlock
    exact hlock

/-- The effect of an activity determines the engine after it. -/
theorem observeActivity_of_effect (hw : Wf e) (hs : Effect e (.activity k a) e' out) :
    (e.observeActivity k a).1 = e' := congrArg Prod.fst (hs.step_eq hw)

/-- An engine that is awake blocks no independent observation. -/
theorem not_blocks_of_awake (hawake : e.phase.inactive = false) (hk : k.independent = true) :
    ¬ Blocks e k a := by
  rintro (⟨_, hk'⟩ | ⟨hi, _⟩ | ⟨hi, _⟩)
  · simp [hk] at hk'
  · simp [hawake] at hi
  · simp [hawake] at hi

/-- After an independent observation the latest input is at or after it. -/
theorem exists_latestWith_ge (hk : k.independent = true) : ∃ z ∈ e.latestWith k a, a ≤ z := by
  cases hlat : e.latestIndependentActivityAt with
  | none => exact ⟨a, by simp [latestWith, hk, hlat], Nat.le_refl a⟩
  | some y => exact ⟨max y a, by simp [latestWith, hk, hlat], Nat.le_max_right y a⟩

/-- The lock and its completion do not touch the floor, so stale input stays stale. -/
theorem Stale.lockAndComplete {b : Bool} {c : Instant} (hw : Wf e)
    (hun : e.sessionLockedSince = none) (hawake : e.phase.inactive = false)
    (hstale : Stale e a) : Stale (e.lockAndComplete l b c) a := by
  by_cases hz : ∃ z ∈ e.latestIndependentActivityAt, l + POST_LOCK_ACTIVITY_GRACE ≤ z
  · obtain ⟨z, hz, hlz⟩ := hz
    rw [lockAndComplete_of_overtaken hw hun hz hlz]
    exact hstale
  · rw [lockAndComplete_of_awake hw hun hawake
      fun z hz' => Nat.lt_of_not_le fun hle => hz ⟨z, hz', hle⟩]
    exact hstale

section Race

variable {b : Bool} {c : Instant} (hw : Wf e) (hun : e.sessionLockedSince = none)
  (hawake : e.phase.inactive = false) (hk : k.independent = true) (hfresh : ¬ Stale e a)

include hw hun hawake hk hfresh

/-- A lock overtaken by earlier input is overtaken in both orders. -/
theorem race_overtaken {z : Instant} (hz : z ∈ e.latestIndependentActivityAt)
    (hlz : l + POST_LOCK_ACTIVITY_GRACE ≤ z) :
    ((e.lockAndComplete l b c).observeActivity k a).1
      = (e.observeActivity k a).1.lockAndComplete l b c := by
  have hpass : ¬ Blocks e k a := not_blocks_of_awake hawake hk
  have hlock := lockAndComplete_of_overtaken (b := b) (c := c) hw hun hz hlz
  have hwl : Wf (e.lockAndComplete l b c) := hw.lockAndComplete
  obtain ⟨z', hz', hle⟩ := exists_ge_latestWith hz k a
  rw [observeActivity_of_effect hw (.accepted hfresh hpass),
    lockAndComplete_of_overtaken (hw.accept hfresh hpass) hun hz' (Nat.le_trans hlz hle)]
  rw [hlock] at hwl ⊢
  rw [observeActivity_of_effect hwl (.accepted hfresh (not_blocks_of_awake hawake hk))]
  rfl

/-- Input inside the grace: only the order that sees it first records it in the floor. -/
theorem race_held
    (hlat : ∀ x ∈ e.latestIndependentActivityAt, x < l + POST_LOCK_ACTIVITY_GRACE)
    (hal : a < l + POST_LOCK_ACTIVITY_GRACE) :
    HeldPair l ((e.lockAndComplete l b c).observeActivity k a).1
      ((e.observeActivity k a).1.lockAndComplete l b c) := by
  have hpass : ¬ Blocks e k a := not_blocks_of_awake hawake hk
  have hlock := lockAndComplete_of_awake (b := b) (c := c) hw hun hawake hlat
  have hwl : Wf (e.lockAndComplete l b c) := hw.lockAndComplete
  obtain ⟨z, hz, haz⟩ := exists_latestWith_ge (e := e) (a := a) hk
  have hlat' : ∀ x ∈ e.latestWith k a, x < l + POST_LOCK_ACTIVITY_GRACE := by
    intro x hx
    rcases mem_latestWith hx with hold | ⟨_, rfl⟩
    · exact hlat x hold
    · exact hal
  have hi : (e.lockAndComplete l b c).phase.inactive = true := by
    rw [hlock]
    cases b <;> rfl
  have hblock : Blocks (e.lockAndComplete l b c) k a :=
    .inr (.inl ⟨hi, hk, l + POST_LOCK_ACTIVITY_GRACE, by rw [hlock]; rfl, hal⟩)
  have hfreshl : ¬ Stale (e.lockAndComplete l b c) a := by rw [hlock]; exact hfresh
  rw [observeActivity_of_effect hwl (.ignored hfreshl hblock),
    observeActivity_of_effect hw (.accepted hfresh hpass),
    lockAndComplete_of_awake (hw.accept hfresh hpass) hun rfl hlat']
  rw [hlock] at hi ⊢
  refine ⟨rfl, ⟨l, hi, l, Nat.le_refl l, Nat.le_refl l, rfl, rfl, hlat'⟩, z, hz, ?_, ?_⟩
  · intro f hf
    exact Nat.le_trans (Nat.le_of_not_lt fun h => hfresh ⟨f, hf, h⟩) haz
  · rintro _ ⟨⟩
    exact haz

/-- Input behind the grace: it wakes the engine that saw the lock first, and overtakes the lock
in the other; the deadline is the input's in both. -/
theorem race_spent (hd : DeadlineWithin start e) (ha : start ≤ a)
    (hlat : ∀ x ∈ e.latestIndependentActivityAt, x < l + POST_LOCK_ACTIVITY_GRACE)
    (hla : l + POST_LOCK_ACTIVITY_GRACE ≤ a) :
    SpentPair ((e.lockAndComplete l b c).observeActivity k a).1
      ((e.observeActivity k a).1.lockAndComplete l b c) := by
  have hpass : ¬ Blocks e k a := not_blocks_of_awake hawake hk
  have hlock := lockAndComplete_of_awake (b := b) (c := c) hw hun hawake hlat
  have hwl : Wf (e.lockAndComplete l b c) := hw.lockAndComplete
  obtain ⟨z, hz, haz⟩ := exists_latestWith_ge (e := e) (a := a) hk
  have hG : 0 < POST_LOCK_ACTIVITY_GRACE := by decide
  have hpassl : ¬ Blocks (e.lockAndComplete l b c) k a := by
    rw [hlock]
    rintro (⟨_, hk'⟩ | ⟨_, _, _, ⟨⟩, hag⟩ | ⟨_, _, ⟨⟩, hkl⟩)
    · simp [hk] at hk'
    · lia
    · have : a ≤ l := by simpa [hk] using hkl
      lia
  have hfreshl : ¬ Stale (e.lockAndComplete l b c) a := by rw [hlock]; exact hfresh
  have hdeadline := hd.accept_blankAt (k := k) ha hfresh
  rw [observeActivity_of_effect hwl (.accepted hfreshl hpassl),
    observeActivity_of_effect hw (.accepted hfresh hpass),
    lockAndComplete_of_overtaken (hw.accept hfresh hpass) hun hz (Nat.le_trans hla haz)]
  rw [hlock, hdeadline]
  refine ⟨?_, ?_, by rintro _ ⟨⟩⟩
  · simp [accept, latestWith]
  · rintro _ ⟨⟩
    exact ⟨a, rfl, hla⟩

end Race

/-- The two orders end in related engines. -/
theorem orderRel_of_race {b : Bool} {c : Instant} (hw : Wf e) (hd : DeadlineWithin start e)
    (hun : e.sessionLockedSince = none) (hawake : e.phase.inactive = false)
    (hk : k.independent = true) (ha : start ≤ a) :
    OrderRel l ((e.lockAndComplete l b c).observeActivity k a).1
      ((e.observeActivity k a).1.lockAndComplete l b c) where
  left := hw.lockAndComplete.effect (step_effect hw.lockAndComplete (.activity k a))
  right := (hw.effect (step_effect hw (.activity k a))).lockAndComplete
  mode := by
    by_cases hstale : Stale e a
    · refine .inl ?_
      rw [observeActivity_of_effect hw (.stale hstale), observeActivity_of_effect
        hw.lockAndComplete (.stale (hstale.lockAndComplete hw hun hawake))]
    by_cases hz : ∃ z ∈ e.latestIndependentActivityAt, l + POST_LOCK_ACTIVITY_GRACE ≤ z
    · obtain ⟨z, hz, hlz⟩ := hz
      exact .inl (race_overtaken hw hun hawake hk hstale hz hlz)
    have hlat : ∀ z ∈ e.latestIndependentActivityAt, z < l + POST_LOCK_ACTIVITY_GRACE :=
      fun z hmem => Nat.lt_of_not_le fun hle => hz ⟨z, hmem, hle⟩
    by_cases hal : a < l + POST_LOCK_ACTIVITY_GRACE
    · exact .inr (.inl (race_held hw hun hawake hk hstale hlat hal))
    · exact .inr (.inr (race_spent hw hun hawake hk hstale hd ha hlat (Nat.le_of_not_lt hal)))

/-- **Delivery-order independence.** In a run whose instants are not before the engine's start,
let the engine be unlocked and in phase `Unknown` or `Active`. Handling a lock at `l` (and the
completion of the blank it may request) before or after independent input at `a` makes no
difference to any later sequence of calls whose lock instants do not decrease. -/
theorem lock_activity_order (hb : Built e₀ start) (ops : List EngineOp)
    (hstart : SinceStart start ops) (hun : (e₀.run ops).sessionLockedSince = none)
    (hphase : (e₀.run ops).phase = .unknown ∨ (e₀.run ops).phase = .active)
    (l : Instant) (b : Bool) (c : Instant) (k : InactivityObservation)
    (hk : k.independent = true) (a : Instant) (ha : start ≤ a) (later : List EngineOp)
    (hlater : NondecreasingLocks (.lock l :: later)) :
    outputs step (((e₀.run ops).lockAndComplete l b c).observeActivity k a).1 later
      = outputs step (((e₀.run ops).observeActivity k a).1.lockAndComplete l b c) later := by
  have hawake : (e₀.run ops).phase.inactive = false := by
    rcases hphase with hp | hp <;> rw [hp] <;> rfl
  exact (orderRel_of_race (hb.wf.run ops) (hb.run_deadlineWithin ops hstart) hun hawake hk
    ha).outputs_eq hlater

/-- Input exactly at the end of the grace: the two orders leave different engines, and agree. -/
theorem lock_activity_order_boundary :
    (((new (Duration.fromSecs 5) 0).lockAndComplete 3 true 4).observeActivity
        .userActivityObserved (3 + POST_LOCK_ACTIVITY_GRACE)).1
      ≠ ((new (Duration.fromSecs 5) 0).observeActivity .userActivityObserved
          (3 + POST_LOCK_ACTIVITY_GRACE)).1.lockAndComplete 3 true 4
    ∧ outputs step (((new (Duration.fromSecs 5) 0).lockAndComplete 3 true 4).observeActivity
          .userActivityObserved (3 + POST_LOCK_ACTIVITY_GRACE)).1
          [.unlock, .time (Duration.fromSecs 7) true, .activity .providerActive 5]
      = outputs step (((new (Duration.fromSecs 5) 0).observeActivity .userActivityObserved
          (3 + POST_LOCK_ACTIVITY_GRACE)).1.lockAndComplete 3 true 4)
          [.unlock, .time (Duration.fromSecs 7) true, .activity .providerActive 5] := by
  refine ⟨by decide, ?_⟩
  exact lock_activity_order (.new (Duration.fromSecs 5) 0) [] (by rintro _ ⟨⟩) rfl (.inl rfl)
    3 true 4 .userActivityObserved rfl (3 + POST_LOCK_ACTIVITY_GRACE) (Nat.zero_le _) _
    (by decide)

end InactivityEngine

end LgBuddy
