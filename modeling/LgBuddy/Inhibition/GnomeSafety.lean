import LgBuddy.Inhibition.GnomeWatch

/-!
# LgBuddy — GNOME inhibition is never published stale

A stale "not inhibited" blanks the screen during a film. The watch is judged by its calls: which
replies and signals it got before it published.

* `boundOwner`, `OwnerLost`, `Disturbs` — the owner the watch follows, and what unsettles a reply;
* `FreshReply` — a reply of that owner, confirmed and undisturbed up to now;
* one specification for each loop, over the history of the calls;
* `gnome_inhibition_never_stale` — the law of a whole run.
-/

namespace LgBuddy

open Program

abbrev GnomeHistory := List (Exchange GnomeCall GnomeReply)

namespace GnomeInhibition

/-! ## The owner -/

/-- The bus is asked who has the session manager's name. -/
def asksOwner (request : BusMethodCall) : Bool :=
  request.destination = dbusServiceName && request.path = dbusObjectPath
    && request.interface = dbusInterface && request.member = "GetNameOwner"
    && match request.body with
      | [.string name] => name = service
      | _ => false

/-- Asking for the owner is this call, and no other. -/
theorem asksOwner_iff {request : BusMethodCall} :
    asksOwner request = true ↔ request = getNameOwnerCall service := by
  constructor
  · intro h
    obtain ⟨destination, path, interface, member, body⟩ := request
    simp only [asksOwner, Bool.and_eq_true, decide_eq_true_eq] at h
    obtain ⟨⟨⟨⟨rfl, rfl⟩, rfl⟩, rfl⟩, hbody⟩ := h
    split at hbody
    · rw [of_decide_eq_true hbody]
      rfl
    · cases hbody
  · rintro rfl
    rfl

/-- The owner that a reply of the bus names. -/
def ownerNamed : Exchange GnomeCall GnomeReply → Option String
  | ⟨.callMethod request, .ok reply⟩ =>
    if asksOwner request then reply.singleString.toOption else none
  | _ => none

/-- The owner that the watch follows: the first one that was named. -/
def boundOwner (history : GnomeHistory) : Option String := history.findSome? ownerNamed

/-- The bus announces the loss of the owner, or does not name it when asked. -/
def OwnerLost (owner : String) : Exchange GnomeCall GnomeReply → Prop
  | ⟨.process _, .ok (some signal)⟩ => AnnouncesLoss signal owner
  | ⟨.callMethod request, r⟩ =>
    request = getNameOwnerCall service ∧ ownerNamed ⟨.callMethod request, r⟩ ≠ some owner
  | _ => False

/-- The owner is lost, or announces an inhibitor. -/
def Disturbs (owner : String) : Exchange GnomeCall GnomeReply → Prop
  | ⟨.process _, .ok (some signal)⟩ =>
    AnnouncesLoss signal owner ∨ AnnouncesInhibitor signal owner
  | x => OwnerLost owner x

/-- The loss of the owner is a disturbance of any answer. -/
theorem OwnerLost.disturbs {owner : String} {x : Exchange GnomeCall GnomeReply}
    (h : OwnerLost owner x) : Disturbs owner x := by
  unfold Disturbs
  split
  · exact .inl h
  · exact h

/-- No loss of the owner so far. -/
def Intact (history : GnomeHistory) : Prop :=
  ∀ owner, boundOwner history = some owner → ∀ x ∈ history, ¬ OwnerLost owner x

structure Bound (owner : String) (history : GnomeHistory) : Prop where
  named : boundOwner history = some owner
  kept : ∀ x ∈ history, ¬ OwnerLost owner x

section

variable {owner : String} {history : GnomeHistory} {x : Exchange GnomeCall GnomeReply}

/-- The owner that the bus named has not been lost. -/
theorem Bound.intact (h : Bound owner history) : Intact history := by
  intro owner' howner'
  rw [h.named] at howner'
  cases howner'
  exact h.kept

/-- It stays bound as long as it is not lost. -/
theorem Bound.snoc (h : Bound owner history) (hx : ¬ OwnerLost owner x) :
    Bound owner (history ++ [x]) where
  named := by
    unfold boundOwner
    rw [List.findSome?_append, show history.findSome? ownerNamed = some owner from h.named]
    rfl
  kept y hy := by
    cases List.mem_append.mp hy with
    | inl hy => exact h.kept y hy
    | inr hy => rw [List.mem_singleton.mp hy]; exact hx

/-- Before any owner has been named. -/
theorem Bound.first (hnone : boundOwner history = none) (hx : ownerNamed x = some owner)
    (hlost : ∀ y ∈ history, ¬ OwnerLost owner y) (hkept : ¬ OwnerLost owner x) :
    Bound owner (history ++ [x]) where
  named := by
    unfold boundOwner
    rw [List.findSome?_append, show history.findSome? ownerNamed = none from hnone]
    simp [hx]
  kept y hy := by
    cases List.mem_append.mp hy with
    | inl hy => exact hlost y hy
    | inr hy => rw [List.mem_singleton.mp hy]; exact hkept

/-! ## Fresh replies -/

/-- The owner has answered, and nothing has disturbed the answer since. -/
def Answered (owner : String) (inhibited : Bool) (history : GnomeHistory) : Prop :=
  ∃ early reply late,
    history = early ++ ⟨.callMethod (isInhibitedCall owner), .ok reply⟩ :: late
      ∧ reply.singleBool = .ok inhibited ∧ ∀ x ∈ late, ¬ Disturbs owner x

/-- Besides, it has been named again as the owner since it answered. -/
def FreshReply (owner : String) (inhibited : Bool) (history : GnomeHistory) : Prop :=
  ∃ early reply late,
    history = early ++ ⟨.callMethod (isInhibitedCall owner), .ok reply⟩ :: late
      ∧ reply.singleBool = .ok inhibited ∧ (∀ x ∈ late, ¬ Disturbs owner x)
      ∧ ∃ x ∈ late, ownerNamed x = some owner

variable {inhibited : Bool}

/-- A reply of the owner is an answer. -/
theorem Answered.of_reply {reply : BusReply} (hreply : reply.singleBool = .ok inhibited) :
    Answered owner inhibited
      (history ++ [⟨.callMethod (isInhibitedCall owner), .ok reply⟩]) :=
  ⟨history, reply, [], rfl, hreply, List.forall_mem_nil _⟩

/-- An answer stays one while nothing disturbs it. -/
theorem Answered.snoc (h : Answered owner inhibited history) (hx : ¬ Disturbs owner x) :
    Answered owner inhibited (history ++ [x]) := by
  obtain ⟨early, reply, late, rfl, hreply, hlate⟩ := h
  refine ⟨early, reply, late ++ [x], by simp, hreply, fun y hy => ?_⟩
  cases List.mem_append.mp hy with
  | inl hy => exact hlate y hy
  | inr hy => rw [List.mem_singleton.mp hy]; exact hx

/-- It is confirmed when the bus names the same owner once more. -/
theorem Answered.confirm (h : Answered owner inhibited history) (hx : ¬ Disturbs owner x)
    (hnamed : ownerNamed x = some owner) : FreshReply owner inhibited (history ++ [x]) := by
  obtain ⟨early, reply, late, rfl, hreply, hlate⟩ := h
  refine ⟨early, reply, late ++ [x], by simp, hreply, fun y hy => ?_, x, by simp, hnamed⟩
  cases List.mem_append.mp hy with
  | inl hy => exact hlate y hy
  | inr hy => rw [List.mem_singleton.mp hy]; exact hx

/-- A confirmed answer stays fresh while nothing disturbs it. -/
theorem FreshReply.snoc (h : FreshReply owner inhibited history) (hx : ¬ Disturbs owner x) :
    FreshReply owner inhibited (history ++ [x]) := by
  obtain ⟨early, reply, late, rfl, hreply, hlate, y, hy, hnamed⟩ := h
  refine ⟨early, reply, late ++ [x], by simp, hreply, fun z hz => ?_, y, by simp [hy], hnamed⟩
  cases List.mem_append.mp hz with
  | inl hz => exact hlate z hz
  | inr hz => rw [List.mem_singleton.mp hz]; exact hx

end

/-! ## The contract -/

/-- Nothing at all is called once the owner is lost, and what is published is a fresh reply of the
owner that the watch follows. -/
def permits (history : GnomeHistory) (c : GnomeCall) : Prop :=
  Intact history
    ∧ ∀ inhibited observedAt, c = .observe inhibited observedAt →
        ∃ owner, boundOwner history = some owner ∧ FreshReply owner inhibited history

def contract : Contract GnomeCall GnomeReply GnomeHistory := .observed permits Program.record

/-- A failed run may have lost its owner; one that is only cut off has not. -/
def Broken (err : Option SessionBusError) (history : GnomeHistory) : Prop :=
  err = none → Intact history

section

variable {owner : String} {history : GnomeHistory} {inhibited : Bool}

/-- One call: it is permitted, and its reply goes into the history. -/
theorem wpE_gnomeAsk {c : GnomeCall} {Q : GnomeReply c → GnomeHistory → Prop}
    {E : Option SessionBusError → GnomeHistory → Prop} (hc : permits history c)
    (h : ∀ r, Q r (history ++ [⟨c, r⟩])) : wpE contract (ask c) Q E history := by
  refine wpE_lift.mpr ((wp_perform c).mpr ⟨hc, fun r history' heq => ?_⟩)
  rw [show history' = history ++ [⟨c, r⟩] from heq]
  exact h r

/-- A result of the bus, looked at: a failure ends the run. -/
theorem wpE_gnomeBus {α : Type} {result : Except SessionBusError α}
    {Q : α → GnomeHistory → Prop} (hQ : ∀ a, result = .ok a → Q a history) :
    wpE contract (orBus result) Q Broken history := by
  cases result with
  | ok a => exact hQ a rfl
  | error err => exact nofun

/-- Calls that are no publication are permitted while the owner is there. -/
theorem Bound.permits (h : Bound owner history) {c : GnomeCall}
    (hc : ∀ inhibited observedAt, c ≠ .observe inhibited observedAt) : permits history c :=
  ⟨h.intact, fun inhibited observedAt heq => absurd heq (hc inhibited observedAt)⟩

/-- A call that gives no signal and no owner. -/
def GnomeCall.Plain (c : GnomeCall) : Prop := ∀ owner r, ¬ Disturbs owner ⟨c, r⟩

theorem plain_stopped : GnomeCall.Plain .stopped := fun _ _ => id

theorem plain_now : GnomeCall.Plain .now := fun _ _ => id

/-- A call that tells nothing of the owner keeps it. -/
theorem Bound.plain (h : Bound owner history) {c : GnomeCall} (hc : GnomeCall.Plain c)
    (r : GnomeReply c) : Bound owner (history ++ [⟨c, r⟩]) :=
  h.snoc fun hlost => hc owner r hlost.disturbs

/-! ## The loops -/

/-- The state of a drain: the reply is fresh as long as nothing has disturbed it. -/
structure Draining (owner : String) (inhibited dirty : Bool) (history : GnomeHistory) : Prop
    extends Bound owner history where
  fresh : dirty = false → FreshReply owner inhibited history

/-- Draining goes on while nothing disturbs. -/
theorem Draining.snoc {dirty : Bool} (h : Draining owner inhibited dirty history)
    {x : Exchange GnomeCall GnomeReply} (hx : ¬ Disturbs owner x) :
    Draining owner inhibited dirty (history ++ [x]) :=
  ⟨h.toBound.snoc fun hlost => hx hlost.disturbs, fun hdirty => (h.fresh hdirty).snoc hx⟩

/-- One signal of the queue. -/
theorem Draining.signal {dirty change : Bool} (h : Draining owner inhibited dirty history)
    {timeout : Duration} {signal : BusSignal} (hchange : changed signal owner = .ok change) :
    Draining owner inhibited (dirty || change)
      (history ++ [⟨.process timeout, .ok (some signal)⟩]) := by
  have hkept : losesOwner signal owner = false := by
    cases hloses : losesOwner signal owner with
    | false => rfl
    | true =>
      have hchanged : changed signal owner = .error ownerChanged :=
        changed_eq_error.mpr ⟨hloses, rfl⟩
      rw [hchanged] at hchange
      cases hchange
  have hnotLost : ¬ OwnerLost owner ⟨.process timeout, .ok (some signal)⟩ := by
    intro hlost
    rw [losesOwner_iff.mpr hlost] at hkept
    cases hkept
  refine ⟨h.toBound.snoc hnotLost, fun hclean => ?_⟩
  obtain ⟨hdirty, hchange'⟩ := Bool.or_eq_false_iff.mp hclean
  refine (h.fresh hdirty).snoc fun hdisturbs => ?_
  cases hdisturbs with
  | inl hloses =>
    rw [losesOwner_iff.mpr hloses] at hkept
    cases hkept
  | inr hannounces =>
    rw [changed_eq_true.mpr ⟨hkept, announcesInhibitor_iff.mpr hannounces⟩] at hchange
    rw [← Except.ok.inj hchange] at hchange'
    cases hchange'

/-- Draining the signals finds out whether anything has disturbed the answer. -/
theorem wpE_drainSignals (turns : Nat) {dirty : Bool}
    (h : Draining owner inhibited dirty history) :
    wpE contract (drainSignals owner turns dirty) (Draining owner inhibited) Broken history := by
  induction turns generalizing history dirty with
  | zero => exact fun _ => h.intact
  | succ turns ih =>
    unfold drainSignals
    refine wpE_bind.mpr (wpE_gnomeAsk (h.permits nofun) fun stopped => ?_)
    have hstopped := h.snoc (plain_stopped owner stopped)
    cases stopped with
    | true => exact hstopped
    | false =>
      refine wpE_bind.mpr (wpE_gnomeAsk (hstopped.permits nofun) fun r => ?_)
      refine wpE_bind.mpr (wpE_gnomeBus fun message hr => ?_)
      subst hr
      cases message with
      | none => exact hstopped.snoc id
      | some signal =>
        refine wpE_bind.mpr (wpE_gnomeBus fun change hchange => ?_)
        exact ih (hstopped.signal hchange)

/-- A method call whose reply is looked at under the history it leaves. -/
theorem wpE_gnomeCallFor {α : Type} {request : BusMethodCall}
    {shape : BusReply → Except SessionBusError α} {Q : α → GnomeHistory → Prop}
    (h : Intact history)
    (hQ : ∀ reply a, shape reply = .ok a →
      Q a (history ++ [⟨.callMethod request, .ok reply⟩])) :
    wpE contract (callFor request shape) Q Broken history := by
  refine wpE_bind.mpr (wpE_gnomeAsk ⟨h, nofun⟩ fun r => ?_)
  refine wpE_bind.mpr (wpE_gnomeBus fun reply hr => ?_)
  subst hr
  exact wpE_gnomeBus fun a ha => hQ reply a ha

/-- The reply to that call names the owner. -/
theorem ownerNamed_reply {reply : BusReply} {owner : String}
    (hreply : reply.singleString = .ok owner) :
    ownerNamed ⟨.callMethod (getNameOwnerCall service), .ok reply⟩ = some owner := by
  show (if asksOwner (getNameOwnerCall service) then reply.singleString.toOption else none) = _
  rw [if_pos (asksOwner_iff.mpr rfl), hreply]
  rfl

/-- A reply that names the same owner disturbs nothing. -/
theorem not_disturbs_reply {reply : BusReply} (hreply : reply.singleString = .ok owner) :
    ¬ Disturbs owner ⟨.callMethod (getNameOwnerCall service), .ok reply⟩ :=
  fun hdisturbs => hdisturbs.2 (ownerNamed_reply hreply)

/-- The question for inhibitors is not the one for the owner. -/
theorem isInhibitedCall_ne (owner : String) : isInhibitedCall owner ≠ getNameOwnerCall service := by
  intro h
  have hmember : "IsInhibited" = "GetNameOwner" := congrArg (·.member) h
  exact absurd hmember (by decide)

/-- One query: the answer, its moment, the owner once more, and the signals in between; only then
it is published. -/
theorem wpE_queryOnce (turns : Nat) (h : Bound owner history) :
    wpE contract (queryOnce turns owner) (fun _ => Bound owner) Broken history := by
  unfold queryOnce
  refine wpE_bind.mpr (wpE_gnomeCallFor h.intact fun reply inhibited hreply => ?_)
  have hbound := h.snoc (x := ⟨.callMethod (isInhibitedCall owner), .ok reply⟩)
    fun hlost => isInhibitedCall_ne owner hlost.1
  have hanswered : Answered owner inhibited
      (history ++ [⟨.callMethod (isInhibitedCall owner), .ok reply⟩]) := .of_reply hreply
  refine wpE_bind.mpr (wpE_gnomeAsk (hbound.permits nofun) fun observedAt => ?_)
  replace hbound := hbound.plain plain_now observedAt
  replace hanswered := hanswered.snoc (plain_now owner observedAt)
  refine wpE_bind.mpr (wpE_gnomeCallFor hbound.intact fun reply' current hcurrent => ?_)
  split
  -- the owner is another one by now: the query fails
  · exact nofun
  · rename_i hsame
    rw [not_not.mp hsame] at hcurrent
    have hquiet : ¬ Disturbs owner ⟨.callMethod (getNameOwnerCall service), .ok reply'⟩ :=
      not_disturbs_reply hcurrent
    have hdraining : Draining owner inhibited false _ :=
      ⟨hbound.snoc fun hlost => hquiet hlost.disturbs,
        fun _ => hanswered.confirm hquiet (ownerNamed_reply hcurrent)⟩
    refine (wpE_drainSignals turns hdraining).bind fun dirty history' hdrained => ?_
    refine wpE_bind.mpr (wpE_gnomeAsk (hdrained.permits nofun) fun stopped => ?_)
    have hstopped := hdrained.snoc (plain_stopped owner stopped)
    cases stopped with
    | true => exact hstopped.toBound
    | false =>
      cases dirty with
      | true => exact hstopped.toBound
      | false =>
        refine wpE_bind.mpr (wpE_gnomeAsk ⟨hstopped.intact, ?_⟩ fun r => ?_)
        · rintro _ _ ⟨⟩
          exact ⟨owner, hstopped.named, hstopped.fresh rfl⟩
        · exact hstopped.toBound.snoc id

/-- Refreshing queries again until an answer was undisturbed. -/
theorem wpE_refreshLoop (turns left : Nat) (h : Bound owner history) :
    wpE contract (refreshLoop turns owner left) (fun _ => Bound owner) Broken history := by
  induction left generalizing history with
  | zero => exact fun _ => h.intact
  | succ left ih =>
    unfold refreshLoop
    refine wpE_bind.mpr (wpE_gnomeAsk (h.permits nofun) fun stopped => ?_)
    have hstopped := h.plain plain_stopped stopped
    cases stopped with
    | true => exact hstopped
    | false =>
      refine (wpE_queryOnce turns hstopped).bind fun ended history' hbound => ?_
      cases ended with
      | true => exact hbound
      | false => exact ih hbound

/-- A signal that is no error leaves the owner in place. -/
theorem Bound.signal (h : Bound owner history) {timeout : Duration} {signal : BusSignal}
    {change : Bool} (hchange : changed signal owner = .ok change) :
    Bound owner (history ++ [⟨.process timeout, .ok (some signal)⟩]) := by
  have hdraining : Draining owner false true history := ⟨h, nofun⟩
  exact (hdraining.signal hchange).toBound

/-- A message is processed: it keeps the owner, or the source fails. -/
theorem wpE_processChange (h : Bound owner history) :
    wpE contract (processChange owner) (fun _ => Bound owner) Broken history := by
  unfold processChange
  refine wpE_bind.mpr (wpE_gnomeAsk (h.permits nofun) fun r => ?_)
  refine wpE_bind.mpr (wpE_gnomeBus fun message hr => ?_)
  subst hr
  cases message with
  | none => exact h.snoc id
  | some signal => exact wpE_gnomeBus fun change hchange => h.signal hchange

/-- Whether a refresh is due depends on the clock and on what has changed. -/
theorem wpE_refreshDue {reconcileInterval : Duration} {lastRefresh : Instant}
    (h : Bound owner history) (sourceChanged : Bool) :
    wpE contract (refreshDue reconcileInterval lastRefresh sourceChanged) (fun _ => Bound owner)
      Broken history := by
  unfold refreshDue
  split
  · exact h
  · exact wpE_bind.mpr (wpE_gnomeAsk (h.permits nofun) fun now => h.plain plain_now now)

/-- The loop keeps its owner from turn to turn. By induction on the turns that are left. -/
theorem wpE_watchLoop (turns : Nat) (reconcileInterval : Duration) (left : Nat)
    (lastRefresh : Instant) (h : Bound owner history) :
    wpE contract (watchLoop turns reconcileInterval owner left lastRefresh)
      (fun _ => Bound owner) Broken history := by
  induction left generalizing history lastRefresh with
  | zero => exact fun _ => h.intact
  | succ left ih =>
    unfold watchLoop
    refine wpE_bind.mpr (wpE_gnomeAsk (h.permits nofun) fun stopped => ?_)
    replace h := h.plain plain_stopped stopped
    cases stopped with
    | true => exact h
    | false =>
      refine (wpE_processChange h).bind fun sourceChanged history' hprocessed => ?_
      refine wpE_bind.mpr (wpE_gnomeAsk (hprocessed.permits nofun) fun stopped => ?_)
      replace hprocessed := hprocessed.plain plain_stopped stopped
      cases stopped with
      | true => exact hprocessed
      | false =>
        refine (wpE_refreshDue hprocessed sourceChanged).bind fun due history' hdue => ?_
        cases due with
        | false => exact ih lastRefresh hdue
        | true =>
          refine (wpE_refreshLoop turns turns hdue).bind fun _ history'' hrefreshed => ?_
          refine wpE_bind.mpr (wpE_gnomeAsk (hrefreshed.permits nofun) fun now => ?_)
          exact ih now (hrefreshed.plain plain_now now)

/-! ## The whole run -/

/-- Nothing has named or lost an owner. -/
structure Unbound (history : GnomeHistory) : Prop where
  unnamed : boundOwner history = none
  kept : ∀ owner, ∀ x ∈ history, ¬ OwnerLost owner x

theorem Unbound.nil : Unbound [] := ⟨rfl, fun _ => List.forall_mem_nil _⟩

/-- Without an owner none can be lost. -/
theorem Unbound.intact (h : Unbound history) : Intact history := fun owner _ => h.kept owner

/-- It stays without one as long as the bus names none. -/
theorem Unbound.snoc (h : Unbound history) {x : Exchange GnomeCall GnomeReply}
    (hunnamed : ownerNamed x = none) (hkept : ∀ owner, ¬ OwnerLost owner x) :
    Unbound (history ++ [x]) where
  unnamed := by
    unfold boundOwner
    rw [List.findSome?_append, show history.findSome? ownerNamed = none from h.unnamed]
    simp [hunnamed]
  kept owner y hy := by
    cases List.mem_append.mp hy with
    | inl hy => exact h.kept owner y hy
    | inr hy => rw [List.mem_singleton.mp hy]; exact hkept owner

/-- A first answer of the bus makes its owner the one to follow. -/
theorem Unbound.bound (h : Unbound history) {reply : BusReply}
    (hreply : reply.singleString = .ok owner) :
    Bound owner (history ++ [⟨.callMethod (getNameOwnerCall service), .ok reply⟩]) :=
  Bound.first h.unnamed (ownerNamed_reply hreply) (h.kept owner)
    fun hlost => not_disturbs_reply hreply hlost.disturbs

/-- The three subscriptions come before any owner is asked for. -/
theorem wpE_subscribe {Q : Unit → GnomeHistory → Prop} (h : Unbound history)
    (hQ : ∀ history, Unbound history → Q () history) :
    wpE contract subscribe Q Broken history := by
  have hrule {history : GnomeHistory} (h : Unbound history) (rule : BusSignalMatch)
      (r : GnomeReply (.addSignalMatch rule)) :
      Unbound (history ++ [⟨.addSignalMatch rule, r⟩]) := h.snoc rfl fun _ => id
  unfold subscribe
  refine wpE_bind.mpr (wpE_gnomeAsk ⟨h.intact, nofun⟩ fun r => ?_)
  replace h := hrule h _ r
  refine wpE_bind.mpr (wpE_gnomeBus fun _ _ => ?_)
  refine wpE_bind.mpr (wpE_gnomeAsk ⟨h.intact, nofun⟩ fun r => ?_)
  replace h := hrule h _ r
  refine wpE_bind.mpr (wpE_gnomeBus fun _ _ => ?_)
  refine wpE_bind.mpr (wpE_gnomeAsk ⟨h.intact, nofun⟩ fun r => ?_)
  exact wpE_gnomeBus fun _ _ => hQ _ (hrule h _ r)

/-- A watch of its own: subscribed, bound to the owner the bus names, and refreshed once before
the loop. -/
theorem wpE_watch (turns : Nat) (reconcileInterval : Duration) :
    wpE contract (watch turns reconcileInterval) (fun _ => Intact) Broken [] := by
  unfold watch
  refine wpE_bind.mpr (wpE_subscribe Unbound.nil fun history h => ?_)
  refine wpE_bind.mpr (wpE_gnomeAsk ⟨h.intact, nofun⟩ fun r => ?_)
  replace h : Unbound _ := h.snoc (x := ⟨.nameHasOwner service, r⟩) rfl fun _ => id
  refine wpE_bind.mpr (wpE_gnomeBus fun present _ => ?_)
  cases present with
  -- nobody has the name: the source reports absence and ends
  | false =>
    refine wpE_gnomeAsk ⟨h.intact, nofun⟩ fun r => ?_
    exact (h.snoc (x := ⟨.absent, r⟩) rfl fun _ => id).intact
  | true =>
    refine wpE_bind.mpr (wpE_gnomeCallFor h.intact fun reply owner hreply => ?_)
    refine (wpE_refreshLoop turns turns (h.bound hreply)).bind fun _ history hrefreshed => ?_
    refine wpE_bind.mpr (wpE_gnomeAsk (hrefreshed.permits nofun) fun now => ?_)
    have hloop := wpE_watchLoop turns reconcileInterval turns now (hrefreshed.plain plain_now now)
    exact wpE.mono (fun _ _ hbound => Bound.intact hbound) (fun _ _ => id) hloop

/-- Two places in a history: the one that is left behind by `late` is after the other. -/
theorem mem_of_split {α : Type} {before mid early late : List α} {x q : α}
    (h : before ++ x :: mid = early ++ q :: late) (hlate : x ∉ late) : x = q ∨ q ∈ mid := by
  obtain ⟨between, hearly, hrest⟩ | ⟨between, hbefore, hrest⟩ := List.append_eq_append_iff.mp h
  · -- the query is not before `x`
    cases between with
    | nil => exact .inl (List.cons.inj hrest).1
    | cons y between =>
      rw [(List.cons.inj hrest).2]
      exact .inr (by simp)
  · cases between with
    | nil => exact .inl (List.cons.inj hrest).1.symm
    | cons y between =>
      rw [(List.cons.inj hrest).2] at hlate
      exact absurd (by simp) hlate

/-- A query disturbs nothing. -/
theorem not_disturbs_query (reply : BusReply) (owner' : String) :
    ¬ Disturbs owner ⟨.callMethod (isInhibitedCall owner'), .ok reply⟩ :=
  fun hdisturbs => isInhibitedCall_ne owner' hdisturbs.1

end

/-- The law of a run, over its calls in order and its result. -/
structure GnomeLaw (history : GnomeHistory) (result : Except (Option SessionBusError) Unit) :
    Prop where
  /-- What is published is a fresh reply of the owner that is followed. -/
  fresh : ∀ before inhibited observedAt r after,
    history = before ++ ⟨.observe inhibited observedAt, r⟩ :: after →
    ∃ owner, boundOwner before = some owner ∧ FreshReply owner inhibited before
  /-- After a change has been processed, a new query is answered before anything is published. -/
  requeried : ∀ before x mid inhibited observedAt r after owner,
    history = before ++ x :: (mid ++ ⟨.observe inhibited observedAt, r⟩ :: after) →
    boundOwner before = some owner → Disturbs owner x →
    ∃ reply, ⟨.callMethod (isInhibitedCall owner), .ok reply⟩ ∈ mid
      ∧ reply.singleBool = .ok inhibited
  /-- The loss of the owner is the end of the watch, with an error. -/
  lost : ∀ before x after owner, history = before ++ x :: after →
    boundOwner before = some owner → OwnerLost owner x →
    after = [] ∧ ∃ err, result = .error (some err)

/-- The owner stays the one that was named first. -/
theorem boundOwner_append {before : GnomeHistory} {owner : String}
    (h : boundOwner before = some owner) (after : GnomeHistory) :
    boundOwner (before ++ after) = some owner := by
  unfold boundOwner
  rw [List.findSome?_append, show before.findSome? ownerNamed = some owner from h]
  rfl

/-- **GNOME inhibition is never published stale.** Whatever the bus answers and delivers, whenever
the watch is stopped, and after any number of turns: a value is published only if the followed
owner has answered it, has been named as the owner since, and neither its loss nor an inhibitor
that it added or removed has been processed since; after such a signal a new query is answered
before anything is published; and the loss of the owner ends the watch with an error, at once. -/
theorem gnome_inhibition_never_stale {σ : Type}
    (handle : σ → (c : GnomeCall) → GnomeReply c × σ) (s : σ) (turns : Nat)
    (reconcileInterval : Duration) :
    GnomeLaw (calls handle (watch turns reconcileInterval).run s)
      (exec handle (watch turns reconcileInterval).run s).1 := by
  obtain ⟨hcalls, hend⟩ := wp.calls (wpE_watch turns reconcileInterval) handle s
  simp only [observe_record, List.nil_append] at hcalls hend
  generalize calls handle (watch turns reconcileInterval).run s = history at hcalls hend
  generalize (exec handle (watch turns reconcileInterval).run s).1 = result at hend
  refine ⟨?_, ?_, ?_⟩
  · intro before inhibited observedAt r after hsplit
    exact (hcalls before _ after hsplit).2 inhibited observedAt rfl
  · intro before x mid inhibited observedAt r after owner hsplit howner hdisturbs
    rw [← List.cons_append, ← List.append_assoc] at hsplit
    obtain ⟨owner', howner', early, reply, late, heq, hreply, hlate, -⟩ :=
      (hcalls _ _ after hsplit).2 inhibited observedAt rfl
    rw [boundOwner_append howner] at howner'
    cases howner'
    have hnew := mem_of_split heq fun hmem => hlate x hmem hdisturbs
    cases hnew with
    | inl hquery =>
      rw [hquery] at hdisturbs
      exact absurd hdisturbs (not_disturbs_query reply owner)
    | inr hmem => exact ⟨reply, hmem, hreply⟩
  · intro before x after owner hsplit howner hlost
    cases after with
    | cons y after =>
      -- the watch would have made another call
      have hsplit' : history = (before ++ [x]) ++ y :: after := by rw [hsplit]; simp
      have hintact := (hcalls _ y after hsplit').1 owner (boundOwner_append howner [x])
      exact absurd hlost (hintact x (by simp))
    | nil =>
      have hmem : x ∈ history := by rw [hsplit]; simp
      have howner' : boundOwner history = some owner := by
        rw [hsplit]
        exact boundOwner_append howner [x]
      have hnot : ¬ Intact history := fun hintact => hintact owner howner' x hmem hlost
      refine ⟨rfl, ?_⟩
      cases result with
      | ok _ => exact absurd hend hnot
      | error err =>
        cases err with
        | none => exact absurd (hend rfl) hnot
        | some err => exact ⟨err, rfl⟩

end GnomeInhibition

end LgBuddy
