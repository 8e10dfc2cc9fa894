import LgBuddy.Setup.Attention

/-!
# LgBuddy — setup attention is raised at most once

Every history of the notifications about setup, across restarts and with a process that may be
killed between any two calls.

* `AttentionView` — what an observer of the history knows; `view` derives it from the log;
* `Permits` — the law of the calls: which call is in order, given what was observed before it;
* `AttentionInv` — what ties the memory of a process and the ledger to that;
* `attention_law` — every call of every history is in order.

A notice that was acted on is closed. If that fails, the process has forgotten the notice, but the
ledger has not; `actionClosesSucceed` leaves these histories out where it matters.
-/

namespace LgBuddy

/-! ## What is observed -/

def NotificationSignal.id : NotificationSignal → Nat
  | .activationToken id _ | .actionInvoked id _ | .closed id => id

/-- A notification, by its server and its number there. -/
abbrev NoticeId := String × Nat

structure AttentionView where
  /-- The requirements that notifications were sent about. -/
  told : List RequirementKey := []
  /-- What `notify` has returned. -/
  returned : List NoticeId := []
  /-- The same, by the present process. -/
  sent : List NoticeId := []
  /-- For which notices this process has opened the GUI. -/
  opened : List NoticeId := []
  /-- The notices that were closed since they were last sent. -/
  ended : List NoticeId := []
  /-- The owner that was reported just now. -/
  owner : Option String := none
  /-- The signal that is being handled. -/
  signal : Option (String × NotificationSignal) := none
  /-- This process has always been able to write the ledger. -/
  writesSucceed : Bool := true
  /-- It was able to close every notice that was acted on. -/
  actionClosesSucceed : Bool := true

namespace AttentionView

def noteCall (v : AttentionView) : (e : AttentionCall) → e.Answer → AttentionView
  | .owner, .ok owner => { v with owner := some owner }
  | .notify owner _ about, .ok id =>
    { v with
      owner := none
      told := v.told ++ about
      returned := (owner, id) :: v.returned
      sent := (owner, id) :: v.sent
      ended := v.ended.filter (· ≠ (owner, id)) }
  | .close owner id, .ok () => { v with owner := none, ended := (owner, id) :: v.ended }
  | .close _ _, .error _ =>
    { v with
      owner := none
      actionClosesSucceed := v.actionClosesSucceed && v.signal.isNone }
  | .openGui _, _ =>
    { v with
      owner := none
      opened := (v.signal.map fun (owner, signal) => (owner, signal.id)).toList ++ v.opened }
  | .save _, .error _ => { v with owner := none, writesSucceed := false }
  | .load, _ => v
  | _, _ => { v with owner := none }

def note (v : AttentionView) : AttentionRecord → AttentionView
  | .started =>
    { v with
      sent := []
      opened := []
      ended := []
      owner := none
      signal := none
      writesSucceed := true
      actionClosesSucceed := true }
  | .observed _ => { v with owner := none, signal := none }
  | .received owner signal =>
    { v with
      owner := none
      signal := some (owner, signal)
      ended := match signal with
        | .closed id => (owner, id) :: v.ended
        | _ => v.ended }
  | .called e r => v.noteCall e r

/-- Everything but the owner. -/
structure Same (v v' : AttentionView) : Prop where
  told : v'.told = v.told
  returned : v'.returned = v.returned
  sent : v'.sent = v.sent
  opened : v'.opened = v.opened
  ended : v'.ended = v.ended
  signal : v'.signal = v.signal
  writesSucceed : v'.writesSucceed = v.writesSucceed
  actionClosesSucceed : v'.actionClosesSucceed = v.actionClosesSucceed

theorem Same.refl (v : AttentionView) : Same v v := ⟨rfl, rfl, rfl, rfl, rfl, rfl, rfl, rfl⟩

theorem Same.trans {v v' v'' : AttentionView} (h : Same v v') (h' : Same v' v'') : Same v v'' :=
  ⟨h'.told.trans h.told, h'.returned.trans h.returned, h'.sent.trans h.sent,
    h'.opened.trans h.opened, h'.ended.trans h.ended, h'.signal.trans h.signal,
    h'.writesSucceed.trans h.writesSucceed, h'.actionClosesSucceed.trans h.actionClosesSucceed⟩

end AttentionView

def view (log : List AttentionRecord) : AttentionView := log.foldl AttentionView.note {}

def AttentionWorld.view (world : AttentionWorld) : AttentionView := LgBuddy.view world.log

/-- A call that was answered is noted as such, and its answer changes nothing else of the view. -/
@[simp] theorem view_answered (world : AttentionWorld) (e : AttentionCall) (r : e.Answer) :
    (world.answered e r).view = world.view.noteCall e r := by
  simp [AttentionWorld.view, AttentionWorld.answered, view, AttentionView.note]

@[simp] theorem view_note (world : AttentionWorld) (x : AttentionRecord) :
    (world.note x).view = world.view.note x := by
  simp [AttentionWorld.view, AttentionWorld.note, view]

/-! ## The law -/

/-- The notice was sent by this process, and is not over. -/
def AttentionView.Open (v : AttentionView) (notice : NoticeId) : Prop :=
  v.writesSucceed → v.actionClosesSucceed → notice ∈ v.sent → notice ∉ v.ended

/-- **Which call is in order.** -/
def Permits (v : AttentionView) : AttentionCall → Prop
  /- Nobody is told twice. -/
  | .notify _ _ about => ∀ key ∈ about, key ∉ v.told
  /- Only a notice, only right after its server was seen, and only once. -/
  | .close owner id => v.owner = some owner ∧ (owner, id) ∈ v.returned ∧ v.Open (owner, id)
  /- Only on request, and once for each notice. -/
  | .openGui _ => ∃ owner id key, v.signal = some (owner, .actionInvoked id key)
    ∧ (key = defaultAction ∨ key = completeSetupAction)
    ∧ v.opened.count (owner, id) < v.sent.count (owner, id)
  | _ => True

/-- What the ledger must be good for after the call, even if nothing follows. -/
def LedgerKeeps (world : AttentionWorld) : AttentionCall → Prop
  | .notify _ _ about => ∀ key ∈ about, key ∈ world.ledger.seen
  | .save next => (∀ key ∈ world.view.told, key ∈ next.seen)
    ∧ ∀ o ∈ next.outstanding, (o.owner, o.id) ∈ world.view.returned
  | _ => True

/-- Only the ledger is what it was. -/
def Possible (world : AttentionWorld) : (e : AttentionCall) → e.Answer → Prop
  | .load, data => data = world.ledger
  | _, _ => True

def attentionContract : Program.Contract AttentionCall AttentionCall.Answer AttentionWorld where
  permits world e := Permits world.view e ∧ LedgerKeeps world e
  next world e r world' := Possible world e r ∧ world' = world.answered e r

/-- What the ledger is good for. -/
structure LedgerInv (world : AttentionWorld) : Prop where
  told : ∀ key ∈ world.view.told, key ∈ world.ledger.seen
  outstanding : ∀ o ∈ world.ledger.outstanding, (o.owner, o.id) ∈ world.view.returned

/-- The notices that a process knows of. -/
def Attention.notices (attention : Attention) : List NoticeId :=
  (attention.pending.toList ++ attention.recentlyClosed).map fun p => (p.owner, p.id)

/-- What holds also between the calls of an operation. -/
structure AttentionCore (attention : Attention) (world : AttentionWorld) : Prop where
  ledger : LedgerInv world
  sent : ∀ notice ∈ world.view.sent, notice ∈ world.view.returned
  kept : ∀ notice, world.view.opened.count notice + attention.notices.count notice
    ≤ world.view.sent.count notice

/-- The pending notice is not over. -/
def Live (attention : Attention) (world : AttentionWorld) : Prop :=
  ∀ p ∈ attention.pending, world.view.Open (p.owner, p.id)

/-- The ledger has the pending notice, unless this process has not sent any. -/
def Tidy (attention : Attention) (world : AttentionWorld) : Prop :=
  world.view.writesSucceed → world.view.actionClosesSucceed → world.view.sent = []
    ∨ world.ledger.outstanding = attention.pending.map fun p => ⟨p.owner, p.id⟩

structure AttentionInv (attention : Attention) (world : AttentionWorld) : Prop
    extends AttentionCore attention world where
  live : Live attention world
  tidy : Tidy attention world

/-! ## Calls that change nothing -/

structure Unchanged (world world' : AttentionWorld) : Prop where
  ledger : world'.ledger = world.ledger
  view : AttentionView.Same world.view world'.view

section

variable {attention : Attention} {world world' : AttentionWorld}

/-- A notice stays open as long as the view stays the same. -/
theorem AttentionView.Same.open {v v' : AttentionView} (h : Same v v') {notice : NoticeId}
    (hopen : v.Open notice) : v'.Open notice := by
  unfold AttentionView.Open
  rw [h.writesSucceed, h.actionClosesSucceed, h.sent, h.ended]
  exact hopen

/-- With nothing outstanding there is nothing to answer for. -/
theorem none_returned {world : AttentionWorld} (o : Outstanding)
    (ho : o ∈ (none : Option Outstanding)) : (o.owner, o.id) ∈ world.view.returned := by
  cases ho

/-- The ledger's part of the invariant speaks of the ledger and of what was told and returned
only. -/
theorem LedgerInv.unchanged (h : LedgerInv world) (hsame : Unchanged world world') :
    LedgerInv world' := by
  refine ⟨?_, ?_⟩
  · rw [hsame.view.told, hsame.ledger]
    exact h.told
  · rw [hsame.view.returned, hsame.ledger]
    exact h.outstanding

/-- The part that a process shares with its world keeps its invariant where nothing changed. -/
theorem AttentionCore.unchanged (h : AttentionCore attention world)
    (hsame : Unchanged world world') : AttentionCore attention world' := by
  refine ⟨h.ledger.unchanged hsame, ?_, ?_⟩
  · rw [hsame.view.sent, hsame.view.returned]
    exact h.sent
  · rw [hsame.view.opened, hsame.view.sent]
    exact h.kept

/-- An outstanding notice is still the pending one where nothing changed. -/
theorem Tidy.unchanged (h : Tidy attention world) (hsame : Unchanged world world') :
    Tidy attention world' := by
  unfold Tidy
  rw [hsame.view.writesSucceed, hsame.view.actionClosesSucceed, hsame.view.sent, hsame.ledger]
  exact h

/-- A call that changes neither the ledger nor the view keeps the invariant. -/
theorem AttentionInv.unchanged (h : AttentionInv attention world)
    (hsame : Unchanged world world') : AttentionInv attention world' :=
  ⟨h.toAttentionCore.unchanged hsame, fun p hp => hsame.view.open (h.live p hp),
    h.tidy.unchanged hsame⟩

end

namespace AttentionM

open Program (wpS)

variable {α : Type} {s : Attention} {t : AttentionWorld} {E : String → Attention → AttentionWorld → Prop}

/-- One call: it has to be permitted and to keep the ledger, and any possible answer may come. -/
theorem wpS_call {e : AttentionCall} {Q : e.Answer → Attention → AttentionWorld → Prop}
    (hpermits : Permits t.view e) (hkeeps : LedgerKeeps t e)
    (h : ∀ r, Possible t e r → Q r s (t.answered e r)) :
    wpS attentionContract (call e) Q E s t := by
  refine Program.wpS_liftM.mpr ((Program.wp_perform e).mpr ⟨⟨hpermits, hkeeps⟩, ?_⟩)
  rintro r t' ⟨hpossible, rfl⟩
  exact h r hpossible

theorem wpS_orFail {result : Except String α} {Q : α → Attention → AttentionWorld → Prop}
    (hok : ∀ a, result = .ok a → Q a s t) (herr : ∀ err, result = .error err → E err s t) :
    wpS attentionContract (orFail result) Q E s t := by
  cases result with
  | ok a => exact hok a rfl
  | error err => exact herr err rfl

/-- Loading gives the ledger as it stands. -/
theorem wpS_load {Q : LedgerData → Attention → AttentionWorld → Prop}
    (h : ∀ t', Unchanged t t' → t'.view.owner = t.view.owner → Q t.ledger s t') :
    wpS attentionContract load Q E s t := by
  refine wpS_call trivial trivial fun r hr => ?_
  have hview := view_answered t .load r
  have hasked := h (t.answered .load r) ⟨rfl, by rw [hview]; exact .refl _⟩ (by rw [hview]; rfl)
  exact (congrArg (fun data => Q data s (t.answered .load r)) (hr : r = t.ledger)).mpr hasked

/-- Asking whether the window is open changes nothing. -/
theorem wpS_guiOpen {Q : Bool → Attention → AttentionWorld → Prop}
    (hok : ∀ b t', Unchanged t t' → Q b s t') (herr : ∀ err t', Unchanged t t' → E err s t') :
    wpS attentionContract guiOpen Q E s t := by
  refine Program.wpS_bind.mpr (wpS_call trivial trivial fun r _ => ?_)
  have hsame : Unchanged t (t.answered .guiOpen r) :=
    ⟨rfl, by rw [view_answered]; exact ⟨rfl, rfl, rfl, rfl, rfl, rfl, rfl, rfl⟩⟩
  exact wpS_orFail (fun b _ => hok b _ hsame) fun err _ => herr err _ hsame

/-- Asking the server for its abilities changes nothing. -/
theorem wpS_actionsSupported {owner : String} {Q : Bool → Attention → AttentionWorld → Prop}
    (hok : ∀ b t', Unchanged t t' → Q b s t') (herr : ∀ err t', Unchanged t t' → E err s t') :
    wpS attentionContract (actionsSupported owner) Q E s t := by
  refine Program.wpS_bind.mpr (wpS_call trivial trivial fun r _ => ?_)
  have hsame : Unchanged t (t.answered (.actionsSupported owner) r) :=
    ⟨rfl, by rw [view_answered]; exact ⟨rfl, rfl, rfl, rfl, rfl, rfl, rfl, rfl⟩⟩
  exact wpS_orFail (fun b _ => hok b _ hsame) fun err _ => herr err _ hsame

/-- The owner, asked for without `?`. -/
theorem wpS_askOwner {Q : Except String String → Attention → AttentionWorld → Prop}
    (h : ∀ r t', Unchanged t t' → (∀ owner, r = .ok owner → t'.view.owner = some owner) →
      Q r s t') :
    wpS attentionContract (call .owner) Q E s t := by
  refine wpS_call trivial trivial fun r _ => ?_
  have hsame : AttentionView.Same t.view (t.view.noteCall .owner r) := by
    cases r with
    | ok owner => exact ⟨rfl, rfl, rfl, rfl, rfl, rfl, rfl, rfl⟩
    | error err => exact ⟨rfl, rfl, rfl, rfl, rfl, rfl, rfl, rfl⟩
  refine h r _ ⟨rfl, by rw [view_answered]; exact hsame⟩ fun owner howner => ?_
  rw [view_answered, show r = .ok owner from howner]
  rfl

/-- The owner that is answered is the one the view has from now on. -/
theorem wpS_owner {Q : String → Attention → AttentionWorld → Prop}
    (hok : ∀ owner t', Unchanged t t' → t'.view.owner = some owner → Q owner s t')
    (herr : ∀ err t', Unchanged t t' → E err s t') :
    wpS attentionContract owner Q E s t := by
  refine Program.wpS_bind.mpr (wpS_askOwner fun r t' hsame howner => ?_)
  exact wpS_orFail (fun owner hr => hok owner t' hsame (howner owner hr))
    fun err _ => herr err t' hsame

/-! ## Calls that change something -/

/-- The ledger could not be written. -/
structure Unwritten (t t' : AttentionWorld) : Prop where
  ledger : t'.ledger = t.ledger
  writesSucceed : t'.view.writesSucceed = false
  view : AttentionView.Same { t.view with writesSucceed := false } t'.view

/-- A save replaces the ledger, or fails and leaves it. -/
theorem wpS_save {next : LedgerData} {Q : Unit → Attention → AttentionWorld → Prop}
    (hkeeps : LedgerKeeps t (.save next))
    (hok : ∀ t', t'.ledger = next → AttentionView.Same t.view t'.view → Q () s t')
    (herr : ∀ err t', Unwritten t t' → E err s t') :
    wpS attentionContract (save next) Q E s t := by
  refine Program.wpS_bind.mpr (wpS_call trivial hkeeps fun r _ => ?_)
  have hview := view_answered t (.save next) r
  refine wpS_orFail (fun _ hr => ?_) fun err hr => ?_
  · cases hr
    refine hok _ rfl ?_
    rw [hview]
    exact ⟨rfl, rfl, rfl, rfl, rfl, rfl, rfl, rfl⟩
  · cases hr
    refine herr err _ ⟨rfl, ?_, ?_⟩
    · rw [hview]
      rfl
    · rw [hview]
      exact ⟨rfl, rfl, rfl, rfl, rfl, rfl, rfl, rfl⟩

/-- The outstanding notice is saved if it differs from the one in the ledger; what was seen stays.
-/
theorem wpS_setOutstanding {outstanding : Option Outstanding}
    {Q : Unit → Attention → AttentionWorld → Prop} (hledger : LedgerInv t)
    (hreturned : ∀ o ∈ outstanding, (o.owner, o.id) ∈ t.view.returned)
    (hok : ∀ t', t'.ledger = { t.ledger with outstanding } → AttentionView.Same t.view t'.view →
      Q () s t')
    (herr : ∀ err t', Unwritten t t' → E err s t') :
    wpS attentionContract (setOutstanding outstanding) Q E s t := by
  refine Program.wpS_bind.mpr (wpS_load fun t' hsame _ => ?_)
  show wpS _ (if _ then _ else _) Q E s t'
  split
  -- nothing to write: the ledger has it already
  · rename_i hequal
    refine hok t' ?_ hsame.view
    rw [hsame.ledger, ← hequal]
  · refine wpS_save ⟨?_, ?_⟩ ?_ ?_
    · rw [hsame.view.told]
      exact hledger.told
    · rw [hsame.view.returned]
      exact hreturned
    · exact fun t'' hnext hview => hok t'' hnext (hsame.view.trans hview)
    · intro err t'' h
      refine herr err t'' ⟨h.ledger.trans hsame.ledger, h.writesSucceed, ?_⟩
      refine AttentionView.Same.trans ?_ h.view
      exact ⟨hsame.view.told, hsame.view.returned, hsame.view.sent, hsame.view.opened,
        hsame.view.ended, hsame.view.signal, rfl, hsame.view.actionClosesSucceed⟩

/-- Afterwards all keys are in the ledger. -/
theorem wpS_record {keys : List RequirementKey} {Q : Unit → Attention → AttentionWorld → Prop}
    (hledger : LedgerInv t)
    (hok : ∀ t', t'.ledger.outstanding = t.ledger.outstanding →
      (∀ key ∈ t.ledger.seen, key ∈ t'.ledger.seen) → (∀ key ∈ keys, key ∈ t'.ledger.seen) →
      AttentionView.Same t.view t'.view → Q () s t')
    (herr : ∀ err t', Unwritten t t' → E err s t') :
    wpS attentionContract (SetupLedger.record keys) Q E s t := by
  refine Program.wpS_bind.mpr (wpS_load fun t' hsame _ => ?_)
  show wpS _ (if _ then _ else _) Q E s t'
  split
  · rename_i hall
    refine hok t' (by rw [hsame.ledger]) ?_ ?_ hsame.view
    · rw [hsame.ledger]
      exact fun key hkey => hkey
    · rw [hsame.ledger]
      simpa using hall
  · refine wpS_save ⟨?_, ?_⟩ ?_ ?_
    · rw [hsame.view.told]
      exact fun key hkey => List.mem_append_left _ (hledger.told key hkey)
    · rw [hsame.view.returned]
      exact hledger.outstanding
    · intro t'' hnext hview
      refine hok t'' (by rw [hnext]) ?_ ?_ (hsame.view.trans hview)
      · rw [hnext]
        exact fun key hkey => List.mem_append_left _ hkey
      · rw [hnext]
        intro key hkey
        by_cases hseen : key ∈ t.ledger.seen
        · exact List.mem_append_left _ hseen
        · exact List.mem_append_right _ (List.mem_filter.mpr ⟨hkey, by simpa using hseen⟩)
    · intro err t'' h
      refine herr err t'' ⟨h.ledger.trans hsame.ledger, h.writesSucceed, ?_⟩
      refine AttentionView.Same.trans ?_ h.view
      exact ⟨hsame.view.told, hsame.view.returned, hsame.view.sent, hsame.view.opened,
        hsame.view.ended, hsame.view.signal, rfl, hsame.view.actionClosesSucceed⟩

/-- The notice was closed, or its server was not there. -/
structure Closed (notice : NoticeId) (t t' : AttentionWorld) : Prop where
  ledger : t'.ledger = t.ledger
  view : ∃ ended, AttentionView.Same { t.view with ended } t'.view

/-- The server would not close the notice. -/
structure Refused (t t' : AttentionWorld) : Prop where
  ledger : t'.ledger = t.ledger
  view : AttentionView.Same { t.view with
    actionClosesSucceed := t.view.actionClosesSucceed && t.view.signal.isNone } t'.view

/-- A close ends the notice, or is refused and leaves it open. -/
theorem wpS_close {owner : String} {id : Nat} {Q : Unit → Attention → AttentionWorld → Prop}
    (howner : t.view.owner = some owner) (hreturned : (owner, id) ∈ t.view.returned)
    (hopen : t.view.Open (owner, id)) (hok : ∀ t', Closed (owner, id) t t' → Q () s t')
    (herr : ∀ err t', Refused t t' → E err s t') :
    wpS attentionContract (close owner id) Q E s t := by
  refine Program.wpS_bind.mpr (wpS_call ⟨howner, hreturned, hopen⟩ trivial fun r _ => ?_)
  have hview := view_answered t (.close owner id) r
  refine wpS_orFail (fun _ hr => ?_) fun err hr => ?_
  · cases hr
    refine hok _ ⟨rfl, (owner, id) :: t.view.ended, ?_⟩
    rw [hview]
    exact ⟨rfl, rfl, rfl, rfl, rfl, rfl, rfl, rfl⟩
  · cases hr
    refine herr err _ ⟨rfl, ?_⟩
    rw [hview]
    exact ⟨rfl, rfl, rfl, rfl, rfl, rfl, rfl, rfl⟩

/-- A notice of a server that is gone is closed already; one of the server at hand is closed
there. -/
theorem wpS_closeIfOwned {owner : String} {id : Nat}
    {Q : Unit → Attention → AttentionWorld → Prop} (hreturned : (owner, id) ∈ t.view.returned)
    (hopen : t.view.Open (owner, id)) (hok : ∀ t', Closed (owner, id) t t' → Q () s t')
    (herr : ∀ err t', Refused t t' → E err s t') :
    wpS attentionContract (Attention.closeIfOwned owner id) Q E s t := by
  refine Program.wpS_bind.mpr (wpS_askOwner fun r t' hsame howner => ?_)
  have hclosed : Closed (owner, id) t t' := ⟨hsame.ledger, t.view.ended, hsame.view⟩
  cases r with
  -- nobody owns the name: the notice has gone with its server
  | error err => exact hok t' hclosed
  | ok current =>
    show wpS _ (if _ then _ else _) Q E s t'
    split
    · rename_i hcurrent
      refine wpS_close ?_ ?_ (hsame.view.open hopen) ?_ ?_
      · rw [howner current rfl, hcurrent]
      · rw [hsame.view.returned]
        exact hreturned
      · rintro t'' ⟨hledger, ended, hview⟩
        refine hok t'' ⟨hledger.trans hsame.ledger, ended, AttentionView.Same.trans ?_ hview⟩
        exact ⟨hsame.view.told, hsame.view.returned, hsame.view.sent, hsame.view.opened, rfl,
          hsame.view.signal, hsame.view.writesSucceed, hsame.view.actionClosesSucceed⟩
      · rintro err t'' ⟨hledger, hview⟩
        refine herr err t'' ⟨hledger.trans hsame.ledger, AttentionView.Same.trans ?_ hview⟩
        refine ⟨hsame.view.told, hsame.view.returned, hsame.view.sent, hsame.view.opened,
          hsame.view.ended, hsame.view.signal, hsame.view.writesSucceed, ?_⟩
        show (t'.view.actionClosesSucceed && t'.view.signal.isNone) = _
        rw [hsame.view.actionClosesSucceed, hsame.view.signal]
    · exact hok t' hclosed

/-- The server has accepted a notice. -/
structure Delivered (notice : NoticeId) (about : List RequirementKey) (t t' : AttentionWorld) :
    Prop where
  ledger : t'.ledger = t.ledger
  view : AttentionView.Same { t.view with
    told := t.view.told ++ about
    returned := notice :: t.view.returned
    sent := notice :: t.view.sent
    ended := t.view.ended.filter (· ≠ notice) } t'.view

/-- A delivered notice is told and returned; a refused one leaves everything as it was. -/
theorem wpS_notify {owner : String} {notification : Notification} {about : List RequirementKey}
    {Q : Nat → Attention → AttentionWorld → Prop} (hfresh : ∀ key ∈ about, key ∉ t.view.told)
    (hseen : ∀ key ∈ about, key ∈ t.ledger.seen)
    (hok : ∀ id t', Delivered (owner, id) about t t' → Q id s t')
    (herr : ∀ err t', Unchanged t t' → E err s t') :
    wpS attentionContract (notify owner notification about) Q E s t := by
  refine Program.wpS_bind.mpr (wpS_call hfresh hseen fun r _ => ?_)
  have hview := view_answered t (.notify owner notification about) r
  refine wpS_orFail (fun id hr => ?_) fun err hr => ?_
  · cases hr
    refine hok id _ ⟨rfl, ?_⟩
    rw [hview]
    exact ⟨rfl, rfl, rfl, rfl, rfl, rfl, rfl, rfl⟩
  · cases hr
    refine herr err _ ⟨rfl, ?_⟩
    rw [hview]
    exact ⟨rfl, rfl, rfl, rfl, rfl, rfl, rfl, rfl⟩

end AttentionM

/-! ## What the calls keep -/

section

open AttentionM

variable {attention : Attention} {notice : NoticeId} {t t' : AttentionWorld}

/-- What a process answers for stays, if what was told, sent and opened stays. -/
theorem AttentionCore.carry (h : AttentionCore attention t) (hledger : LedgerInv t')
    {v : AttentionView} (hview : AttentionView.Same v t'.view)
    (hreturned : v.returned = t.view.returned) (hsent : v.sent = t.view.sent)
    (hopened : v.opened = t.view.opened) : AttentionCore attention t' := by
  refine ⟨hledger, ?_, ?_⟩
  · rw [hview.sent, hview.returned, hsent, hreturned]
    exact h.sent
  · rw [hview.opened, hview.sent, hopened, hsent]
    exact h.kept

/-- Only a change of what was told or returned could break the ledger's part. -/
theorem LedgerInv.carry (h : LedgerInv t) (hledger : t'.ledger = t.ledger) {v : AttentionView}
    (hview : AttentionView.Same v t'.view) (htold : v.told = t.view.told)
    (hreturned : v.returned = t.view.returned) : LedgerInv t' := by
  refine ⟨?_, ?_⟩
  · rw [hview.told, htold, hledger]
    exact h.told
  · rw [hview.returned, hreturned, hledger]
    exact h.outstanding

/-- A closed notice breaks nothing that the process shares with its world. -/
theorem AttentionCore.closed (h : AttentionCore attention t) (hclosed : Closed notice t t') :
    AttentionCore attention t' := by
  obtain ⟨hledger, ended, hview⟩ := hclosed
  exact h.carry (h.ledger.carry hledger hview rfl rfl) hview rfl rfl rfl

/-- A refused close keeps the shared invariant. -/
theorem AttentionCore.refused (h : AttentionCore attention t) (hrefused : Refused t t') :
    AttentionCore attention t' := by
  obtain ⟨hledger, hview⟩ := hrefused
  exact h.carry (h.ledger.carry hledger hview rfl rfl) hview rfl rfl rfl

/-- A save that failed keeps the shared invariant. -/
theorem AttentionCore.unwritten (h : AttentionCore attention t) (hunwritten : Unwritten t t') :
    AttentionCore attention t' := by
  obtain ⟨hledger, -, hview⟩ := hunwritten
  exact h.carry (h.ledger.carry hledger hview rfl rfl) hview rfl rfl rfl

/-- A process that cannot write the ledger is not held to more. -/
theorem AttentionCore.inv_unwritten (h : AttentionCore attention t)
    (hunwritten : Unwritten t t') : AttentionInv attention t' := by
  have hfalse : t'.view.writesSucceed ≠ true := by
    rw [hunwritten.writesSucceed]
    nofun
  exact ⟨h.unwritten hunwritten, fun _ _ hwrites => absurd hwrites hfalse,
    fun hwrites => absurd hwrites hfalse⟩

/-- A refusal outside of signals leaves all as it was. -/
theorem AttentionInv.refused (h : AttentionInv attention t) (hrefused : Refused t t') :
    AttentionInv attention t' := by
  obtain ⟨hledger, hview⟩ := hrefused
  have hcloses : t'.view.actionClosesSucceed = true → t.view.actionClosesSucceed = true := by
    rw [hview.actionClosesSucceed]
    exact fun hboth => (Bool.and_eq_true_iff.mp hboth).1
  refine ⟨h.toAttentionCore.refused ⟨hledger, hview⟩, fun p hp hwrites hactions => ?_,
    fun hwrites hactions => ?_⟩
  · rw [hview.sent, hview.ended]
    exact h.live p hp (hview.writesSucceed ▸ hwrites) (hcloses hactions)
  · rw [hview.sent, hledger]
    exact h.tidy (hview.writesSucceed ▸ hwrites) (hcloses hactions)

/-- With no notice pending and none in the ledger. -/
theorem AttentionCore.inv_settled (h : AttentionCore attention t)
    (hpending : attention.pending = none) (houtstanding : t.ledger.outstanding = none) :
    AttentionInv attention t := by
  refine ⟨h, fun p hp => ?_, fun _ _ => Or.inr ?_⟩
  · rw [hpending] at hp
    cases hp
  · rw [houtstanding, hpending]
    rfl

/-- A ledger with another outstanding notice. -/
theorem AttentionCore.outstanding (h : AttentionCore attention t) {outstanding : Option Outstanding}
    (hreturned : ∀ o ∈ outstanding, (o.owner, o.id) ∈ t.view.returned)
    (hledger : t'.ledger = { t.ledger with outstanding })
    (hview : AttentionView.Same t.view t'.view) : AttentionCore attention t' := by
  refine h.carry ⟨?_, ?_⟩ hview rfl rfl rfl
  · rw [hview.told, hledger]
    exact h.ledger.told
  · rw [hview.returned, hledger]
    exact hreturned

/-- A ledger that knows of more requirements. -/
theorem AttentionInv.recorded (h : AttentionInv attention t)
    (houtstanding : t'.ledger.outstanding = t.ledger.outstanding)
    (hseen : ∀ key ∈ t.ledger.seen, key ∈ t'.ledger.seen)
    (hview : AttentionView.Same t.view t'.view) : AttentionInv attention t' := by
  refine ⟨h.toAttentionCore.carry ⟨?_, ?_⟩ hview rfl rfl rfl, fun p hp => hview.open (h.live p hp),
    ?_⟩
  · rw [hview.told]
    exact fun key hkey => hseen key (h.ledger.told key hkey)
  · rw [hview.returned, houtstanding]
    exact h.ledger.outstanding
  · unfold Tidy
    rw [hview.writesSucceed, hview.actionClosesSucceed, hview.sent, houtstanding]
    exact h.tidy

end

/-! ## Operations -/

namespace Attention

open AttentionM
open Program (wpS)

variable {s : Attention} {t : AttentionWorld} {Q : Unit → Attention → AttentionWorld → Prop}
  {E : String → Attention → AttentionWorld → Prop}

/-- What `remember_closed` makes of the state. -/
def withClosed (attention : Attention) (pending : PendingNotice) : Attention :=
  let closed := attention.recentlyClosed
  let closed := if closed.length = recentlyClosedNotificationLimit then closed.tail else closed
  { attention with recentlyClosed := closed ++ [pending] }

/-- An old notice may be forgotten, the new one is kept. -/
theorem notices_withClosed {pending : PendingNotice} (hpending : s.pending = some pending)
    (notice : NoticeId) :
    (({ s with pending := none } : Attention).withClosed pending).notices.count notice
      ≤ s.notices.count notice := by
  have hle : (if s.recentlyClosed.length = recentlyClosedNotificationLimit then
      s.recentlyClosed.tail else s.recentlyClosed).Sublist s.recentlyClosed := by
    split
    · exact List.tail_sublist _
    · exact List.Sublist.refl _
  have hcount := (hle.map fun p : PendingNotice => (p.owner, p.id)).count_le notice
  simp only [notices, withClosed, hpending, Option.toList_none, Option.toList_some,
    List.nil_append, List.map_append, List.map_cons, List.map_nil, List.count_append,
    List.cons_append, List.count_cons, List.count_nil]
  omega

/-- The pending notice is one of those the process keeps. -/
theorem mem_notices {pending : PendingNotice} (hpending : s.pending = some pending) :
    0 < s.notices.count (pending.owner, pending.id) := by
  simp [notices, hpending]

/-- A notice of this process was returned by its server. -/
theorem returned_of_pending {pending : PendingNotice} (h : AttentionCore s t)
    (hpending : s.pending = some pending) : (pending.owner, pending.id) ∈ t.view.returned := by
  refine h.sent _ (List.count_pos_iff.mp ?_)
  have hkept := h.kept (pending.owner, pending.id)
  have hpos := mem_notices hpending
  omega

/-- Retiring closes the pending notice, takes it from the ledger and keeps it among the closed
ones, or fails on the way with the invariant still in place. -/
theorem wpS_retire (hinv : AttentionInv s t)
    (hok : ∀ s' t', AttentionInv s' t' → s'.pending = none → t'.view.told = t.view.told →
      Q () s' t')
    (herr : ∀ err s' t', AttentionInv s' t' → E err s' t') :
    wpS attentionContract retire Q E s t := by
  refine Program.wpS_bind.mpr (Program.wpS_get.mpr ?_)
  cases hpending : s.pending with
  | none => exact hok s t hinv hpending rfl
  | some pending =>
    have hcore := hinv.toAttentionCore
    refine Program.wpS_bind.mpr
      (wpS_closeIfOwned (returned_of_pending hcore hpending) (hinv.live pending hpending) ?_ ?_)
    · intro t₁ hclosed
      have hcore₁ := hcore.closed hclosed
      refine Program.wpS_bind.mpr (wpS_setOutstanding hcore₁.ledger none_returned ?_ ?_)
      · intro t₂ hledger hview
        have hcore₂ := hcore₁.outstanding none_returned hledger hview
        -- closed and written: the notice moves from the pending to the closed ones
        refine hok (({ s with pending := none } : Attention).withClosed pending) t₂ ?_ rfl ?_
        · refine AttentionCore.inv_settled ⟨hcore₂.ledger, hcore₂.sent, fun notice => ?_⟩ rfl
            (by rw [hledger])
          exact Nat.le_trans (Nat.add_le_add_left (notices_withClosed hpending notice) _)
            (hcore₂.kept notice)
        · obtain ⟨-, ended, hclosed⟩ := hclosed
          rw [hview.told, hclosed.told]
      · exact fun err t₂ hunwritten => herr err s t₂ (hcore₁.inv_unwritten hunwritten)
    · exact fun err t₁ hrefused => herr err s t₁ (hinv.refused hrefused)

/-- Only a process that has sent nothing finds a notice of another one. -/
theorem wpS_reconcilePreviousHost (hinv : AttentionInv s t)
    (hok : ∀ t', AttentionInv s t' → t'.view.told = t.view.told → Q () s t')
    (herr : ∀ err t', AttentionInv s t' → E err s t') :
    wpS attentionContract reconcilePreviousHost Q E s t := by
  refine Program.wpS_bind.mpr (Program.wpS_get.mpr ?_)
  cases hpending : s.pending with
  | some pending => exact hok t hinv rfl
  -- with nothing pending the ledger says what an earlier run left on the screen
  | none =>
    refine Program.wpS_bind.mpr (wpS_load fun t₁ hsame₁ _ => ?_)
    have hinv₁ := hinv.unchanged hsame₁
    cases houtstanding : t.ledger.outstanding with
    | none => exact hok t₁ hinv₁ hsame₁.view.told
    | some outstanding =>
      rw [← hsame₁.ledger] at houtstanding
      refine Program.wpS_bind.mpr (wpS_owner ?_ ?_)
      · intro current t₂ hsame₂ howner
        have hinv₂ := hinv₁.unchanged hsame₂
        rw [← hsame₂.ledger] at houtstanding
        have hreturned := hinv₂.ledger.outstanding outstanding houtstanding
        have hopen : t₂.view.Open (outstanding.owner, outstanding.id) := by
          intro hwrites hactions hsent
          rcases hinv₂.tidy hwrites hactions with hnone | hsame
          · rw [hnone] at hsent
            cases hsent
          · rw [houtstanding, hpending] at hsame
            cases hsame
        -- closed or not there any more, the ledger entry goes
        have hrest : ∀ t₃, Closed (outstanding.owner, outstanding.id) t₂ t₃ →
            wpS attentionContract (setOutstanding none) Q E s t₃ := by
          intro t₃ hclosed
          have hcore₃ := hinv₂.toAttentionCore.closed hclosed
          refine wpS_setOutstanding hcore₃.ledger none_returned ?_ ?_
          · intro t₄ hledger hview
            refine hok t₄ ?_ ?_
            · exact (hcore₃.outstanding none_returned hledger hview).inv_settled hpending (by rw [hledger])
            · obtain ⟨-, ended, hclosed⟩ := hclosed
              rw [hview.told, hclosed.told, hsame₂.view.told, hsame₁.view.told]
          · exact fun err t₄ hunwritten => herr err t₄ (hcore₃.inv_unwritten hunwritten)
        refine Program.wpS_bind.mpr ?_
        unfold closeFor
        split
        · rename_i hcurrent
          refine wpS_close ?_ hreturned hopen hrest ?_
          · rw [howner, hcurrent]
          · exact fun err t₃ hrefused => herr err t₃ (hinv₂.refused hrefused)
        · exact hrest t₂ ⟨rfl, t₂.view.ended, .refl _⟩
      · exact fun err t₂ hsame₂ => herr err t₂ (hinv₁.unchanged hsame₂)

/-- An accepted notice is one more of this process. -/
theorem core_delivered {owner : String} {id : Nat} {about : List RequirementKey}
    {t' : AttentionWorld} (h : AttentionCore s t) (hpending : s.pending = none)
    (hseen : ∀ key ∈ about, key ∈ t.ledger.seen) (hdelivered : Delivered (owner, id) about t t') :
    AttentionCore { s with pending := some { owner, id, requirements := about } } t' := by
  obtain ⟨hledger, hview⟩ := hdelivered
  refine ⟨⟨?_, ?_⟩, ?_, fun notice => ?_⟩
  · rw [hview.told, hledger]
    intro key hkey
    rcases List.mem_append.mp hkey with hold | hnew
    · exact h.ledger.told key hold
    · exact hseen key hnew
  · rw [hview.returned, hledger]
    exact fun o ho => List.mem_cons_of_mem _ (h.ledger.outstanding o ho)
  · rw [hview.sent, hview.returned]
    intro notice hnotice
    rcases List.mem_cons.mp hnotice with rfl | hold
    · exact List.mem_cons_self
    · exact List.mem_cons_of_mem _ (h.sent notice hold)
  · rw [hview.opened, hview.sent]
    have hkept := h.kept notice
    simp only [notices, hpending, Option.toList_none, Option.toList_some, List.nil_append,
      List.cons_append, List.map_cons, List.count_cons] at hkept ⊢
    omega

/-- It is open, whatever was closed before under its number. -/
theorem live_delivered {owner : String} {id : Nat} {about : List RequirementKey}
    {t' : AttentionWorld} (hdelivered : Delivered (owner, id) about t t') :
    t'.view.Open (owner, id) := by
  intro _ _ _ hended
  rw [hdelivered.view.ended] at hended
  have hne := (List.mem_filter.mp hended).2
  simp at hne

/-- A notice just delivered becomes the pending one; if the window has opened meanwhile, it is
retired at once. -/
theorem wpS_rememberNotified {owner : String} {id : Nat} {about : List RequirementKey}
    {t' : AttentionWorld} (h : AttentionCore s t) (hpending : s.pending = none)
    (hseen : ∀ key ∈ about, key ∈ t.ledger.seen) (hdelivered : Delivered (owner, id) about t t') :
    wpS attentionContract (rememberNotified owner id about) (fun _ => AttentionInv)
      (fun _ => AttentionInv) s t' := by
  have hcore := core_delivered h hpending hseen hdelivered
  refine Program.wpS_bind.mpr (Program.wpS_modify.mpr ?_)
  refine Program.wpS_bind.mpr (Program.wpS_lift.mpr (wpS_setOutstanding hcore.ledger ?_ ?_ ?_))
  · intro o ho
    cases ho
    rw [hdelivered.view.returned]
    exact List.mem_cons_self
  · intro t₁ hledger hview
    have hinv : AttentionInv { s with pending := some { owner, id, requirements := about } } t₁ := by
      refine ⟨hcore.outstanding ?_ hledger hview, fun p hp => ?_, fun _ _ => Or.inr ?_⟩
      · intro o ho
        cases ho
        rw [hdelivered.view.returned]
        exact List.mem_cons_self
      · cases hp
        exact hview.open (live_delivered hdelivered)
      · rw [hledger]
        rfl
    refine Program.wpS_bind.mpr (wpS_guiOpen ?_ ?_)
    · intro opened t₂ hsame
      have hinv₂ := hinv.unchanged hsame
      cases opened with
      | false => exact hinv₂
      | true => exact wpS_retire hinv₂ (fun _ _ h _ _ => h) fun _ _ _ h => h
    · exact fun err t₂ hsame => hinv.unchanged hsame
  -- the ledger could not be written: the notice is taken back
  · intro err t₁ hunwritten
    have hinv := hcore.inv_unwritten hunwritten
    refine Program.wpS_bind.mpr (wpS_retire hinv ?_ fun _ _ _ h => h)
    exact fun _ _ h _ _ => h

/-- **Nobody is told twice**: what is told now was recorded, and was not told before. -/
theorem wpS_deliver {requirements unseen : List RequirementKey} (hinv : AttentionInv s t)
    (hsub : ∀ key ∈ unseen, key ∈ requirements) (hfresh : ∀ key ∈ unseen, key ∉ t.view.told) :
    wpS attentionContract (deliver requirements unseen) (fun _ => AttentionInv)
      (fun _ => AttentionInv) s t := by
  refine Program.wpS_bind.mpr (wpS_owner ?_ fun _ _ hsame => hinv.unchanged hsame)
  intro owner t₁ hsame₁ _
  have hinv₁ := hinv.unchanged hsame₁
  refine Program.wpS_bind.mpr (wpS_actionsSupported ?_ fun _ _ hsame => hinv₁.unchanged hsame)
  intro supported t₂ hsame₂
  have hinv₂ := hinv₁.unchanged hsame₂
  refine Program.wpS_bind.mpr (wpS_retire hinv₂ ?_ fun _ _ _ h => h)
  intro s₃ t₃ hinv₃ hpending htold₃
  have hstill : ∀ key ∈ unseen, key ∉ t₃.view.told := by
    rw [htold₃, hsame₂.view.told, hsame₁.view.told]
    exact hfresh
  refine Program.wpS_bind.mpr (wpS_record hinv₃.ledger ?_ ?_)
  · intro t₄ houtstanding hgrow hseen hview
    have hinv₄ := hinv₃.recorded houtstanding hgrow hview
    cases supported with
    | false => exact hinv₄
    | true =>
      have hunseen : ∀ key ∈ unseen, key ∈ t₄.ledger.seen := fun key hkey =>
        hseen key (hsub key hkey)
      refine Program.wpS_bind.mpr (wpS_notify ?_ hunseen ?_ ?_)
      · rw [hview.told]
        exact hstill
      · exact fun id t₅ hdelivered =>
          wpS_rememberNotified hinv₄.toAttentionCore hpending hunseen hdelivered
      · exact fun err t₅ hsame => hinv₄.unchanged hsame
  · exact fun err t₄ hunwritten => hinv₃.toAttentionCore.inv_unwritten hunwritten

/-- What the window shows is recorded as seen, and the notice retired. -/
theorem wpS_suppress {requirements : List RequirementKey} (hinv : AttentionInv s t) :
    wpS attentionContract (suppress requirements) (fun _ => AttentionInv)
      (fun _ => AttentionInv) s t := by
  refine Program.wpS_bind.mpr (wpS_record hinv.ledger ?_ ?_)
  · intro t₁ houtstanding hgrow _ hview
    exact wpS_retire (hinv.recorded houtstanding hgrow hview) (fun _ _ h _ _ => h) fun _ _ _ h => h
  · exact fun err t₁ hunwritten => hinv.toAttentionCore.inv_unwritten hunwritten

/-- A notice whose requirements no longer stand is retired before anything else. -/
theorem wpS_retireOutdated {requirements : List RequirementKey} (hinv : AttentionInv s t)
    (hok : ∀ s' t', AttentionInv s' t' → Q () s' t')
    (herr : ∀ err s' t', AttentionInv s' t' → E err s' t') :
    wpS attentionContract (retireOutdated requirements) Q E s t := by
  refine Program.wpS_bind.mpr (Program.wpS_get.mpr ?_)
  split
  · exact wpS_retire hinv (fun s' t' h _ _ => hok s' t' h) herr
  · exact hok s t hinv

/-- Only requirements that the ledger has not seen are told, and only while the window is closed.
-/
theorem wpS_attend {requirements : List RequirementKey} (hinv : AttentionInv s t) :
    wpS attentionContract (attend requirements) (fun _ => AttentionInv)
      (fun _ => AttentionInv) s t := by
  refine Program.wpS_bind.mpr (wpS_retireOutdated hinv ?_ fun _ _ _ h => h)
  intro s₁ t₁ hinv₁
  split
  · exact hinv₁
  refine Program.wpS_bind.mpr (wpS_load fun t₂ hsame₂ _ => ?_)
  have hinv₂ := hinv₁.unchanged hsame₂
  -- what the ledger does not know of was not told
  have hfresh : ∀ key ∈ requirements.filter (· ∉ t₁.ledger.seen), key ∉ t₂.view.told := by
    intro key hkey htold
    have hunseen := (List.mem_filter.mp hkey).2
    rw [hsame₂.view.told] at htold
    simp [hinv₁.ledger.told key htold] at hunseen
  refine Program.wpS_bind.mpr (Program.wpS_get.mpr ?_)
  split
  · exact hinv₂
  refine Program.wpS_bind.mpr (wpS_guiOpen ?_ fun _ _ hsame => hinv₂.unchanged hsame)
  intro opened t₃ hsame₃
  have hinv₃ := hinv₂.unchanged hsame₃
  cases opened with
  | true => exact wpS_suppress hinv₃
  | false =>
    rw [if_neg Bool.false_ne_true]
    split
    · exact hinv₃
    · refine wpS_deliver hinv₃ (fun key hkey => (List.mem_filter.mp hkey).1) ?_
      rw [hsame₃.view.told]
      exact hfresh

/-- **Observation.** A snapshot of this instance that is not older keeps the invariant, whatever
is answered. -/
theorem wpS_observe {snapshot : SetupSnapshot} (hinv : AttentionInv s t) :
    wpS attentionContract (observe snapshot) (fun _ => AttentionInv)
      (fun _ => AttentionInv) s t := by
  refine Program.wpS_bind.mpr (Program.wpS_get.mpr ?_)
  split
  · exact hinv
  refine Program.wpS_bind.mpr (Program.wpS_modify.mpr ?_)
  have hnext : AttentionInv { s with revision := snapshot.revision } t :=
    ⟨⟨hinv.ledger, hinv.sent, hinv.kept⟩, hinv.live, hinv.tidy⟩
  refine Program.wpS_bind.mpr (wpS_reconcilePreviousHost hnext ?_ fun _ _ h => h)
  intro t₁ hinv₁ _
  split
  · exact hinv₁
  · exact wpS_attend hinv₁

/-! ### Signals -/

/-- An activation token changes which notices are kept in nothing but the token. -/
theorem giveToken_notices (owner : String) (id : Nat) (token : String) (closed : List PendingNotice) :
    (giveToken owner id token closed).map (fun p => (p.owner, p.id))
      = closed.map fun p => (p.owner, p.id) := by
  induction closed with
  | nil => rfl
  | cons pending rest ih =>
    rw [giveToken]
    split
    · rfl
    · rw [List.map_cons, List.map_cons, ih]

/-- The token of a notice is not what it is known by. -/
theorem wpS_activationToken {owner : String} {id : Nat} {token : String} (hinv : AttentionInv s t) :
    wpS attentionContract (activationToken owner id token) (fun _ => AttentionInv)
      (fun _ => AttentionInv) s t := by
  refine Program.wpS_modify.mpr ?_
  have hclosed : AttentionInv
      { s with recentlyClosed := giveToken owner id token s.recentlyClosed } t := by
    refine ⟨⟨hinv.ledger, hinv.sent, ?_⟩, hinv.live, hinv.tidy⟩
    simp only [notices, List.map_append, giveToken_notices]
    simpa only [notices, List.map_append] using hinv.kept
  split
  · rename_i pending hpending
    split
    · refine ⟨⟨hinv.ledger, hinv.sent, ?_⟩, ?_, ?_⟩
      · have hkept := hinv.kept
        simp only [notices, hpending] at hkept
        exact hkept
      · intro p hp
        cases hp
        exact hinv.live pending hpending
      · have htidy := hinv.tidy
        unfold Tidy at htidy
        rw [hpending] at htidy
        exact htidy
    · exact hclosed
  · exact hclosed

/-- A notice that matches has that owner and id. -/
theorem PendingNotice.of_matches {owner : String} {id : Nat} {pending : PendingNotice}
    (h : PendingNotice.matches owner id pending = true) :
    (pending.owner, pending.id) = (owner, id) := by
  simp only [PendingNotice.matches, Bool.and_eq_true, decide_eq_true_eq] at h
  rw [h.1, h.2]

/-- A closed signal for the pending notice moves it to the closed ones; for any other it does
nothing. -/
theorem wpS_closed {owner : String} {id : Nat} (hcore : AttentionCore s t)
    (hlive : ∀ p ∈ s.pending, (p.owner, p.id) ≠ (owner, id) → t.view.Open (p.owner, p.id))
    (htidy : Tidy s t) :
    wpS attentionContract (closed owner id) (fun _ => AttentionInv)
      (fun _ => AttentionInv) s t := by
  refine Program.wpS_bind.mpr (Program.wpS_get.mpr ?_)
  cases hpending : s.pending with
  | none =>
    refine ⟨hcore, fun p hp => ?_, htidy⟩
    rw [hpending] at hp
    cases hp
  | some pending =>
    show wpS _ (if _ then _ else _) _ _ s t
    split
    · have hnext : AttentionCore (({ s with pending := none } : Attention).withClosed pending) t :=
        ⟨hcore.ledger, hcore.sent, fun notice =>
          Nat.le_trans (Nat.add_le_add_left (notices_withClosed hpending notice) _)
            (hcore.kept notice)⟩
      refine Program.wpS_bind.mpr (Program.wpS_modify.mpr ?_)
      refine Program.wpS_bind.mpr (Program.wpS_modify.mpr ?_)
      refine wpS_setOutstanding hnext.ledger none_returned ?_ ?_
      · intro t₁ hledger hview
        exact (hnext.outstanding none_returned hledger hview).inv_settled rfl (by rw [hledger])
      · exact fun err t₁ hunwritten => hnext.inv_unwritten hunwritten
    -- another notice was closed, so the pending one is still open
    · rename_i hother
      refine ⟨hcore, fun p hp => ?_, htidy⟩
      refine hlive p hp fun hsame => hother ?_
      rw [hpending] at hp
      cases hp
      obtain ⟨rfl, rfl⟩ := Prod.mk.inj hsame
      simp [PendingNotice.matches]

/-- The GUI was opened for the signal that is handled. -/
structure Opened (notice : NoticeId) (t t' : AttentionWorld) : Prop where
  ledger : t'.ledger = t.ledger
  view : AttentionView.Same { t.view with opened := notice :: t.view.opened } t'.view

/-- The signal asks for the GUI. -/
def Requests (notice : NoticeId) (t : AttentionWorld) : Prop :=
  ∃ key, t.view.signal = some (notice.1, .actionInvoked notice.2 key)
    ∧ (key = defaultAction ∨ key = completeSetupAction)

/-- The window is opened only for a notice that was sent more often than it was opened. -/
theorem wpS_openGui {token : Option String} {notice : NoticeId}
    {Q : Except String Unit → Attention → AttentionWorld → Prop} (hrequests : Requests notice t)
    (hcount : t.view.opened.count notice < t.view.sent.count notice)
    (h : ∀ r t', Opened notice t t' → Q r s t') :
    wpS attentionContract (call (.openGui token)) Q E s t := by
  obtain ⟨key, hsignal, hkey⟩ := hrequests
  refine wpS_call ⟨notice.1, notice.2, key, hsignal, hkey, hcount⟩ trivial fun r _ => ?_
  refine h r _ ⟨rfl, ?_⟩
  rw [view_answered]
  refine ⟨rfl, rfl, rfl, ?_, rfl, rfl, rfl, rfl⟩
  show (t.view.signal.map _).toList ++ _ = _
  rw [hsignal]
  rfl

/-- A notice that the process gives up is one that it may open the GUI for. -/
theorem core_opened {s' : Attention} {notice : NoticeId} {t' : AttentionWorld}
    (h : AttentionCore s t) (hopened : Opened notice t t')
    (hgiven : ∀ other, s'.notices.count other + [notice].count other ≤ s.notices.count other) :
    AttentionCore s' t' := by
  obtain ⟨hledger, hview⟩ := hopened
  refine ⟨h.ledger.carry hledger hview rfl rfl, ?_, fun other => ?_⟩
  · rw [hview.sent, hview.returned]
    exact h.sent
  · rw [hview.opened, hview.sent]
    have hkept := h.kept other
    have hless := hgiven other
    simp only [List.count_cons, List.count_nil] at hless ⊢
    omega

/-- A notice that the process gives up was not yet opened for. -/
theorem opened_lt_sent {s' : Attention} {notice : NoticeId} (h : AttentionCore s t)
    (hgiven : ∀ other, s'.notices.count other + [notice].count other ≤ s.notices.count other) :
    t.view.opened.count notice < t.view.sent.count notice := by
  have hkept := h.kept notice
  have hless := hgiven notice
  rw [List.count_singleton_self] at hless
  omega

/-- Opening the window ends no notice. -/
theorem Opened.open {notice other : NoticeId} {t' : AttentionWorld} (h : Opened notice t t')
    (hopen : t.view.Open other) : t'.view.Open other := by
  unfold AttentionView.Open
  rw [h.view.writesSucceed, h.view.actionClosesSucceed, h.view.sent, h.view.ended]
  exact hopen

/-- Erasing a found notice takes one of its copies away. -/
theorem eraseFirst_notices {owner : String} {id : Nat} {closed : List PendingNotice}
    {pending : PendingNotice}
    (h : closed.find? (PendingNotice.matches owner id) = some pending) (other : NoticeId) :
    ((eraseFirst owner id closed).map fun p => (p.owner, p.id)).count other
      + [(owner, id)].count other = (closed.map fun p => (p.owner, p.id)).count other := by
  induction closed with
  | nil => cases h
  | cons first rest ih =>
    rw [eraseFirst]
    -- the found one is the first that matches
    by_cases hfirst : PendingNotice.matches owner id first = true
    · rw [if_pos hfirst, List.map_cons, PendingNotice.of_matches hfirst]
      simp only [List.count_cons, List.count_nil]
      omega
    · rw [List.find?_cons_of_neg hfirst] at h
      have hrest := ih h
      rw [if_neg hfirst]
      simp only [List.map_cons, List.count_cons, List.count_nil] at hrest ⊢
      omega

/-- A notice that is over is not closed again; only the GUI is opened. -/
theorem wpS_invokeRetired {owner : String} {id : Nat} (hinv : AttentionInv s t)
    (hrequests : Requests (owner, id) t) :
    wpS attentionContract (invokeRetired owner id) (fun _ => AttentionInv)
      (fun _ => AttentionInv) s t := by
  refine Program.wpS_bind.mpr (Program.wpS_get.mpr ?_)
  cases hfind : s.recentlyClosed.find? (PendingNotice.matches owner id) with
  | none => exact hinv
  | some pending =>
    refine Program.wpS_bind.mpr (Program.wpS_modify.mpr ?_)
    let s' : Attention := { s with recentlyClosed := eraseFirst owner id s.recentlyClosed }
    have hgiven : ∀ other, s'.notices.count other + [(owner, id)].count other
        ≤ s.notices.count other := by
      intro other
      have hrest := eraseFirst_notices hfind other
      simp only [s', notices, List.map_append, List.count_append]
      omega
    refine Program.wpS_bind.mpr
      (wpS_openGui hrequests (opened_lt_sent hinv.toAttentionCore hgiven) fun r t₁ hopened => ?_)
    have hinv₁ : AttentionInv s' t₁ := by
      refine ⟨core_opened hinv.toAttentionCore hopened hgiven, fun p hp => ?_, ?_⟩
      · exact hopened.open (hinv.live p hp)
      · unfold Tidy
        rw [hopened.view.writesSucceed, hopened.view.actionClosesSucceed, hopened.view.sent,
          hopened.ledger]
        exact hinv.tidy
    refine Program.wpS_bind.mpr (Program.wpS_lift.mpr ?_)
    refine Program.wpS_bind.mpr (wpS_orFail (fun _ _ => ?_) fun _ _ => hinv₁)
    exact wpS_orFail (fun _ _ => hinv₁) fun _ _ => hinv₁

/-- **The pending notice is acted on.** It is forgotten at once, so that what goes wrong with its
closing is not made good later. -/
theorem wpS_launchPending {owner : String} {id : Nat} {pending : PendingNotice}
    (hinv : AttentionInv s t) (hpending : s.pending = some pending)
    (hmatches : (pending.owner, pending.id) = (owner, id)) (hrequests : Requests (owner, id) t) :
    wpS attentionContract (launch pending true) (fun _ => AttentionInv)
      (fun _ => AttentionInv) { s with pending := none } t := by
  have hgiven : ∀ other, ({ s with pending := none } : Attention).notices.count other
      + [(owner, id)].count other ≤ s.notices.count other := by
    intro other
    simp only [notices, hpending, Option.toList_none, Option.toList_some, List.nil_append,
      List.cons_append, List.map_cons, hmatches, List.count_cons, List.count_nil]
    omega
  have hreturned := returned_of_pending hinv.toAttentionCore hpending
  refine Program.wpS_bind.mpr
    (wpS_openGui hrequests (opened_lt_sent hinv.toAttentionCore hgiven) fun launched t₁ hopened => ?_)
  have hcore₁ := core_opened hinv.toAttentionCore hopened hgiven
  have hsignal : t₁.view.signal.isNone = false := by
    obtain ⟨key, hsignal, -⟩ := hrequests
    rw [hopened.view.signal, hsignal]
    rfl
  -- both results are only reported
  have hreport : ∀ (retired : Except String Unit) t', AttentionInv { s with pending := none } t' →
      wpS attentionContract (do orFail launched; orFail retired) (fun _ => AttentionInv)
        (fun _ => AttentionInv) { s with pending := none } t' := by
    intro retired t' h
    refine Program.wpS_bind.mpr (wpS_orFail (fun _ _ => ?_) fun _ _ => h)
    exact wpS_orFail (fun _ _ => h) fun _ _ => h
  refine Program.wpS_bind.mpr (Program.wpS_lift.mpr ?_)
  refine Program.wpS_bind.mpr (wpS_closeIfOwned ?_ (hopened.open (hinv.live pending hpending)) ?_ ?_)
  · rw [hopened.view.returned]
    exact hreturned
  · intro t₂ hclosed
    have hcore₂ := hcore₁.closed hclosed
    refine wpS_setOutstanding hcore₂.ledger none_returned ?_ ?_
    · intro t₃ hledger hview
      refine hreport _ t₃ ?_
      exact (hcore₂.outstanding none_returned hledger hview).inv_settled rfl (by rw [hledger])
    · exact fun err t₃ hunwritten => hreport _ t₃ (hcore₂.inv_unwritten hunwritten)
  · intro err t₂ hrefused
    refine hreport _ t₂ ⟨hcore₁.refused hrefused, nofun, fun _ hactions => ?_⟩
    rw [hrefused.view.actionClosesSucceed, hsignal, Bool.and_false] at hactions
    cases hactions

/-- **Action.** Only the default action and the button of the notice open the window, once for
each notice sent. -/
theorem wpS_actionInvoked {owner actionKey : String} {id : Nat} (hinv : AttentionInv s t)
    (hsignal : t.view.signal = some (owner, .actionInvoked id actionKey)) :
    wpS attentionContract (actionInvoked owner id actionKey) (fun _ => AttentionInv)
      (fun _ => AttentionInv) s t := by
  unfold actionInvoked
  split
  · exact hinv
  rename_i hkey
  have hrequests : Requests (owner, id) t := by
    refine ⟨actionKey, hsignal, ?_⟩
    simp only [Bool.and_eq_true, decide_eq_true_eq, not_and_or, ne_eq, not_not] at hkey
    exact hkey.symm
  refine Program.wpS_bind.mpr (Program.wpS_get.mpr ?_)
  cases hfilter : s.pending.filter (PendingNotice.matches owner id) with
  | none => exact wpS_invokeRetired hinv hrequests
  | some pending =>
    obtain ⟨hpending, hmatches⟩ := Option.filter_eq_some_iff.mp hfilter
    refine Program.wpS_bind.mpr (Program.wpS_modify.mpr ?_)
    exact wpS_launchPending hinv hpending (PendingNotice.of_matches hmatches) hrequests

end Attention

/-! ## Histories -/

section

variable {attention : Attention} {world : AttentionWorld}

/-- What is noted before an operation, when nothing is closed by it. -/
theorem AttentionInv.note (h : AttentionInv attention world) {x : AttentionRecord}
    (htold : (world.view.note x).told = world.view.told)
    (hreturned : (world.view.note x).returned = world.view.returned)
    (hsent : (world.view.note x).sent = world.view.sent)
    (hopened : (world.view.note x).opened = world.view.opened)
    (hended : (world.view.note x).ended = world.view.ended)
    (hwrites : (world.view.note x).writesSucceed = world.view.writesSucceed)
    (hactions : (world.view.note x).actionClosesSucceed = world.view.actionClosesSucceed) :
    AttentionInv attention (world.note x) := by
  have hview : AttentionView.Same
      { world.view with signal := (world.view.note x).signal } (world.note x).view := by
    rw [view_note]
    exact ⟨htold, hreturned, hsent, hopened, hended, rfl, hwrites, hactions⟩
  refine ⟨h.toAttentionCore.carry (h.ledger.carry rfl hview rfl rfl) hview rfl rfl rfl,
    fun p hp => ?_, ?_⟩
  · unfold AttentionView.Open
    rw [hview.writesSucceed, hview.actionClosesSucceed, hview.sent, hview.ended]
    exact h.live p hp
  · unfold Tidy
    rw [hview.writesSucceed, hview.actionClosesSucceed, hview.sent]
    exact h.tidy

/-- A process starts with what is in the ledger, and has sent nothing. -/
theorem LedgerInv.started (h : LedgerInv world) (instanceName : String) :
    AttentionInv (.new instanceName) (world.note .started) := by
  have hview := view_note world .started
  refine ⟨⟨⟨?_, ?_⟩, ?_, ?_⟩, nofun, fun _ _ => Or.inl ?_⟩
  · rw [hview]
    exact h.told
  · rw [hview]
    exact h.outstanding
  · rw [hview]
    nofun
  · rw [hview]
    exact fun notice => Nat.le_refl _
  · rw [hview]
    rfl

/-- A notice that was closed may be the pending one. -/
theorem wpS_signal_closed {owner : String} {id : Nat} (h : AttentionInv attention world) :
    Program.wpS attentionContract (Attention.closed owner id) (fun _ => AttentionInv)
      (fun _ => AttentionInv) attention (world.note (.received owner (.closed id))) := by
  have hview := view_note world (.received owner (.closed id))
  refine Attention.wpS_closed ⟨⟨?_, ?_⟩, ?_, ?_⟩ ?_ ?_
  · rw [hview]
    exact h.ledger.told
  · rw [hview]
    exact h.ledger.outstanding
  · rw [hview]
    exact h.sent
  · rw [hview]
    exact h.kept
  · intro p hp hother hwrites hactions hsent hended
    rw [hview] at hwrites hactions hsent hended
    rcases List.mem_cons.mp hended with hsame | hold
    · exact hother hsame
    · exact h.live p hp hwrites hactions hsent hold
  · unfold Tidy
    rw [hview]
    exact h.tidy

/-- **Signal.** Each of the three signals keeps the invariant. -/
theorem wpS_signal {owner : String} {signal : NotificationSignal}
    (h : AttentionInv attention world) :
    Program.wpS attentionContract (Attention.signal owner signal) (fun _ => AttentionInv)
      (fun _ => AttentionInv) attention (world.note (.received owner signal)) := by
  cases signal with
  | activationToken id token =>
    exact Attention.wpS_activationToken (h.note rfl rfl rfl rfl rfl rfl rfl)
  | actionInvoked id actionKey =>
    refine Attention.wpS_actionInvoked (h.note rfl rfl rfl rfl rfl rfl rfl) ?_
    rw [view_note]
    rfl
  | closed id => exact wpS_signal_closed h

end

/-- Every call was in order when it was made. -/
def AttentionLawful (log : List AttentionRecord) : Prop :=
  ∀ before e r after, log = before ++ .called e r :: after → Permits (view before) e

/-- A log is lawful with one more record if the calls in that record are permitted there. -/
theorem AttentionLawful.concat {log : List AttentionRecord} (h : AttentionLawful log) {x : AttentionRecord}
    (hx : ∀ e r, x = .called e r → Permits (view log) e) : AttentionLawful (log ++ [x]) := by
  intro before e r after hsplit
  -- the call is the new record itself or stands before it
  rcases List.eq_nil_or_concat after with rfl | ⟨rest, last, rfl⟩
  · obtain ⟨rfl, hlast⟩ := List.append_inj' hsplit rfl
    exact hx e r (List.cons.inj hlast).1
  · rw [List.concat_eq_append, ← List.cons_append, ← List.append_assoc] at hsplit
    obtain ⟨hinit, -⟩ := List.append_inj' hsplit rfl
    exact h before e r rest hinit

/-- What holds wherever a process is killed. -/
structure WorldInv (world : AttentionWorld) : Prop where
  lawful : AttentionLawful world.log
  ledger : LedgerInv world

/-- A record that is no call keeps the world's invariant. -/
theorem WorldInv.note {world : AttentionWorld} (h : WorldInv world) {x : AttentionRecord}
    (hx : ∀ e r, x ≠ .called e r) (htold : (world.view.note x).told = world.view.told)
    (hreturned : (world.view.note x).returned = world.view.returned) :
    WorldInv (world.note x) := by
  refine ⟨h.lawful.concat fun e r hcalled => absurd hcalled (hx e r), ?_, ?_⟩
  · rw [view_note, htold]
    exact h.ledger.told
  · rw [view_note, hreturned]
    exact h.ledger.outstanding

/-- Every call that is in order keeps the ledger good. -/
theorem LedgerInv.answered {world : AttentionWorld} (h : LedgerInv world) (e : AttentionCall)
    (r : e.Answer) (hkeeps : LedgerKeeps world e) : LedgerInv (world.answered e r) := by
  have hview := view_answered world e r
  -- only `notify` and `save` touch what the ledger is good for
  refine ⟨?_, ?_⟩
  · rw [hview]
    cases e with
    | save next =>
      cases r with
      | ok a => exact hkeeps.1
      | error err => exact h.told
    | notify owner notification about =>
      cases r with
      | ok id =>
        intro key hkey
        rcases List.mem_append.mp hkey with hold | hnew
        · exact h.told key hold
        · exact hkeeps key hnew
      | error err => exact h.told
    | owner => cases r <;> exact h.told
    | close owner id => cases r <;> exact h.told
    | guiOpen => exact h.told
    | actionsSupported owner => exact h.told
    | openGui token => exact h.told
    | load => exact h.told
  · rw [hview]
    cases e with
    | save next =>
      cases r with
      | ok a => exact hkeeps.2
      | error err => exact h.outstanding
    | notify owner notification about =>
      cases r with
      | ok id => exact fun o ho => List.mem_cons_of_mem _ (h.outstanding o ho)
      | error err => exact h.outstanding
    | owner => cases r <;> exact h.outstanding
    | close owner id => cases r <;> exact h.outstanding
    | guiOpen => exact h.outstanding
    | actionsSupported owner => exact h.outstanding
    | openGui token => exact h.outstanding
    | load => exact h.outstanding

/-- A permitted call keeps it, and its answer is a possible one. -/
theorem WorldInv.handle {answers : Nat → AttentionAnswers} {world : AttentionWorld}
    (h : WorldInv world) (e : AttentionCall) (hpermits : attentionContract.permits world e) :
    WorldInv (world.handle answers e).2
      ∧ attentionContract.next world e (world.handle answers e).1
        (world.handle answers e).2 := by
  obtain ⟨hpermits, hkeeps⟩ := hpermits
  refine ⟨⟨?_, h.ledger.answered e _ hkeeps⟩, ?_, rfl⟩
  · refine h.lawful.concat fun e' r hcalled => ?_
    cases hcalled
    exact hpermits
  · cases e with
    | load => rfl
    | _ => trivial

/-- The invariant of the whole system. -/
structure SystemInv (system : AttentionSystem) : Prop where
  world : WorldInv system.world
  process : ∀ attention ∈ system.process, AttentionInv attention system.world

/-- **One operation**, carried out or cut off. -/
theorem SystemInv.run {answers : Nat → AttentionAnswers} {attention : Attention}
    {world : AttentionWorld} {calls : Nat} {operation : AttentionM Unit} (hworld : WorldInv world)
    (h : Program.wpS attentionContract operation (fun _ => AttentionInv) (fun _ => AttentionInv)
      attention world) :
    SystemInv (.run answers attention world calls operation) := by
  have hhandle : ∀ (s : AttentionWorld) (e : AttentionCall), WorldInv s →
      attentionContract.permits s e → WorldInv (s.handle answers e).2
        ∧ attentionContract.next s e (s.handle answers e).1 (s.handle answers e).2 :=
    fun s e hs hpermits => hs.handle e hpermits
  obtain ⟨hgood, hdone⟩ := Program.wp.execUpTo id hhandle calls hworld h
  refine ⟨hgood, fun attention' hattention => ?_⟩
  obtain ⟨a, ha, rfl⟩ := Option.map_eq_some_iff.mp hattention
  obtain ⟨result, attention'⟩ := a
  exact Program.post_const.mp (hdone (result, attention') ha)

/-- **Step.** A start, an observation or a signal keeps the invariant of the whole system. -/
theorem SystemInv.step {answers : Nat → AttentionAnswers} {system : AttentionSystem}
    (h : SystemInv system) (step : AttentionStep) :
    SystemInv (attentionStep answers system step) := by
  cases step with
  | start instanceName =>
    refine ⟨h.world.note nofun rfl rfl, fun attention hattention => ?_⟩
    -- a new process has nothing pending, and the ledger is the old one
    cases hattention
    exact h.world.ledger.started instanceName
  | observe snapshot calls =>
    rw [attentionStep]
    cases hprocess : system.process with
    | none => exact h
    | some attention =>
      refine SystemInv.run (h.world.note nofun rfl rfl) (Attention.wpS_observe ?_)
      exact (h.process attention hprocess).note rfl rfl rfl rfl rfl rfl rfl
  | signal owner signal calls =>
    rw [attentionStep]
    cases hprocess : system.process with
    | none => exact h
    | some attention =>
      refine SystemInv.run (h.world.note nofun ?_ ?_) (wpS_signal (h.process attention hprocess))
      · rfl
      · rfl

/-- **Run.** The invariant of the system holds after any steps. -/
theorem SystemInv.attentionRun (answers : Nat → AttentionAnswers) (steps : List AttentionStep) :
    SystemInv (attentionRun answers steps) := by
  have hfrom : ∀ system, SystemInv system →
      SystemInv (steps.foldl (attentionStep answers) system) := by
    induction steps with
    | nil => exact fun _ h => h
    | cons step steps ih => exact fun system h => ih _ (h.step step)
  refine hfrom _ ⟨⟨?_, ?_, ?_⟩, nofun⟩
  · intro before e r after hsplit
    simp at hsplit
  · nofun
  · nofun

/-- The snapshot is of another instance, or is older than one that was observed. -/
def Attention.Ignores (attention : Attention) (snapshot : SetupSnapshot) : Prop :=
  snapshot.instanceName ≠ attention.instanceName ∨ snapshot.revision < attention.revision

/-- A snapshot of another instance or of an older revision is dropped. -/
theorem Attention.observe_ignored {attention : Attention} {snapshot : SetupSnapshot}
    (h : attention.Ignores snapshot) :
    (Attention.observe snapshot).run.run attention = .done (.ok (), attention) := by
  have hignored : (snapshot.instanceName ≠ attention.instanceName
      || snapshot.revision < attention.revision) = true := by
    simpa [Attention.Ignores] using h
  show (ExceptT.run (if _ then pure () else _ : AttentionM Unit)).run attention = _
  rw [if_pos hignored]
  rfl

/-- **Setup attention is raised at most once.** In every history every call is in order, and a
snapshot that is ignored has no effect. -/
theorem attention_law (answers : Nat → AttentionAnswers) (steps : List AttentionStep) :
    AttentionLawful (attentionRun answers steps).world.log
      ∧ ∀ attention ∈ (attentionRun answers steps).process, ∀ snapshot calls,
        attention.Ignores snapshot →
        attentionRun answers (steps ++ [.observe snapshot calls])
          = ⟨some attention, (attentionRun answers steps).world.note (.observed snapshot)⟩ := by
  refine ⟨(SystemInv.attentionRun answers steps).world.lawful, ?_⟩
  intro attention hattention snapshot calls hignores
  have hprocess : (attentionRun answers steps).process = some attention := hattention
  have hlast : attentionRun answers (steps ++ [.observe snapshot calls])
      = attentionStep answers (attentionRun answers steps) (.observe snapshot calls) := by
    simp [attentionRun]
  rw [hlast, attentionStep, hprocess]
  simp only [AttentionSystem.run, Attention.observe_ignored hignores, Program.execUpTo]
  rfl

/-! ### A notice that could not be closed -/

/-- The server has actions, and does not close. -/
def refusingAnswers : AttentionAnswers where
  guiOpen := .ok false
  owner := .ok ":1.7"
  actionsSupported := .ok true
  notify := .ok 4
  close := .error "refused"
  openGui := .ok ()
  save := .ok ()

def brokenSnapshot (revision : Nat) : SetupSnapshot where
  instanceName := "main"
  revision := revision
  config := "config.env"
  status := .incomplete
  requirements := [⟨"pairing", "Pair the TV", true, false, {}⟩]

/-- The notice is acted on, and then closed by the user. -/
def refusedClosing : List AttentionStep :=
  [.start "main", .observe (brokenSnapshot 1) 20,
    .signal ":1.7" (.actionInvoked 4 defaultAction) 20, .signal ":1.7" (.closed 4) 20,
    .observe (brokenSnapshot 2) 20]

/-- **It is closed again**, although the ledger was always written. -/
theorem closed_twice : ∃ before r after,
    (attentionRun (fun _ => refusingAnswers) refusedClosing).world.log
      = before ++ .called (.close ":1.7" 4) r :: after
    ∧ (view before).writesSucceed = true ∧ (":1.7", 4) ∈ (view before).sent
    ∧ (":1.7", 4) ∈ (view before).ended := by
  have hlast : (attentionRun (fun _ => refusingAnswers) refusedClosing).world.log.drop 21
      = [.called (.close ":1.7" 4) (.error "refused")] := by decide +kernel
  refine ⟨(attentionRun (fun _ => refusingAnswers) refusedClosing).world.log.take 21,
    .error "refused", [], ?_, ?_, ?_, ?_⟩
  · rw [← hlast, List.take_append_drop]
  · decide +kernel
  · decide +kernel
  · decide +kernel

end LgBuddy
