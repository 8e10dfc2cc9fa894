import LgBuddy.Machine.Mealy
import LgBuddy.Machine.Program
import LgBuddy.WebOs.Client
import Std.Data.String.ToNat

/-!
# LgBuddy — replies and the requests they belong to

Over the whole life of a connection: which frame a request's result is built from.

* `Conn.Post` — what holds after a piece of a request, by its result;
* `Segments` — the receives of a connection, one after another;
* `RequestLaw` — what one request does to the connection, whichever kind it is;
* `connectionStep` — requests one after another on one connection;
* `response_correlation` — ids, replies and frames over every sequence of requests.
-/

namespace LgBuddy

/-! ## What holds after a piece of a request -/

open Program (post)

/-- `Q` after a result, `H` after a halt. -/
def Conn.Post {E α : Type} (p : Conn E α) (Q : α → WebOsClient → Prop)
    (H : Halt E → WebOsClient → Prop) (client : WebOsClient) : Prop :=
  post Q H (p.run.run client).1 (p.run.run client).2

namespace Conn

variable {E E' α β : Type} {client : WebOsClient}

/-- Postconditions can be weakened. -/
theorem Post.mono {p : Conn E α} {Q Q' : α → WebOsClient → Prop}
    {H H' : Halt E → WebOsClient → Prop} (h : p.Post Q H client)
    (hQ : ∀ a c, Q a c → Q' a c) (hH : ∀ halt c, H halt c → H' halt c) : p.Post Q' H' client := by
  unfold Post at *
  generalize p.run.run client = result at *
  obtain ⟨r, c⟩ := result
  cases r with
  | ok a => exact hQ a c h
  | error halt => exact hH halt c h

/-- One part after the other: a halt of the first is a halt of both. -/
theorem Post.bind {p : Conn E α} {f : α → Conn E β} {Q : β → WebOsClient → Prop}
    {H : Halt E → WebOsClient → Prop} (h : p.Post (fun a => (f a).Post Q H) H client) :
    (p >>= f).Post Q H client := by
  unfold Post at *
  have hrun : (p >>= f).run.run client
      = (ExceptT.bindCont f (p.run.run client).1).run (p.run.run client).2 := rfl
  rw [hrun]
  generalize p.run.run client = result at *
  obtain ⟨r, c⟩ := result
  cases r with
  | ok a => exact h
  | error halt => exact h

/-- What is read alike behind a first part is read alike as a whole. -/
theorem run_bind_congr {p : Conn E α} {f g : α → Conn E β}
    (h : p.Post (fun a c => (f a).run.run c = (g a).run.run c) (fun _ _ => True) client) :
    (p >>= f).run.run client = (p >>= g).run.run client := by
  have hrun (k : α → Conn E β) : (p >>= k).run.run client
      = (ExceptT.bindCont k (p.run.run client).1).run (p.run.run client).2 := rfl
  rw [hrun f, hrun g]
  unfold Post at h
  generalize p.run.run client = result at *
  obtain ⟨r, c⟩ := result
  cases r with
  | ok a => exact h
  | error halt => rfl

/-- Only the failure is renamed, not what was done. -/
theorem Post.mapFailed {p : Conn E α} {f : E → E'} {Q : α → WebOsClient → Prop}
    {H : Halt E' → WebOsClient → Prop} (h : p.Post Q (fun halt => H (halt.map f)) client) :
    (p.mapFailed f).Post Q H client := by
  unfold Post at *
  have hrun : (p.mapFailed f).run.run client
      = ((p.run.run client).1.mapError (Halt.map f), (p.run.run client).2) := rfl
  rw [hrun]
  generalize p.run.run client = result at *
  obtain ⟨r, c⟩ := result
  cases r with
  | ok a => exact h
  | error halt => exact h

theorem Post.get {Q : WebOsClient → WebOsClient → Prop} {H : Halt E → WebOsClient → Prop}
    (h : Q client client) : Conn.Post (get : Conn E WebOsClient) Q H client := h

theorem Post.set {client' : WebOsClient} {Q : Unit → WebOsClient → Prop}
    {H : Halt E → WebOsClient → Prop} (h : Q () client') :
    Conn.Post (set client' : Conn E Unit) Q H client := h

theorem Post.pure {a : α} {Q : α → WebOsClient → Prop} {H : Halt E → WebOsClient → Prop}
    (h : Q a client) : Conn.Post (pure a : Conn E α) Q H client := h

theorem Post.throw {halt : Halt E} {Q : α → WebOsClient → Prop}
    {H : Halt E → WebOsClient → Prop} (h : H halt client) :
    Conn.Post (throw halt : Conn E α) Q H client := h

/-- A result that was computed goes on or fails, with nothing sent. -/
theorem Post.ofExcept {r : Except E α} {Q : α → WebOsClient → Prop}
    {H : Halt E → WebOsClient → Prop} (hok : ∀ a, r = .ok a → Q a client)
    (herror : ∀ err, H (.failed err) client) : (ofExcept r).Post Q H client := by
  cases r with
  | ok a => exact hok a rfl
  | error err => exact herror err

end Conn

/-! ## Receives, one after another -/

/-- The receives use up the turns from `first` to `last`, each where the one before it ended. -/
def Segments (first : Nat) : List (Nat × Nat) → Nat → Prop
  | [], last => last = first
  | (start, stop) :: rest, last => start = first ∧ start ≤ stop ∧ Segments stop rest last

/-- One more receive goes on where the last one stopped. -/
theorem Segments.concat {first middle stop : Nat} {segments : List (Nat × Nat)}
    (h : Segments first segments middle) (hstop : middle ≤ stop) :
    Segments first (segments ++ [(middle, stop)]) stop := by
  induction segments generalizing first with
  | nil =>
    cases h
    exact ⟨rfl, hstop, rfl⟩
  | cons segment rest ih => exact ⟨h.1, h.2.1, ih h.2.2⟩

/-- Two runs of receives in a row are one. -/
theorem Segments.append {first middle last : Nat} {segments more : List (Nat × Nat)}
    (h : Segments first segments middle) (hmore : Segments middle more last) :
    Segments first (segments ++ more) last := by
  induction segments generalizing first with
  | nil =>
    cases h
    exact hmore
  | cons segment rest ih => exact ⟨h.1, h.2.1, ih h.2.2⟩

/-- Receives only go forward in the stream. -/
theorem Segments.le {first last : Nat} {segments : List (Nat × Nat)}
    (h : Segments first segments last) : first ≤ last := by
  induction segments generalizing first with
  | nil =>
    cases h
    exact le_rfl
  | cons segment rest ih =>
    obtain ⟨rfl, hstop, hrest⟩ := h
    exact hstop.trans (ih hrest)

/-- What is before a receive has ended when it begins. -/
theorem Segments.ended {first last : Nat} {earlier later : List (Nat × Nat)} {start stop : Nat}
    (h : Segments first (earlier ++ (start, stop) :: later) last) :
    ∀ segment ∈ earlier, segment.2 ≤ start := by
  induction earlier generalizing first with
  | nil => exact fun _ hnone => absurd hnone List.not_mem_nil
  | cons segment rest ih =>
    obtain ⟨-, -, hrest⟩ := h
    refine List.forall_mem_cons.mpr ⟨?_, ih hrest⟩
    clear ih
    induction rest generalizing segment with
    | nil => exact hrest.1.ge
    | cons next rest ih => exact (hrest.1 ▸ hrest.2.1).trans (ih next hrest.2.2)

/-! ## What a receive gives -/

/-- The turn with number `k` is a text frame with this id, read as `message`. -/
def FrameAt (serde : Serde) (incoming : List ReceiveTurn) (requestId : String) (k : Nat)
    (message : Json) : Prop :=
  ∃ raw, incoming[k]? = some (.message (.text raw)) ∧ serde.fromStr raw = .ok message
    ∧ message.frameId = some requestId

section

variable {E : Type} {serde : Serde} {incoming : List ReceiveTurn} {requestId : String}

/-- A judge that gives a result only on a frame with the id of the request. -/
def Discerning (serde : Serde) (requestId : String)
    (judge : ReceiveTurn → Option (Except E Json)) : Prop :=
  ∀ turn message, judge turn = some (.ok message) →
    ∃ raw, turn = .message (.text raw) ∧ serde.fromStr raw = .ok message
      ∧ message.frameId = some requestId

/-- What is accepted as the response is a text frame with that very request id. -/
theorem judgeMessage_ok {m : Message} {message : Json}
    (h : WebOsClient.judgeMessage serde requestId m = some (.ok message)) :
    ∃ raw, m = .text raw ∧ serde.fromStr raw = .ok message
      ∧ message.frameId = some requestId := by
  cases m with
  | text raw =>
    dsimp only [WebOsClient.judgeMessage] at h
    split at h
    · rename_i response hparsed
      cases h
      exact ⟨raw, rfl, parseCorrelatedFrame_some hparsed⟩
    · cases h
    · cases h
  | ping => cases h
  | pong => cases h
  | close => cases h
  | binary => cases h
  | frame => cases h

/-- Ordinary requests take no other frame for their response. -/
theorem discerning_judgeOrdinary :
    Discerning serde requestId (WebOsClient.judgeOrdinary serde requestId) := by
  intro turn message h
  cases turn with
  | message m =>
    obtain ⟨raw, rfl, hframe⟩ := judgeMessage_ok h
    exact ⟨raw, rfl, hframe⟩
  | _ => cases h

/-- The judgement of a pairing tells the frames of other requests apart. -/
theorem discerning_judgePairing :
    Discerning serde requestId (WebOsClient.judgePairing serde requestId) := by
  intro turn message h
  cases turn with
  | message m =>
    unfold WebOsClient.judgePairing at h
    obtain ⟨result, hresult, hmapped⟩ := Option.map_eq_some_iff.mp h
    cases result with
    | ok response =>
      cases hmapped
      obtain ⟨raw, rfl, hframe⟩ := judgeMessage_ok hresult
      exact ⟨raw, rfl, hframe⟩
    | error err => cases hmapped
  | _ => cases h

/-- The loop stops at the turn it settles on. -/
theorem receiveLoop_ok {judge : ReceiveTurn → Option (Except E Json)} {turns : List ReceiveTurn}
    {n : Nat} {message : Json} (h : WebOsClient.receiveLoop judge turns = (n, some (.ok message))) :
    ∃ k turn, n = k + 1 ∧ turns[k]? = some turn ∧ judge turn = some (.ok message) := by
  induction turns generalizing n with
  | nil => cases h
  | cons turn rest ih =>
    unfold WebOsClient.receiveLoop at h
    split at h
    · rename_i result hjudged
      cases h
      exact ⟨0, turn, rfl, rfl, hjudged⟩
    · cases hloop : WebOsClient.receiveLoop judge rest with
      | mk m result =>
        rw [hloop] at h
        cases h
        obtain ⟨k, turn', rfl, hturn, hjudged⟩ := ih hloop
        exact ⟨k + 1, turn', rfl, hturn, hjudged⟩

/-! ## One request -/

def requestIdOf (sequence : Nat) : String := "request_" ++ Nat.repr sequence

/-- Different numbers give different ids. -/
theorem requestIdOf_inj {m n : Nat} (h : requestIdOf m = requestIdOf n) : m = n :=
  Nat.repr_injective (String.append_right_inj _ |>.mp h)

/-- A request that has got its id and has done nothing but wait since. -/
structure Underway (before : WebOsClient) (requestId : String) (client : WebOsClient) : Prop where
  bound : before.nextRequestSequence + 1 < 2 ^ 64
  numbered : requestId = requestIdOf before.nextRequestSequence
  sequence : client.nextRequestSequence = before.nextRequestSequence + 1
  given : client.given = before.given ++ [requestId]
  receives : ∃ segments, client.receives = before.receives ++ segments
    ∧ Segments before.position segments client.position

/-- It has also handed its frame to the socket. -/
structure Awaiting (before : WebOsClient) (requestId : String) (client : WebOsClient) : Prop
    extends Underway before requestId client where
  sent : ∃ frame, client.sent = before.sent ++ [frame] ∧ frame.frameId = some requestId

/-- The last receive has ended on a frame with the id of the request. -/
def Received (serde : Serde) (incoming : List ReceiveTurn) (before : WebOsClient)
    (requestId : String) (client : WebOsClient) (message : Json) : Prop :=
  ∃ earlier start k, client.receives = earlier ++ [(start, k + 1)] ∧ start ≤ k
    ∧ before.position ≤ start ∧ client.position = k + 1
    ∧ FrameAt serde incoming requestId k message

variable {before client : WebOsClient}

/-- An id is given for the number of the sequence, until the sequence is used up. -/
theorem post_nextRequestId {Q : String → WebOsClient → Prop}
    {H : Halt WebOsClientError → WebOsClient → Prop}
    (hQ : ∀ requestId after, Underway before requestId after → after.sent = before.sent →
      Q requestId after)
    (hH : ∀ err, H (.failed err) before) :
    Conn.Post WebOsClient.nextRequestId Q H before := by
  refine .bind (.get ?_)
  split
  · rename_i hbound
    refine .bind (.set (.pure ?_))
    exact hQ _ _ ⟨hbound, rfl, rfl, rfl, [], (List.append_nil _).symm, rfl⟩ rfl
  · exact .throw (hH _)

/-- The request is sent once, under its id, also where the socket then fails. -/
theorem post_sendMessage {env : RequestEnv} {request : Json} {Q : Unit → WebOsClient → Prop}
    {H : Halt WebOsClientError → WebOsClient → Prop} (hunderway : Underway before requestId client)
    (hsent : client.sent = before.sent) (hrequest : request.frameId = some requestId)
    (hQ : ∀ after, Awaiting before requestId after → Q () after)
    (hH : ∀ err after, Awaiting before requestId after → H (.failed err) after) :
    Conn.Post (WebOsClient.sendMessage env request) Q H client := by
  have hawaiting : Awaiting before requestId { client with sent := client.sent ++ [request] } :=
    { bound := hunderway.bound
      numbered := hunderway.numbered
      sequence := hunderway.sequence
      given := hunderway.given
      receives := hunderway.receives
      sent := ⟨request, by rw [hsent], hrequest⟩ }
  exact .bind (.ofExcept (fun _ _ => hQ _ hawaiting) fun err => hH err _ hawaiting)

/-- A receive uses up some turns, and gives only a frame with the id of the request. -/
theorem post_receive {judge : ReceiveTurn → Option (Except E Json)}
    (hjudge : Discerning serde requestId judge) {Q : Json → WebOsClient → Prop}
    {H : Halt E → WebOsClient → Prop} (hawaiting : Awaiting before requestId client)
    (hQ : ∀ message after, Awaiting before requestId after → client.position < after.position →
      Received serde incoming before requestId after message → Q message after)
    (hH : ∀ halt after, Awaiting before requestId after → H halt after) :
    Conn.Post (WebOsClient.receive incoming judge) Q H client := by
  refine .bind (.get ?_)
  extract_lets outcome
  refine .bind (.set ?_)
  have hadvanced : Awaiting before requestId (client.advance outcome.1) := by
    obtain ⟨segments, hreceives, hsegments⟩ := hawaiting.receives
    refine { hawaiting with receives := ?_ }
    refine ⟨segments ++ [(client.position, client.position + outcome.1)], ?_, ?_⟩
    · show client.receives ++ _ = _
      rw [hreceives, List.append_assoc]
    · exact hsegments.concat (Nat.le_add_right _ _)
  cases hresult : outcome.2 with
  | none => exact .throw (hH _ _ hadvanced)
  | some result =>
    refine .ofExcept (fun message hmessage => ?_) fun err => hH _ _ hadvanced
    have hloop : WebOsClient.receiveLoop judge (incoming.drop client.position)
        = (outcome.1, some (.ok message)) := Prod.ext rfl (hresult.trans (congrArg some hmessage))
    obtain ⟨k, turn, hk, hturn, hjudged⟩ := receiveLoop_ok hloop
    obtain ⟨raw, rfl, hframe⟩ := hjudge turn message hjudged
    refine hQ message _ hadvanced ?_ ?_
    · show client.position < client.position + outcome.1
      omega
    · obtain ⟨segments, -, hsegments⟩ := hawaiting.receives
      refine ⟨client.receives, client.position, client.position + k, ?_, Nat.le_add_right _ _,
        hsegments.le, ?_, raw, ?_, hframe⟩
      · show client.receives ++ [(client.position, client.position + outcome.1)] = _
        rw [hk, Nat.add_assoc]
      · show client.position + outcome.1 = _
        rw [hk, Nat.add_assoc]
      · rw [← hturn, List.getElem?_drop]

/-- What a request's result is. -/
inductive ClientReply where
  | value (message : Json)
  | token (accessToken : PlatformAccessToken)

/-- The result of a request, read off its frame. -/
def BuiltFrom (serde : Serde) (requestId : String) (message : Json) : ClientReply → Prop
  | .value value => value = message
  | .token accessToken =>
    parseRegistrationMessage serde requestId (serde.toStr message)
      = .ok (.registered accessToken)

/-- What a request does to the connection: nothing at all, or it takes the next id, hands one
frame with this id to the socket and waits. -/
def RequestLaw (serde : Serde) (incoming : List ReceiveTurn) (before after : WebOsClient)
    (result : Except (Halt E) ClientReply) : Prop :=
  (after = before ∧ ∃ err, result = .error (.failed err))
    ∨ ∃ requestId, Awaiting before requestId after
        ∧ ∀ reply, result = .ok reply →
            ∃ message, Received serde incoming before requestId after message
              ∧ BuiltFrom serde requestId message reply

/-- A request that fails before it has an id leaves no trace. -/
theorem RequestLaw.untouched {err : E} :
    RequestLaw serde incoming before before (.error (.failed err)) := .inl ⟨rfl, err, rfl⟩

/-- One that halts later has sent its frame and received no reply. -/
theorem RequestLaw.halted {halt : Halt E} (h : Awaiting before requestId client) :
    RequestLaw serde incoming before client (.error halt) := .inr ⟨requestId, h, nofun⟩

/-- One that ends has received its reply after it was sent. -/
theorem RequestLaw.received {message : Json} {reply : ClientReply}
    (h : Awaiting before requestId client)
    (hreceived : Received serde incoming before requestId client message)
    (hbuilt : BuiltFrom serde requestId message reply) :
    RequestLaw serde incoming before client (.ok reply : Except (Halt E) ClientReply) := by
  refine .inr ⟨requestId, h, fun reply' hreply => ?_⟩
  cases hreply
  exact ⟨message, hreceived, hbuilt⟩

/-- The law of a request, as a postcondition. -/
def Lawful {α : Type} (serde : Serde) (incoming : List ReceiveTurn) (before : WebOsClient)
    (reply : α → ClientReply) (p : Conn E α) : Prop :=
  p.Post
    (fun a after => RequestLaw serde incoming before after (.ok (reply a) : Except (Halt E) _))
    (fun halt after => RequestLaw serde incoming before after (.error halt)) before

/-- Renaming errors makes no success. -/
theorem mapError_eq_ok {E' α : Type} {r : Except E α} {f : E → E'} {a : α}
    (h : r.mapError f = .ok a) : r = .ok a := by
  cases r with
  | ok a' =>
    cases h
    rfl
  | error err => cases h

/-- An ordinary request: an id, one frame, a deadline, and the response with that id. -/
theorem lawful_sendRequest (env : RequestEnv) (uri : String) (payload : Json) :
    Lawful serde incoming before ClientReply.value
      (WebOsClient.sendRequest serde incoming env uri payload) := by
  refine .bind (post_nextRequestId (fun requestId after hunderway hsent => ?_)
    fun _ => .untouched)
  refine .bind (post_sendMessage hunderway hsent rfl (fun after hawaiting => ?_)
    fun _ _ => .halted)
  refine .bind ?_
  unfold WebOsClient.responseDeadline
  split
  · refine .pure (.bind (post_receive discerning_judgeOrdinary hawaiting ?_ fun _ _ => .halted))
    intro message c hawaiting' _ hreceived
    refine .ofExcept (fun value hvalue => ?_) fun _ => .halted hawaiting'
    cases validateResponseMessage_ok hvalue
    exact .received hawaiting' hreceived rfl
  · exact .throw (.halted hawaiting)

/-- A request of a pairing, with a timeout of its own. -/
theorem lawful_sendPairingRequest (env : RequestEnv) (uri : String) (payload : Json)
    (responseTimeout : Nat) :
    Lawful serde incoming before ClientReply.value
      (WebOsClient.sendPairingRequest serde incoming env uri payload responseTimeout) := by
  unfold WebOsClient.sendPairingRequest
  split
  · exact .throw .untouched
  · refine .bind (.ofExcept (fun _ _ => ?_) fun _ => .untouched)
    refine .bind (.mapFailed (post_nextRequestId (fun requestId after hunderway hsent => ?_)
      fun _ => .untouched))
    refine .bind (.mapFailed (post_sendMessage hunderway hsent rfl (fun after hawaiting => ?_)
      fun _ _ => .halted))
    split
    · refine .bind (.mapFailed (post_receive discerning_judgePairing hawaiting ?_
        fun _ _ => .halted))
      intro message c hawaiting' _ hreceived
      refine .ofExcept (fun value hvalue => ?_) fun _ => .halted hawaiting'
      cases validateResponseMessage_ok (mapError_eq_ok hvalue)
      exact .received hawaiting' hreceived rfl
    · exact .throw (.halted hawaiting)

/-- The loop ends with a token only on the frame of its last receive. -/
theorem post_registrationLoop {receiveOne : Conn E Json}
    {parse : Json → Except E WebOsRegistrationEvent} {requiresPairing : E} {hasToken : Bool}
    (hreceive : ∀ {Q : Json → WebOsClient → Prop} {H : Halt E → WebOsClient → Prop} {client},
      Awaiting before requestId client →
      (∀ message after, Awaiting before requestId after →
        Received serde incoming before requestId after message → Q message after) →
      (∀ halt after, Awaiting before requestId after → H halt after) →
      receiveOne.Post Q H client)
    (hparse : ∀ message accessToken, parse message = .ok (.registered accessToken) →
      BuiltFrom serde requestId message (.token accessToken))
    (fuel : Nat) (hawaiting : Awaiting before requestId client) :
    (WebOsClient.registrationLoop receiveOne parse requiresPairing hasToken fuel).Post
      (fun accessToken after =>
        RequestLaw serde incoming before after (.ok (.token accessToken) : Except (Halt E) _))
      (fun halt after => RequestLaw serde incoming before after (.error halt)) client := by
  induction fuel generalizing client with
  | zero => exact .throw (.halted hawaiting)
  | succ fuel ih =>
    refine .bind (hreceive hawaiting ?_ fun _ _ => .halted)
    intro message after hawaiting' hreceived
    refine .bind (.ofExcept (fun event hevent => ?_) fun _ => .halted hawaiting')
    cases event with
    | pairingPrompt =>
      dsimp only
      split
      · exact .throw (.halted hawaiting')
      · exact ih hawaiting'
    | registered accessToken =>
      exact .pure (.received hawaiting' hreceived (hparse message accessToken hevent))

/-- A registration receives until the TV has decided, all under one id. -/
theorem lawful_register (env : RequestEnv) (manifest : Json)
    (accessToken : Option PlatformAccessToken) :
    Lawful serde incoming before ClientReply.token
      (WebOsClient.register serde incoming env manifest accessToken) := by
  refine .bind (.mapFailed (post_nextRequestId (fun requestId after hunderway hsent => ?_)
    fun _ => .untouched))
  refine .bind (.mapFailed (post_sendMessage hunderway hsent rfl (fun after hawaiting => ?_)
    fun _ _ => .halted))
  refine .bind (.mapFailed ?_)
  unfold WebOsClient.responseDeadline
  split
  · refine .pure (.bind (.get ?_))
    refine post_registrationLoop (fun hawaiting hQ hH => ?_) (fun _ _ => mapError_eq_ok) _ hawaiting
    refine .mapFailed (post_receive discerning_judgeOrdinary hawaiting ?_ fun _ _ => hH _ _)
    exact fun message after hawaiting' _ => hQ message after hawaiting'
  · exact .throw (.halted hawaiting)

/-- A registration for pairing keeps the law. -/
theorem lawful_registerForPairing (env : RequestEnv) (manifest : Json)
    (accessToken : Option PlatformAccessToken) :
    Lawful serde incoming before ClientReply.token
      (WebOsClient.registerForPairing serde incoming env manifest accessToken) := by
  unfold WebOsClient.registerForPairing
  split
  · exact .throw .untouched
  · refine .bind (.mapFailed (post_nextRequestId (fun requestId after hunderway hsent => ?_)
      fun _ => .untouched))
    refine .bind (.mapFailed (post_sendMessage hunderway hsent rfl (fun after hawaiting => ?_)
      fun _ _ => .halted))
    refine .bind (.get ?_)
    refine post_registrationLoop (fun hawaiting hQ hH => ?_) (fun _ _ => mapError_eq_ok) _ hawaiting
    refine .mapFailed (post_receive discerning_judgePairing hawaiting ?_ fun _ _ => hH _ _)
    exact fun message after hawaiting' _ => hQ message after hawaiting'

/-- A prompt is answered by a further receive, which finds fewer turns: the number of receives that
`receivesLeft` allows is never what ends the loop. -/
theorem registrationLoop_enough (incoming : List ReceiveTurn) {receiveOne : Conn E Json}
    {parse : Json → Except E WebOsRegistrationEvent} {requiresPairing : E} {hasToken : Bool}
    (hreceive : ∀ client, receiveOne.Post
      (fun _ after => client.position < after.position ∧ after.position ≤ incoming.length)
      (fun _ _ => True) client)
    {fuel : Nat} (hfuel : incoming.length - client.position < fuel) :
    (WebOsClient.registrationLoop receiveOne parse requiresPairing hasToken fuel).run.run client
      = (WebOsClient.registrationLoop receiveOne parse requiresPairing hasToken
          (fuel + 1)).run.run client := by
  induction fuel generalizing client with
  | zero => omega
  | succ fuel ih =>
    rw [WebOsClient.registrationLoop, WebOsClient.registrationLoop]
    refine Conn.run_bind_congr ?_
    refine (hreceive client).mono (fun message after hafter => ?_) fun _ _ h => h
    refine Conn.run_bind_congr (.ofExcept (fun event _ => ?_) fun _ => trivial)
    cases event with
    | pairingPrompt =>
      dsimp only
      split
      · rfl
      · exact ih (by omega)
    | registered accessToken => rfl

/-- A receive looks at no more turns than there are. -/
theorem receiveLoop_le (judge : ReceiveTurn → Option (Except E Json)) (turns : List ReceiveTurn) :
    (WebOsClient.receiveLoop judge turns).1 ≤ turns.length := by
  induction turns with
  | nil => exact le_rfl
  | cons turn rest ih =>
    unfold WebOsClient.receiveLoop
    split
    · exact Nat.succ_le_succ (Nat.zero_le _)
    · exact Nat.succ_le_succ ih

/-- A receive that ends takes at least one turn, and none from beyond the stream. -/
theorem post_receive_bounds {judge : ReceiveTurn → Option (Except E Json)} (client : WebOsClient) :
    (WebOsClient.receive incoming judge).Post
      (fun _ after => client.position < after.position ∧ after.position ≤ incoming.length)
      (fun _ _ => True) client := by
  refine .bind (.get ?_)
  extract_lets outcome
  refine .bind (.set ?_)
  cases hresult : outcome.2 with
  | none => trivial
  | some result =>
    refine .ofExcept (fun message hmessage => ?_) fun _ => trivial
    have hloop : WebOsClient.receiveLoop judge (incoming.drop client.position)
        = (outcome.1, some (.ok message)) := Prod.ext rfl (hresult.trans (congrArg some hmessage))
    obtain ⟨k, turn, hk, hturn, -⟩ := receiveLoop_ok hloop
    have hlength := receiveLoop_le judge (incoming.drop client.position)
    rw [hloop, List.length_drop] at hlength
    show client.position < client.position + outcome.1
      ∧ client.position + outcome.1 ≤ incoming.length
    omega

/-- The loops of both registrations, with however many receives more. -/
theorem registrationLoop_receivesLeft {E' : Type} {judge : ReceiveTurn → Option (Except E Json)}
    {f : E → E'} {parse : Json → Except E' WebOsRegistrationEvent} {requiresPairing : E'}
    {hasToken : Bool} (client : WebOsClient) (more : Nat) :
    (WebOsClient.registrationLoop ((WebOsClient.receive incoming judge).mapFailed f) parse
        requiresPairing hasToken (WebOsClient.receivesLeft incoming client + more)).run.run client
      = (WebOsClient.registrationLoop ((WebOsClient.receive incoming judge).mapFailed f) parse
          requiresPairing hasToken (WebOsClient.receivesLeft incoming client)).run.run client := by
  induction more with
  | zero => rfl
  | succ more ih =>
    rw [← ih]
    refine (registrationLoop_enough incoming (fun client => ?_) ?_).symm
    · exact .mapFailed (post_receive_bounds client)
    · show incoming.length - client.position < incoming.length - client.position + 1 + more
      omega

end

/-! ## Requests, one after another -/

open Mealy

inductive ClientRequest where
  | ordinary (uri : String) (payload : Json)
  | pairing (uri : String) (payload : Json) (responseTimeout : Nat)
  | register (accessToken : Option PlatformAccessToken)
  | registerForPairing (accessToken : Option PlatformAccessToken)

inductive RequestFailure where
  | client (err : WebOsClientError)
  | pairing (err : PairingTransportError)
  | registration (err : WebOsClientRegistrationError)
  | pairingRegistration (err : PairingRegistrationError)

section

variable (serde : Serde) (manifest : Json) (incoming : List ReceiveTurn)

def ClientRequest.run (env : RequestEnv) : ClientRequest → Conn RequestFailure ClientReply
  | .ordinary uri payload => do
    return .value (← (WebOsClient.sendRequest serde incoming env uri payload).mapFailed .client)
  | .pairing uri payload responseTimeout => do
    return .value (← (WebOsClient.sendPairingRequest serde incoming env uri payload
      responseTimeout).mapFailed .pairing)
  | .register accessToken => do
    return .token (← (WebOsClient.register serde incoming env manifest accessToken).mapFailed
      .registration)
  | .registerForPairing accessToken => do
    return .token (← (WebOsClient.registerForPairing serde incoming env manifest
      accessToken).mapFailed .pairingRegistration)

/-- A request, with the connection before and after it. -/
structure RequestRecord where
  request : ClientRequest
  before : WebOsClient
  after : WebOsClient
  result : Except (Halt RequestFailure) ClientReply

/-- The id given to the request, if it got one. -/
def RequestRecord.requestId (r : RequestRecord) : Option String :=
  r.after.given[r.before.given.length]?

/-- The turn on which the result rests: the last of the last receive. -/
def RequestRecord.replyTurn (r : RequestRecord) : Option Nat :=
  match r.result with
  | .ok _ => r.after.receives.getLast?.map (·.2 - 1)
  | .error _ => none

def connectionStep (client : WebOsClient) (input : ClientRequest × RequestEnv) :
    WebOsClient × RequestRecord :=
  let (result, after) := (input.1.run serde manifest incoming input.2).run.run client
  (after, ⟨input.1, client, after, result⟩)

namespace RequestRecord

/-- What is true of one request. -/
structure Correlated (r : RequestRecord) : Prop where
  /-- A result is built from a frame with the id of the request, which came after every earlier
  receive on the connection had ended. -/
  reply : ∀ reply, r.result = .ok reply → ∃ requestId k message,
    r.requestId = some requestId ∧ r.replyTurn = some k
      ∧ FrameAt serde incoming requestId k message ∧ BuiltFrom serde requestId message reply
      ∧ ∃ earlier start, r.after.receives = earlier ++ [(start, k + 1)] ∧ start ≤ k
        ∧ ∀ segment ∈ earlier, segment.2 ≤ start
  /-- The sequence number counts the ids given so far. -/
  counted : r.before.nextRequestSequence = r.before.given.length
  /-- An exhausted sequence fails the request, and no frame is sent. -/
  exhausted : 2 ^ 64 ≤ r.before.nextRequestSequence + 1 →
    r.requestId = none ∧ r.after.sent = r.before.sent ∧ ∃ err, r.result = .error (.failed err)

/-- What is true of two requests of one connection. -/
structure Independent (r r' : RequestRecord) : Prop where
  ids : ∀ requestId, r.requestId = some requestId → r'.requestId ≠ some requestId
  turns : ∀ k, r.replyTurn = some k → r'.replyTurn ≠ some k
  /-- The frame of the one never carries the id of the other. -/
  foreign : ∀ k requestId, r.replyTurn = some k → r'.requestId = some requestId →
    ¬ ∃ message, FrameAt serde incoming requestId k message
  foreign' : ∀ k requestId, r'.replyTurn = some k → r.requestId = some requestId →
    ¬ ∃ message, FrameAt serde incoming requestId k message

end RequestRecord

end

section

variable {serde : Serde} {manifest : Json} {incoming : List ReceiveTurn}

/-- **Every kind of request keeps to the law.** -/
theorem connectionStep_law (client : WebOsClient) (input : ClientRequest × RequestEnv) :
    RequestLaw serde incoming client (connectionStep serde manifest incoming client input).2.after
      (connectionStep serde manifest incoming client input).2.result := by
  have hrun {α E : Type} {p : Conn E α} {reply : α → ClientReply} {f : E → RequestFailure}
      (hp : Lawful serde incoming client reply p) :
      (p.mapFailed f >>= fun a => pure (reply a) : Conn RequestFailure ClientReply).Post
        (fun reply after => RequestLaw serde incoming client after
          (.ok reply : Except (Halt RequestFailure) _))
        (fun halt after => RequestLaw serde incoming client after (.error halt)) client := by
    refine .bind (.mapFailed (Conn.Post.mono hp ?_ ?_))
    · rintro a after (⟨-, err, herr⟩ | ⟨requestId, hawaiting, hreply⟩)
      · cases herr
      · refine .pure (.inr ⟨requestId, hawaiting, fun reply' hreply' => ?_⟩)
        cases hreply'
        exact hreply _ rfl
    · rintro halt after (⟨rfl, err, herr⟩ | ⟨requestId, hawaiting, -⟩)
      · cases herr
        exact .untouched
      · exact .halted hawaiting
  obtain ⟨request, env⟩ := input
  have hlaw : (request.run serde manifest incoming env).Post
      (fun reply after => RequestLaw serde incoming client after
        (.ok reply : Except (Halt RequestFailure) _))
      (fun halt after => RequestLaw serde incoming client after (.error halt)) client := by
    cases request with
    | ordinary uri payload => exact hrun (lawful_sendRequest env uri payload)
    | pairing uri payload responseTimeout =>
      exact hrun (lawful_sendPairingRequest env uri payload responseTimeout)
    | register accessToken => exact hrun (lawful_register env manifest accessToken)
    | registerForPairing accessToken => exact hrun (lawful_registerForPairing env manifest accessToken)
  unfold Conn.Post at hlaw
  unfold connectionStep
  generalize (request.run serde manifest incoming env).run.run client = outcome at hlaw ⊢
  obtain ⟨result, after⟩ := outcome
  cases result with
  | ok reply => exact hlaw
  | error halt => exact hlaw

/-- The connection in order: its ids are numbered, its receives follow one another. -/
structure InOrder (client : WebOsClient) : Prop where
  counted : client.nextRequestSequence = client.given.length
  given : client.given = (List.range client.nextRequestSequence).map requestIdOf
  receives : Segments 0 client.receives client.position

/-- Whatever a request does, ids stay numbered in order and receives stay one behind the other. -/
theorem InOrder.step {client after : WebOsClient} {result : Except (Halt RequestFailure) ClientReply}
    (h : InOrder client) (hlaw : RequestLaw serde incoming client after result) :
    InOrder after := by
  rcases hlaw with ⟨rfl, -⟩ | ⟨requestId, hawaiting, -⟩
  · exact h
  · obtain ⟨segments, hreceives, hsegments⟩ := hawaiting.receives
    refine ⟨?_, ?_, ?_⟩
    · rw [hawaiting.sequence, hawaiting.given, List.length_append, h.counted]
      rfl
    · rw [hawaiting.given, hawaiting.sequence, List.range_succ, List.map_append, ← h.given,
        hawaiting.numbered]
      rfl
    · rw [hreceives]
      exact h.receives.append hsegments

/-- One frame has one id. -/
theorem FrameAt.unique {requestId requestId' : String} {k : Nat} {message message' : Json}
    (h : FrameAt serde incoming requestId k message)
    (h' : FrameAt serde incoming requestId' k message') : requestId = requestId' := by
  obtain ⟨raw, hraw, hmessage, hid⟩ := h
  obtain ⟨raw', hraw', hmessage', hid'⟩ := h'
  cases hraw.symm.trans hraw'
  cases hmessage.symm.trans hmessage'
  exact Option.some.inj (hid.symm.trans hid')

namespace RequestRecord

variable {r r' : RequestRecord}

/-- The law of a request, in terms of its record. -/
theorem cases_law (hlaw : RequestLaw serde incoming r.before r.after r.result) :
    (r.after = r.before ∧ r.requestId = none ∧ r.replyTurn = none
        ∧ ∃ err, r.result = .error (.failed err))
      ∨ (r.before.nextRequestSequence + 1 < 2 ^ 64
        ∧ r.requestId = some (requestIdOf r.before.nextRequestSequence)
        ∧ r.after.given = r.before.given ++ [requestIdOf r.before.nextRequestSequence]
        ∧ ∃ segments, r.after.receives = r.before.receives ++ segments
          ∧ Segments r.before.position segments r.after.position
          ∧ ∀ reply, r.result = .ok reply → ∃ message earlier start k,
              r.replyTurn = some k ∧ r.after.receives = earlier ++ [(start, k + 1)] ∧ start ≤ k
                ∧ r.before.position ≤ start ∧ r.after.position = k + 1
                ∧ FrameAt serde incoming (requestIdOf r.before.nextRequestSequence) k message
                ∧ BuiltFrom serde (requestIdOf r.before.nextRequestSequence) message reply) := by
  rcases hlaw with ⟨hafter, err, herr⟩ | ⟨requestId, hawaiting, hreply⟩
  · refine .inl ⟨hafter, ?_, ?_, err, herr⟩
    · rw [requestId, hafter, List.getElem?_eq_none le_rfl]
    · rw [replyTurn, herr]
  · obtain ⟨segments, hreceives, hsegments⟩ := hawaiting.receives
    cases hawaiting.numbered
    refine .inr ⟨hawaiting.bound, ?_, hawaiting.given, segments, hreceives, hsegments, ?_⟩
    · rw [RequestRecord.requestId, hawaiting.given, List.getElem?_concat_length]
    · intro reply hresult
      obtain ⟨message, ⟨earlier, start, k, hlast, hrest⟩, hbuilt⟩ := hreply reply hresult
      obtain ⟨hstart, hbegin, hend, hframe⟩ := hrest
      refine ⟨message, earlier, start, k, ?_, hlast, hstart, hbegin, hend, hframe, hbuilt⟩
      rw [replyTurn, hresult, hlast, List.getLast?_concat]
      rfl

/-- A request that follows the law in order is correlated with its reply. -/
theorem correlated (hin : InOrder r.before)
    (hlaw : RequestLaw serde incoming r.before r.after r.result) : r.Correlated serde incoming := by
  have hin' := hin.step hlaw
  rcases cases_law hlaw with ⟨hafter, hid, -, err, herr⟩
    | ⟨hbound, hid, -, -, -, -, hreply⟩
  · refine ⟨fun reply hresult => ?_, hin.counted, fun _ => ⟨hid, by rw [hafter], err, herr⟩⟩
    rw [herr] at hresult
    cases hresult
  · refine ⟨fun reply hresult => ?_, hin.counted, fun hexhausted => ?_⟩
    · obtain ⟨message, earlier, start, k, hturn, hlast, hstart, -, -, hframe, hbuilt⟩ :=
        hreply reply hresult
      refine ⟨_, k, message, hid, hturn, hframe, hbuilt, earlier, start, hlast, hstart, ?_⟩
      have hsegments := hin'.receives
      rw [hlast] at hsegments
      exact hsegments.ended
    · omega

/-- The turn of a result lies between the two states of the connection. -/
theorem replyTurn_bounds (hlaw : RequestLaw serde incoming r.before r.after r.result) {k : Nat}
    (hk : r.replyTurn = some k) : r.before.position ≤ k ∧ k < r.after.position := by
  rcases cases_law hlaw with ⟨-, -, hnone, -⟩ | ⟨-, -, -, -, -, -, hreply⟩
  · rw [hnone] at hk
    cases hk
  · cases hresult : r.result with
    | ok reply =>
      obtain ⟨_, _, start, k', hturn, -, hstart, hbegin, hend, -, -⟩ := hreply reply hresult
      cases hturn.symm.trans hk
      omega
    | error halt =>
      rw [replyTurn, hresult] at hk
      cases hk

/-- The connection keeps what a request has got. -/
theorem position_le (hlaw : RequestLaw serde incoming r.before r.after r.result) :
    r.before.position ≤ r.after.position := by
  rcases cases_law hlaw with ⟨hafter, -⟩ | ⟨-, -, -, segments, -, hsegments, -⟩
  · rw [hafter]
  · exact hsegments.le

/-- Ids that were given stay given. -/
theorem given_subset (hlaw : RequestLaw serde incoming r.before r.after r.result) :
    r.before.given ⊆ r.after.given := by
  rcases cases_law hlaw with ⟨hafter, -⟩ | ⟨-, -, hgiven, -⟩
  · rw [hafter]
    exact List.Subset.refl _
  · rw [hgiven]
    exact List.subset_append_left _ _

/-- The id of a request is the next of the sequence, and then one of those given. -/
theorem requestId_mem (hlaw : RequestLaw serde incoming r.before r.after r.result)
    {requestId : String} (hid : r.requestId = some requestId) :
    requestId ∈ r.after.given ∧ requestId = requestIdOf r.before.nextRequestSequence := by
  rcases cases_law hlaw with ⟨-, hnone, -⟩ | ⟨-, hsome, hgiven, -⟩
  · rw [hnone] at hid
    cases hid
  · cases hsome.symm.trans hid
    refine ⟨?_, rfl⟩
    rw [hgiven]
    exact List.mem_append_right _ (List.mem_singleton_self _)

/-- A reply stands in a frame of its own request's id. -/
theorem Correlated.frame (h : r.Correlated serde incoming) {k : Nat}
    (hk : r.replyTurn = some k) :
    ∃ requestId message, r.requestId = some requestId
      ∧ FrameAt serde incoming requestId k message := by
  cases hresult : r.result with
  | ok reply =>
    obtain ⟨requestId, k', message, hid, hturn, hframe, -⟩ := h.reply reply hresult
    cases hturn.symm.trans hk
    exact ⟨requestId, message, hid, hframe⟩
  | error halt =>
    rw [replyTurn, hresult] at hk
    cases hk

/-- An earlier request, as far as later ones can meet it. -/
structure Past (serde : Serde) (incoming : List ReceiveTurn) (client : WebOsClient)
    (r : RequestRecord) : Prop where
  correlated : r.Correlated serde incoming
  given : ∀ requestId, r.requestId = some requestId → requestId ∈ client.given
  turn : ∀ k, r.replyTurn = some k → k < client.position

/-- A request that has ended belongs to the past of its client. -/
theorem past (hin : InOrder r.before) (hlaw : RequestLaw serde incoming r.before r.after r.result) :
    Past serde incoming r.after r :=
  ⟨correlated hin hlaw, fun _ hid => (requestId_mem hlaw hid).1,
    fun _ hk => (replyTurn_bounds hlaw hk).2⟩

/-- What is past stays past when the next request is made. -/
theorem Past.step (hpast : Past serde incoming r'.before r)
    (hlaw : RequestLaw serde incoming r'.before r'.after r'.result) :
    Past serde incoming r'.after r :=
  ⟨hpast.correlated, fun requestId hid => given_subset hlaw (hpast.given requestId hid),
    fun k hk => (hpast.turn k hk).trans_le (position_le hlaw)⟩

/-- A request has its own id and its own place in the stream, apart from all before it. -/
theorem Past.independent (hpast : Past serde incoming r'.before r) (hin : InOrder r'.before)
    (hlaw : RequestLaw serde incoming r'.before r'.after r'.result) :
    r.Independent serde incoming r' := by
  -- ids of the past are numbers below the sequence, and the new one is the sequence itself
  have hids : ∀ requestId, r.requestId = some requestId → r'.requestId ≠ some requestId := by
    intro requestId hid hid'
    have hmem := hpast.given requestId hid
    rw [hin.given, (requestId_mem hlaw hid').2, List.mem_map] at hmem
    obtain ⟨n, hn, heq⟩ := hmem
    rw [requestIdOf_inj heq, List.mem_range] at hn
    exact lt_irrefl _ hn
  refine ⟨hids, fun k hk hk' => ?_, ?_, ?_⟩
  · have := hpast.turn k hk
    have := (replyTurn_bounds hlaw hk').1
    omega
  · rintro k requestId hk hid' ⟨message, hframe⟩
    obtain ⟨own, _, hid, hown⟩ := hpast.correlated.frame hk
    cases hframe.unique hown
    exact hids _ hid hid'
  · rintro k requestId hk hid ⟨message, hframe⟩
    obtain ⟨own, _, hid', hown⟩ := (RequestRecord.correlated hin hlaw).frame hk
    cases hframe.unique hown
    exact hids _ hid hid'

end RequestRecord

/-- The connection after a run, and the records of the run. -/
structure RunLaw (serde : Serde) (incoming : List ReceiveTurn) (records : List RequestRecord)
    (client : WebOsClient) : Prop where
  inOrder : InOrder client
  independent : records.Pairwise (RequestRecord.Independent serde incoming)
  past : ∀ r ∈ records, RequestRecord.Past serde incoming client r

/-- **Step.** One more request keeps all requests correlated and apart. -/
theorem RunLaw.step {records : List RequestRecord} {r : RequestRecord}
    (h : RunLaw serde incoming records r.before)
    (hlaw : RequestLaw serde incoming r.before r.after r.result) :
    RunLaw serde incoming (records ++ [r]) r.after := by
  refine ⟨h.inOrder.step hlaw, ?_, ?_⟩
  · refine List.pairwise_append.mpr
      ⟨h.independent, List.pairwise_singleton _ _, fun r₁ hr₁ r₂ hr₂ => ?_⟩
    cases List.mem_singleton.mp hr₂
    exact (h.past r₁ hr₁).independent h.inOrder hlaw
  · refine List.forall_mem_append.mpr ⟨fun r₁ hr₁ => (h.past r₁ hr₁).step hlaw, ?_⟩
    exact List.forall_mem_singleton.mpr (RequestRecord.past h.inOrder hlaw)

/-- **Run.** The law holds of any requests in a row. -/
theorem connection_runLaw (serde : Serde) (manifest : Json) (incoming : List ReceiveTurn)
    (requests : List (ClientRequest × RequestEnv)) :
    RunLaw serde incoming (outputs (connectionStep serde manifest incoming) {} requests)
      (exec (connectionStep serde manifest incoming) {} requests) := by
  refine exec_induct (P := fun requests client => RunLaw serde incoming
    (outputs (connectionStep serde manifest incoming) {} requests) client) {} ?_ ?_ requests
  · exact ⟨⟨rfl, rfl, rfl⟩, List.Pairwise.nil, fun _ h => absurd h List.not_mem_nil⟩
  · intro requests input ih
    rw [outputs_concat]
    exact ih.step (connectionStep_law _ input)

/-- **Response correlation.** Over every sequence of requests on a connection, and of turns. -/
theorem response_correlation (serde : Serde) (manifest : Json) (incoming : List ReceiveTurn)
    (requests : List (ClientRequest × RequestEnv)) :
    (outputs (connectionStep serde manifest incoming) {} requests).Pairwise
        (RequestRecord.Independent serde incoming)
      ∧ ∀ r ∈ outputs (connectionStep serde manifest incoming) {} requests,
          r.Correlated serde incoming := by
  have hrun := connection_runLaw serde manifest incoming requests
  exact ⟨hrun.independent, fun r hr => (hrun.past r hr).correlated⟩

end

end LgBuddy
