import Runact.RuntimeEffect
import Runact.MailboxDelivery

namespace Runact

/-!
# Requests and their replies

A request travels as an envelope with the sender of its reply channel, which the
loop puts into the actor's context when it calls the handler.  From the log of a
run one can read which envelope a handler call under way is on; the context of
the actor always agrees with it.
-/

universe u

/-- The envelope of a request. -/
def MessageEnvelope.isRequest
    {Value : Type u} : MessageEnvelope Value → Bool
  | .message _ => false
  | .request .. => true

namespace Runtime

variable {Value State Frame : Type u}

/-- A `request` call that has sent its envelope: the loop it went to, its
correlation id, its payload and the reply channel of its handle. -/
structure Request (Value : Type u) where
  target : Nat
  requestId : Nat
  payload : AnyBox Value
  channel : Nat

/-- The envelope of the request. -/
def Request.envelope (request : Request Value) : MessageEnvelope Value :=
  .request request.requestId request.payload request.channel

/-- The request an event puts into a mailbox, if it does. -/
def request? : RuntimeEvent Value → Option (Request Value)
  | .accepted target (.request requestId payload channel) =>
      some
        { target := target
          requestId := requestId
          payload := payload
          channel := channel }
  | _ => none

/-- The requests sent so far, in order. -/
def requests (log : List (RuntimeEvent Value)) : List (Request Value) :=
  log.filterMap request?

/-- The correlation id and the reply channel of a handle that is returned. -/
def handle? : RuntimeEvent Value → Option (Nat × Nat)
  | .requestAnswered requestId (.ok channel) => some (requestId, channel)
  | _ => none

/-- The handles returned so far, in order. -/
def handles (log : List (RuntimeEvent Value)) : List (Nat × Nat) :=
  log.filterMap handle?

/-- Whether an event begins or ends a handler call of the actor. -/
def callEdge? (index : Nat) : RuntimeEvent Value → Option Bool
  | .called cell _ => if cell = index then some true else none
  | .handled cell => if cell = index then some false else none
  | .panicked cell => if cell = index then some false else none
  | _ => none

/-- A handler call of the actor is under way, and it is on this envelope. -/
structure CallOn
    (index : Nat)
    (envelope : MessageEnvelope Value)
    (log : List (RuntimeEvent Value)) : Prop where
  underWay : (log.filterMap (callEdge? index)).getLast? = some true
  onEnvelope : (takenEnvelopes index log).getLast? = some envelope
  onPayload : (calledMessages index log).getLast? = some envelope.payload.value

/-- Events that concern no handler call of the actor. -/
structure CallSilent
    (index : Nat)
    (events : List (RuntimeEvent Value)) : Prop where
  noEdge : events.filterMap (callEdge? index) = []
  noneTaken : takenEnvelopes index events = []
  noneCalled : calledMessages index events = []

namespace CallOn

variable {index : Nat} {envelope : MessageEnvelope Value}
  {log events : List (RuntimeEvent Value)}

/-- At most one handler call of an actor is under way. -/
theorem unique
    {other : MessageEnvelope Value}
    (callOn : CallOn index envelope log)
    (again : CallOn index other log) :
    envelope = other := by
  have same := callOn.onEnvelope.symm.trans again.onEnvelope
  exact Option.some.inj same

/-- The loop has taken the envelope. -/
theorem mem_taken
    (callOn : CallOn index envelope log) :
    envelope ∈ takenEnvelopes index log :=
  List.mem_of_getLast? callOn.onEnvelope

/-- Other events leave the handler call under way. -/
theorem append
    (callOn : CallOn index envelope log)
    (silent : CallSilent index events) :
    CallOn index envelope (log ++ events) where
  underWay := by
    rw [List.filterMap_append, silent.noEdge, List.append_nil]
    exact callOn.underWay
  onEnvelope := by
    have noneTaken := silent.noneTaken
    have taken := callOn.onEnvelope
    simp only [takenEnvelopes, List.filterMap_append] at noneTaken taken ⊢
    rw [noneTaken, List.append_nil]
    exact taken
  onPayload := by
    have noneCalled := silent.noneCalled
    have called := callOn.onPayload
    simp only [calledMessages, List.filterMap_append] at noneCalled called ⊢
    rw [noneCalled, List.append_nil]
    exact called

/-- The loop takes an envelope and calls the handler on its payload. -/
theorem of_called
    {messageType : TypeId}
    {message : Value}
    (typed : envelope.payload.downcast messageType = some message) :
    CallOn index envelope
      (log ++ [.taken index envelope, .called index message]) := by
  have value := AnyBox.value_of_downcast typed
  constructor <;>
    simp [callEdge?, takenEnvelopes, calledMessages,
      List.filterMap_append, value]

end CallOn

/-- The context of an actor fits the handler call under way. -/
structure ContextFits
    (log : List (RuntimeEvent Value))
    (index : Nat)
    (cell : ActorCell Value State Frame) : Prop where
  call :
    cell.position.stage = .handling →
    ∃ envelope,
      CallOn index envelope log ∧
        cell.replySender = envelope.replySender
  /-- A reply on its way goes to the channel in the context. -/
  replying :
    ∀ draining channel message resume,
      cell.position = .replying draining channel message resume →
      cell.replySender = some channel
  /-- Actors send messages to each other, and no requests. -/
  sending :
    ∀ draining channel envelope resume,
      cell.position = .sending draining channel envelope resume →
      envelope.isRequest = false

theorem contextFits_idle
    {log : List (RuntimeEvent Value)}
    {index : Nat}
    {cell : ActorCell Value State Frame}
    (idle : cell.position.stage ≠ .handling) :
    ContextFits log index cell where
  call handling := absurd handling idle
  replying draining channel message resume shape := by
    simp [shape, LoopPosition.stage] at idle
  sending draining channel envelope resume shape := by
    simp [shape, LoopPosition.stage] at idle

/-- Events of others begin or end no call of the actor. -/
theorem callSilent_of_notShown
    {index : Nat}
    {events : List (RuntimeEvent Value)}
    (notShown : ∀ event ∈ events, shownBy event ≠ some index) :
    CallSilent index events where
  noEdge := by
    refine filterMap_of_notShown (fun {event edge} seen => ?_) notShown
    unfold callEdge? at seen
    split at seen
    -- the three edges of a call, and everything else
    iterate 3
      · split at seen
        · rename_i same
          exact congrArg some same
        · cases seen
    · cases seen
  noneTaken := takenEnvelopes_of_notShown notShown
  noneCalled := calledMessages_of_notShown notShown

theorem contextFits_elsewhere :
    Elsewhere fun log index (cell : ActorCell Value State Frame) =>
      ContextFits log index cell := by
  intro log events index cell extra notShown fits
  have silent := callSilent_of_notShown notShown
  refine ⟨fun handling => ?_, fits.replying, fits.sending⟩
  obtain ⟨envelope, callOn, same⟩ := fits.call handling
  exact ⟨envelope, callOn.append silent, same⟩

/-- A handler call goes on, with the same context. -/
theorem ContextFits.goOn
    {log events : List (RuntimeEvent Value)}
    {index : Nat}
    {cell moved : ActorCell Value State Frame}
    (fits : ContextFits log index cell)
    (handling : cell.position.stage = .handling)
    (sameSender : moved.replySender = cell.replySender)
    (silent : CallSilent index events)
    (replying :
      ∀ draining channel message resume,
        moved.position = .replying draining channel message resume →
        moved.replySender = some channel)
    (sending :
      ∀ draining channel envelope resume,
        moved.position = .sending draining channel envelope resume →
        envelope.isRequest = false) :
    ContextFits (log ++ events) index moved where
  call _ := by
    obtain ⟨envelope, callOn, same⟩ := fits.call handling
    exact ⟨envelope, callOn.append silent, sameSender.trans same⟩
  replying := replying
  sending := sending

/-- Every step of the loop keeps the context right. -/
theorem contextFits_own :
    Own fun log index (cell : ActorCell Value State Frame) =>
      ContextFits log index cell := by
  intro log events index cell runtime after here effect fits
  -- a call that goes on inside handler code
  have handles
      {runtime : Runtime Value State Frame}
      {other : ActorCell Value State Frame}
      {draining : Bool}
      {frame : Frame}
      (there : runtime.cells[index]? = some other)
      (sameSender : other.replySender = cell.replySender)
      (handling : cell.position.stage = .handling)
      (silent : CallSilent index events) :
      ∃ moved,
        (runtime.moveTo index (.handling draining frame)).cells[index]? =
            some moved ∧
          ContextFits (log ++ events) index moved := by
    refine ⟨_, modifyCell_here _ there,
      fits.goOn handling sameSender silent ?_ ?_⟩ <;> simp
  cases effect with
  | started shape running =>
      exact ⟨_, modifyCell_here _ here,
        contextFits_idle (by simp [LoopPosition.stage])⟩
  | checked shape =>
      refine ⟨_, modifyCell_here _ here, contextFits_idle ?_⟩
      cases runtime.stop <;>
        simp [LoopPosition.atReceive, LoopPosition.stage]
  | emptied shape queue =>
      exact ⟨_, modifyCell_here _ here,
        contextFits_idle (by simp [LoopPosition.stage])⟩
  | timedOut shape queue =>
      exact ⟨_, modifyCell_here _ here,
        contextFits_idle (by simp [LoopPosition.stage])⟩
  | called draining envelope rest message shape queue typed =>
      refine ⟨_, modifyCell_here _ here, fun _ => ?_, ?_, ?_⟩
      · exact ⟨envelope, .of_called typed, rfl⟩
      · simp
      · simp
  | skipped draining envelope rest reductions yields shape queue typed shown =>
      exact ⟨_, modifyCell_here _ here,
        contextFits_idle (by simp [LoopPosition.stage])⟩
  | returned draining frame state reductions yields shape action shown =>
      exact ⟨_, modifyCell_here _ here,
        contextFits_idle (by simp [LoopPosition.stage])⟩
  | panicked draining frame shape action =>
      exact ⟨_, modifyCell_here _ here,
        contextFits_idle (by simp [LoopPosition.stage])⟩
  | sendRefused draining frame target message resume shape action found =>
      exact handles here rfl (by simp [shape, LoopPosition.stage])
        ⟨rfl, rfl, rfl⟩
  | sendStarted draining frame target message resume channel shape action
      found =>
      refine ⟨_, modifyCell_here _ here,
        fits.goOn (by simp [shape, LoopPosition.stage]) rfl
          ⟨rfl, rfl, rfl⟩ ?_ ?_⟩
      · simp
      · simp only [LoopPosition.sending.injEq, and_imp]
        rintro _ _ _ _ - - rfl -
        rfl
  | sent draining channel envelope resume sent shape accepted =>
      obtain ⟨extra, there, -⟩ := OnlyExtended.offered accepted here
      exact handles there rfl (by simp [shape, LoopPosition.stage])
        ⟨rfl, rfl, rfl⟩
  | sendFailed draining channel envelope resume shape disconnected =>
      exact handles here rfl (by simp [shape, LoopPosition.stage])
        ⟨rfl, rfl, rfl⟩
  | replyIgnored draining frame message resume shape action kept =>
      exact handles here rfl (by simp [shape, LoopPosition.stage])
        ⟨rfl, rfl, rfl⟩
  | replyStarted draining frame message resume channel shape action kept =>
      refine ⟨_, modifyCell_here _ here,
        fits.goOn (by simp [shape, LoopPosition.stage]) rfl
          ⟨rfl, rfl, rfl⟩ ?_ ?_⟩
      · simp only [LoopPosition.replying.injEq, and_imp]
        rintro _ _ _ _ - rfl - -
        exact kept
      · simp
  | replied draining channel message resume shape empty =>
      exact handles here rfl (by simp [shape, LoopPosition.stage])
        ⟨rfl, rfl, rfl⟩
  | replyFailed draining channel message resume reply shape found gone =>
      exact handles here rfl (by simp [shape, LoopPosition.stage])
        ⟨rfl, rfl, rfl⟩
  | askedIsRequest draining frame resume shape action =>
      exact handles here rfl (by simp [shape, LoopPosition.stage])
        ⟨rfl, rfl, rfl⟩
  | computed draining frame resume answer shape action =>
      exact handles here rfl (by simp [shape, LoopPosition.stage])
        ⟨rfl, rfl, rfl⟩
  | dropped shape =>
      exact ⟨_, modifyCell_here _ here,
        contextFits_idle (by simp [ActorCell.drop, LoopPosition.stage])⟩

/-- Over every run, the contexts fit the handler calls under way. -/
theorem run_contextFits
    {mailboxCapacity : Nat}
    {log : List (RuntimeEvent Value)}
    {runtime : Runtime Value State Frame}
    (run :
      Machine.Run (machine Value State Frame)
        (withConfig Value State Frame mailboxCapacity) log runtime) :
    ∀ index cell,
      runtime.cells[index]? = some cell → ContextFits log index cell :=
  run_cells ContextFits
    (fun _ _ _ _ =>
      contextFits_idle (by simp [ActorCell.new, LoopPosition.stage]))
    contextFits_elsewhere contextFits_own run

/-! ## Requests are numbered by their reply channels -/

/-- The requests sent, their handles and their reply channels. -/
structure RequestsNumbered
    (log : List (RuntimeEvent Value))
    (runtime : Runtime Value State Frame) : Prop where
  numbered :
    (requests log).map Request.channel = List.range runtime.replies.length
  handled :
    handles log =
      (requests log).map fun request => (request.requestId, request.channel)
  blocked :
    ∀ waiting ∈ runtime.blocked, waiting.envelope.isRequest = false

namespace RequestsNumbered

variable {log events : List (RuntimeEvent Value)}
  {before after : Runtime Value State Frame}

/-- Steps that send no request. -/
theorem others
    (numbered : RequestsNumbered log before)
    (sameReplies : after.replies.length = before.replies.length)
    (noRequest : events.filterMap request? = [])
    (noHandle : events.filterMap handle? = [])
    (blocked :
      ∀ waiting ∈ after.blocked, waiting.envelope.isRequest = false) :
    RequestsNumbered (log ++ events) after where
  numbered := by
    rw [requests, List.filterMap_append, noRequest, List.append_nil,
      sameReplies]
    exact numbered.numbered
  handled := by
    rw [handles, requests, List.filterMap_append, List.filterMap_append,
      noRequest, noHandle, List.append_nil, List.append_nil]
    exact numbered.handled
  blocked := blocked

theorem request?_of_isRequest
    {target : Nat}
    {envelope : MessageEnvelope Value}
    (message : envelope.isRequest = false) :
    request? (.accepted target envelope) = none := by
  cases envelope with
  | message msg => rfl
  | request requestId payload replySender => cases message

/-- A loop sends no requests. -/
theorem loop
    {index : Nat}
    {cell : ActorCell Value State Frame}
    (numbered : RequestsNumbered log before)
    (fits : ContextFits log index cell)
    (effect : LoopEffect before index cell after events) :
    RequestsNumbered (log ++ events) after := by
  cases effect with
  | sent draining channel envelope resume sent shape accepted =>
      obtain ⟨target, -, -, -, rfl⟩ := offer_eq_accepted accepted
      have message := fits.sending draining channel envelope resume shape
      exact numbered.others rfl
        (List.filterMap_cons_none (request?_of_isRequest message)) rfl
        numbered.blocked
  | skipped draining envelope rest reductions yields shape queue typed shown =>
      rcases shown with rfl | rfl <;>
        exact numbered.others rfl rfl rfl numbered.blocked
  | returned draining frame state reductions yields shape action shown =>
      rcases shown with rfl | rfl <;>
        exact numbered.others rfl rfl rfl numbered.blocked
  | replied draining channel message resume shape empty =>
      exact numbered.others
        (by simp [moveTo, modifyCell, setReply]) rfl rfl numbered.blocked
  | _ => exact numbered.others rfl rfl rfl numbered.blocked

/-- Every step keeps the requests numbered. -/
theorem step
    (numbered : RequestsNumbered log before)
    (fits :
      ∀ index cell,
        before.cells[index]? = some cell → ContextFits log index cell)
    (effect : Effect before after events) :
    RequestsNumbered (log ++ events) after := by
  cases effect with
  | sent target channel message sent found accepted =>
      obtain ⟨cell, -, -, -, rfl⟩ := offer_eq_accepted accepted
      exact numbered.others rfl rfl rfl numbered.blocked
  | blocked target channel message fromTimer found =>
      refine numbered.others rfl rfl rfl fun waiting member => ?_
      rcases List.mem_append.mp member with older | newest
      · exact numbered.blocked waiting older
      · obtain rfl := List.mem_singleton.mp newest
        rfl
  | unblocked index waiting sent found accepted =>
      obtain ⟨cell, -, -, -, rfl⟩ := offer_eq_accepted accepted
      have message :=
        numbered.blocked waiting (List.mem_of_getElem? found)
      exact numbered.others rfl
        (List.filterMap_cons_none (request?_of_isRequest message)) rfl
        fun other member =>
          numbered.blocked other (List.mem_of_mem_eraseIdx member)
  | unblockedInVain index waiting found disconnected =>
      exact numbered.others rfl rfl rfl fun other member =>
        numbered.blocked other (List.mem_of_mem_eraseIdx member)
  | requested call requestId target channel message sent claimed found
      accepted =>
      obtain ⟨cell, -, -, -, rfl⟩ := offer_eq_accepted accepted
      constructor
      · simp [requests, List.filterMap_append, request?, List.range_succ,
          ← numbered.numbered]
      · have handled := numbered.handled
        simp only [handles, requests] at handled ⊢
        rw [List.filterMap_append, List.filterMap_append, List.map_append,
          handled]
        rfl
      · exact numbered.blocked
  | replyReceived channel reply found =>
      exact numbered.others (by simp [setReply]) rfl rfl numbered.blocked
  | handleDropped channel buffer found =>
      exact numbered.others (by simp [setReply]) rfl rfl numbered.blocked
  | looped index answer cell after events here step effect =>
      exact numbered.loop (fits index cell here) effect
  | _ => exact numbered.others rfl rfl rfl numbered.blocked

end RequestsNumbered

/-- Over every run, requests are numbered by their reply channels. -/
theorem run_requestsNumbered
    {mailboxCapacity : Nat}
    {log : List (RuntimeEvent Value)}
    {runtime : Runtime Value State Frame}
    (run :
      Machine.Run (machine Value State Frame)
        (withConfig Value State Frame mailboxCapacity) log runtime) :
    RequestsNumbered log runtime := by
  induction run with
  | nil => exact ⟨rfl, rfl, by simp [withConfig]⟩
  | snoc label earlier last inductionHypothesis =>
      exact inductionHypothesis.step (run_contextFits earlier)
        (effect_of_step last)

/-! ## Replies belong to the handler calls that made them -/

theorem replySender_isSome (envelope : MessageEnvelope Value) :
    envelope.replySender.isSome = envelope.isRequest := by
  cases envelope <;> rfl

/-- What an event about replies says of the log before it. -/
def Attributed
    (earlier : List (RuntimeEvent Value)) : RuntimeEvent Value → Prop
  | .replied index channel _ =>
      ∃ envelope,
        CallOn index envelope earlier ∧
          envelope.replySender = some channel
  | .toldIsRequest index answer =>
      ∃ envelope,
        CallOn index envelope earlier ∧ answer = envelope.isRequest
  | .replyReceived channel reply =>
      ∃ index, .replied index channel reply ∈ earlier
  | _ => True

/-- What is in a reply channel was put there by a reply. -/
def Held
    (log : List (RuntimeEvent Value))
    (runtime : Runtime Value State Frame) : Prop :=
  ∀ channel reply handleAlive,
    runtime.replies[channel]? =
        some { buffer := some reply, handleAlive := handleAlive } →
      ∃ index, .replied index channel reply ∈ log

namespace Held

variable {log events : List (RuntimeEvent Value)}
  {before after : Runtime Value State Frame}

theorem others
    (held : Held log before)
    (sameReplies : after.replies = before.replies)
    (events : List (RuntimeEvent Value)) :
    Held (log ++ events) after := by
  intro channel reply handleAlive found
  rw [sameReplies] at found
  obtain ⟨index, replied⟩ := held channel reply handleAlive found
  exact ⟨index, List.mem_append_left events replied⟩

/-- One channel is changed, and the others are left alone. -/
theorem changed
    {channel : Nat}
    {own : ReplyChannel Value}
    (held : Held log before)
    (set : after.replies = before.replies.set channel own)
    (replied :
      ∀ message,
        own.buffer = some message →
        ∃ index, .replied index channel message ∈ log ++ events) :
    Held (log ++ events) after := by
  intro other reply alive found
  rw [set, List.getElem?_set] at found
  split at found
  · rename_i same
    subst same
    split at found
    · obtain rfl := Option.some.inj found
      exact replied reply rfl
    · cases found
  · obtain ⟨index, replied⟩ := held other reply alive found
    exact ⟨index, List.mem_append_left _ replied⟩

/-- After every step the channels hold replies only. -/
theorem step
    (held : Held log before)
    (effect : RepliesEffect before after events) :
    Held (log ++ events) after := by
  cases effect with
  | silent events same silent => exact held.others same events
  | opened events opened silent =>
      intro other reply alive found
      rw [opened, List.getElem?_append] at found
      split at found
      · obtain ⟨index, replied⟩ := held other reply alive found
        exact ⟨index, List.mem_append_left _ replied⟩
      · have fresh := List.mem_of_getElem? found
        simp at fresh
  | replied index channel message empty set =>
      refine held.changed set fun other shape => ⟨index, ?_⟩
      obtain rfl := Option.some.inj shape
      simp
  | received channel message found set =>
      exact held.changed set nofun
  | dropped channel buffer found set =>
      exact held.changed set nofun

end Held

/-- A step of a loop attributes its replies. -/
theorem LoopEffect.attributed
    {log events : List (RuntimeEvent Value)}
    {before after : Runtime Value State Frame}
    {index : Nat}
    {cell : ActorCell Value State Frame}
    (effect : LoopEffect before index cell after events)
    (fits : ContextFits log index cell)
    (attributed : AtEach Attributed log) :
    AtEach Attributed (log ++ events) := by
  cases effect with
  | called draining envelope rest message shape queue typed =>
      exact attributed.append (by simp [Attributed])
  | skipped draining envelope rest reductions yields shape queue typed shown =>
      refine attributed.append ?_
      rcases shown with rfl | rfl <;> simp [Attributed]
  | returned draining frame state reductions yields shape action shown =>
      refine attributed.append ?_
      rcases shown with rfl | rfl <;> simp [Attributed]
  | replied draining channel message resume shape empty =>
      obtain ⟨envelope, callOn, same⟩ :=
        fits.call (by simp [shape, LoopPosition.stage])
      have kept := fits.replying draining channel message resume shape
      exact attributed.snoc_two ⟨envelope, callOn, same ▸ kept⟩ trivial
  | askedIsRequest draining frame resume shape action =>
      obtain ⟨envelope, callOn, same⟩ :=
        fits.call (by simp [shape, LoopPosition.stage])
      refine attributed.snoc ⟨envelope, callOn, ?_⟩
      rw [same, replySender_isSome]
  | _ =>
      exact attributed.append (by simp [Attributed])

/-- Every step attributes its replies. -/
theorem Effect.attributed
    {log events : List (RuntimeEvent Value)}
    {before after : Runtime Value State Frame}
    (effect : Effect before after events)
    (fits :
      ∀ index cell,
        before.cells[index]? = some cell → ContextFits log index cell)
    (attributed : AtEach Attributed log)
    (held : Held log before) :
    AtEach Attributed (log ++ events) := by
  cases effect with
  | replyReceived channel reply found =>
      exact attributed.snoc (held channel reply true found)
  | looped index answer cell after events here step effect =>
      exact effect.attributed (fits index cell here) attributed
  | _ =>
      exact attributed.append (by simp [Attributed])

/-- Over every run, replies are attributed to the calls that made them. -/
theorem run_attributed
    {mailboxCapacity : Nat}
    {log : List (RuntimeEvent Value)}
    {runtime : Runtime Value State Frame}
    (run :
      Machine.Run (machine Value State Frame)
        (withConfig Value State Frame mailboxCapacity) log runtime) :
    AtEach Attributed log ∧ Held log runtime := by
  induction run with
  | nil => exact ⟨.nil, by simp [Held, withConfig]⟩
  | snoc label earlier last inductionHypothesis =>
      obtain ⟨attributed, held⟩ := inductionHypothesis
      have effect := effect_of_step last
      exact ⟨effect.attributed (run_contextFits earlier) attributed held,
        held.step effect.repliesEffect⟩

/-- What a loop has taken was put into its mailbox before. -/
theorem run_taken_accepted
    {mailboxCapacity : Nat}
    {log : List (RuntimeEvent Value)}
    {runtime : Runtime Value State Frame}
    (run :
      Machine.Run (machine Value State Frame)
        (withConfig Value State Frame mailboxCapacity) log runtime)
    (index : Nat) :
    ∃ unseen,
      acceptedEnvelopes index log =
        takenEnvelopes index log ++
          (mailboxView index runtime).items ++ unseen := by
  have queueRun :=
    (mailboxSimulation Value State Frame index).run run trivial
  obtain ⟨unseen, account⟩ := (Fifo.run_accounts queueRun).2
  refine ⟨unseen, ?_⟩
  simpa [mailboxSimulation, enteredItems_mailboxEvents,
    leftItems_mailboxEvents, mailboxView, withConfig] using account

/-- A request's envelope in a mailbox was put there by the request. -/
theorem mem_requests_of_accepted
    {index requestId channel : Nat}
    {payload : AnyBox Value}
    {log : List (RuntimeEvent Value)}
    (accepted :
      .request requestId payload channel ∈ acceptedEnvelopes index log) :
    { target := index
      requestId := requestId
      payload := payload
      channel := channel : Request Value } ∈ requests log := by
  obtain ⟨event, member, shape⟩ := List.mem_filterMap.mp accepted
  refine List.mem_filterMap.mpr ⟨event, member, ?_⟩
  cases event with
  | accepted cell envelope =>
      obtain ⟨rfl, rfl⟩ : cell = index ∧
          envelope = .request requestId payload channel := by
        simpa using shape
      rfl
  | _ => simp at shape

/-- A handler call on a request's envelope is on the only request of its
channel. -/
theorem request_of_callOn
    {mailboxCapacity index requestId channel : Nat}
    {payload : AnyBox Value}
    {earlier log : List (RuntimeEvent Value)}
    {runtime : Runtime Value State Frame}
    (run :
      Machine.Run (machine Value State Frame)
        (withConfig Value State Frame mailboxCapacity) log runtime)
    (early : earlier <+: log)
    (callOn : CallOn index (.request requestId payload channel) earlier) :
    { target := index
      requestId := requestId
      payload := payload
      channel := channel : Request Value } ∈ requests log := by
  obtain ⟨later, rfl⟩ := early
  obtain ⟨unseen, account⟩ := run_taken_accepted run index
  apply mem_requests_of_accepted
  rw [account, takenEnvelopes, List.filterMap_append]
  simp only [List.append_assoc, List.mem_append]
  exact .inl callOn.mem_taken

/-- What the log of a run, and the state it leads to, say about replies. -/
structure RepliesOwn
    (log : List (RuntimeEvent Value))
    (runtime : Runtime Value State Frame) : Prop where
  /-- A handle belongs to the request with its correlation id. -/
  handled :
    handles log =
      (requests log).map fun request => (request.requestId, request.channel)
  /-- No two requests share a reply channel. -/
  distinct : ((requests log).map Request.channel).Nodup
  /-- What a handle gives was replied in the handler call on the payload of the
  handle's own request. -/
  received :
    ∀ request ∈ requests log, ∀ earlier reply later,
      log = earlier ++ .replyReceived request.channel reply :: later →
      ∃ before after,
        earlier =
            before ++ .replied request.target request.channel reply :: after ∧
          CallOn request.target request.envelope before
  /-- Nothing is received but from the handle of a request. -/
  receivedFrom :
    ∀ channel reply,
      .replyReceived channel reply ∈ log →
      ∃ request ∈ requests log, request.channel = channel
  /-- A reply reaches a channel only in a call on the channel's request. -/
  replied :
    ∀ earlier index channel reply later,
      log = earlier ++ .replied index channel reply :: later →
      ∃ request ∈ requests log,
        request.target = index ∧ request.channel = channel ∧
          CallOn index request.envelope earlier
  /-- A reply made while handling a fire-and-forget message goes nowhere. -/
  unanswered :
    ∀ index message,
      CallOn index (.message message) log →
      ∀ answer after events,
        runtime.loopStep? index answer = some (after, events) →
        after.replies = runtime.replies
  /-- `is_request` is right whenever it is asked. -/
  told :
    ∀ earlier index answer later,
      log = earlier ++ .toldIsRequest index answer :: later →
      ∃ envelope,
        CallOn index envelope earlier ∧ answer = envelope.isRequest
  /-- During a handler call, `is_request` would be right if it were asked. -/
  context :
    ∀ index cell,
      runtime.cells[index]? = some cell →
      cell.position.stage = .handling →
      ∃ envelope,
        CallOn index envelope log ∧
          cell.replySender.isSome = envelope.isRequest

/-- Only a reply changes the reply channels, and it needs a reply sender. -/
theorem LoopEffect.replies_eq
    {before after : Runtime Value State Frame}
    {index : Nat}
    {cell : ActorCell Value State Frame}
    {events : List (RuntimeEvent Value)}
    (effect : LoopEffect before index cell after events)
    (notReplying :
      ∀ draining channel message resume,
        cell.position ≠ .replying draining channel message resume) :
    after.replies = before.replies := by
  cases effect with
  | sent draining channel envelope resume sent shape accepted =>
      obtain ⟨target, -, -, -, rfl⟩ := offer_eq_accepted accepted
      rfl
  | replied draining channel message resume shape empty =>
      exact absurd shape (notReplying draining channel message resume)
  | _ => rfl

/-- A handler call is under way only while the loop is inside of it. -/
theorem replies_eq_of_message
    {mailboxCapacity index answer : Nat}
    {message : AnyBox Value}
    {log events : List (RuntimeEvent Value)}
    {runtime after : Runtime Value State Frame}
    (run :
      Machine.Run (machine Value State Frame)
        (withConfig Value State Frame mailboxCapacity) log runtime)
    (callOn : CallOn index (.message message) log)
    (step : runtime.loopStep? index answer = some (after, events)) :
    after.replies = runtime.replies := by
  obtain ⟨cell, here, effect⟩ := loopStep_cases step
  have fits := run_contextFits run index cell here
  refine effect.replies_eq fun draining channel reply resume shape => ?_
  obtain ⟨envelope, call, same⟩ :=
    fits.call (by simp [shape, LoopPosition.stage])
  obtain rfl := callOn.unique call
  have kept := fits.replying draining channel reply resume shape
  simp [same, MessageEnvelope.replySender] at kept

/-- A reply was made in a call on the only request of its channel. -/
theorem request_of_replied
    {mailboxCapacity index channel : Nat}
    {reply : AnyBox Value}
    {earlier later log : List (RuntimeEvent Value)}
    {runtime : Runtime Value State Frame}
    (run :
      Machine.Run (machine Value State Frame)
        (withConfig Value State Frame mailboxCapacity) log runtime)
    (split : log = earlier ++ .replied index channel reply :: later) :
    ∃ request ∈ requests log,
      request.target = index ∧ request.channel = channel ∧
        CallOn index request.envelope earlier := by
  obtain ⟨envelope, callOn, same⟩ :=
    (run_attributed run).1 earlier _ later split
  cases envelope with
  | message message => cases same
  | request requestId payload replySender =>
      obtain rfl : replySender = channel := Option.some.inj same
      exact ⟨_, request_of_callOn run ⟨_, split.symm⟩ callOn, rfl, rfl,
        callOn⟩

/--
Replies never cross: a value from the handle of a request was passed to `reply`
during the handler call on that request's payload, and `is_request` tells calls
on requests from calls on other messages.
-/
theorem replies_own
    {mailboxCapacity : Nat}
    {log : List (RuntimeEvent Value)}
    {runtime : Runtime Value State Frame}
    (run :
      Machine.Run (machine Value State Frame)
        (withConfig Value State Frame mailboxCapacity) log runtime) :
    RepliesOwn log runtime := by
  have numbered := run_requestsNumbered run
  have attributed := (run_attributed run).1
  have distinct : ((requests log).map Request.channel).Nodup := by
    rw [numbered.numbered]
    exact List.nodup_range
  have repliedBefore
      {earlier later : List (RuntimeEvent Value)}
      {channel : Nat}
      {reply : AnyBox Value}
      (split : log = earlier ++ .replyReceived channel reply :: later) :
      ∃ before index after,
        earlier = before ++ .replied index channel reply :: after ∧
          ∃ request ∈ requests log,
            request.target = index ∧ request.channel = channel ∧
              CallOn index request.envelope before := by
    obtain ⟨index, member⟩ := attributed earlier _ later split
    obtain ⟨before, after, rfl⟩ := List.mem_iff_append.mp member
    have early :
        log = before ++ .replied index channel reply ::
          (after ++ .replyReceived channel reply :: later) := by
      simpa using split
    exact ⟨before, index, after, rfl, request_of_replied run early⟩
  refine
    { handled := numbered.handled
      distinct := distinct
      received := fun request member earlier reply later split => ?_
      receivedFrom := fun channel reply member => ?_
      replied := fun earlier index channel reply later split =>
        request_of_replied run split
      unanswered := fun index message callOn answer after events step =>
        replies_eq_of_message run callOn step
      told := fun earlier index answer later split =>
        attributed earlier _ later split
      context := fun index cell here handling => ?_ }
  · obtain ⟨before, index, after, shape, other, otherMember, rfl, same,
      callOn⟩ := repliedBefore split
    obtain rfl : other = request :=
      List.inj_on_of_nodup_map distinct otherMember member same
    exact ⟨before, after, shape, callOn⟩
  · obtain ⟨earlier, later, split⟩ := List.mem_iff_append.mp member
    obtain ⟨-, -, -, -, request, requested, -, same, -⟩ :=
      repliedBefore split
    exact ⟨request, requested, same⟩
  · obtain ⟨envelope, callOn, same⟩ :=
      (run_contextFits run index cell here).call handling
    exact ⟨envelope, callOn, by rw [same, replySender_isSome]⟩

/-- An actor that replies to every message with the sum so far, after asking
whether it was a request. -/
def accumulator : Actor Nat Nat (Nat × Nat) where
  messageType := 0
  handle := fun state message => (3, state + message)
  next
    | (0, state) => .returns state
    | (1, state) => .returns state
    | (2, state) => .reply ⟨0, state⟩ fun _ => (1, state)
    | (_, state) => .isRequest fun _ => (2, state)

/-- Two requests with a message and a foreign payload between them; the replies
are received in the other order. -/
def crossedReplies : List (Label Nat Nat (Nat × Nat)) :=
  [.spawn accumulator 0, .claimRequest, .claimRequest,
    .request 1 ⟨1⟩ ⟨0, 5⟩, .send ⟨1⟩ ⟨0, 7⟩, .send ⟨1⟩ ⟨9, 1⟩,
    .request 0 ⟨1⟩ ⟨0, 4⟩] ++
  List.replicate 21 (.loop 0 0) ++
  [.receiveReply 1, .receiveReply 0]

theorem replies_own_crossed :
    ∃ runtime log,
      (machine _ _ _).run? (withConfig _ _ _ 5) crossedReplies =
          some (runtime, log) ∧
        .replyReceived 1 ⟨0, 16⟩ ∈ log ∧
        .replyReceived 0 ⟨0, 5⟩ ∈ log ∧
        .toldIsRequest 0 false ∈ log ∧
        RepliesOwn log runtime := by
  obtain ⟨runtime, log, executed, late, early, told⟩ :
      ∃ runtime log,
        (machine _ _ _).run? (withConfig _ _ _ 5) crossedReplies =
            some (runtime, log) ∧
          log[27]? = some (.replyReceived 1 ⟨0, 16⟩) ∧
          log[28]? = some (.replyReceived 0 ⟨0, 5⟩) ∧
          log[17]? = some (.toldIsRequest 0 false) :=
    ⟨_, _, rfl, rfl, rfl, rfl⟩
  exact ⟨runtime, log, executed, List.mem_of_getElem? late,
    List.mem_of_getElem? early, List.mem_of_getElem? told,
    replies_own (Machine.run?_sound _ executed)⟩

end Runtime

end Runact
