import Runact.RequestReply

namespace Runact.Runtime

/-!
# Which requests are resolved

The only sender of a reply channel travels in the request's envelope and then
stays in the context of the actor.  It is dropped with the next envelope of the
actor's type, not with the end of the handler call, so the last request an actor
has handled is resolved by a reply and by nothing else.
-/

universe u

variable {Value State Frame : Type u}

/-- The sender of the reply channel is in the context, in the mailbox, or in an
envelope on its way. -/
inductive HoldsSender
    (channel : Nat)
    (cell : ActorCell Value State Frame) : Prop where
  | context :
      cell.replySender = some channel →
      HoldsSender channel cell
  | mailbox (envelope : MessageEnvelope Value) :
      envelope ∈ cell.mailbox →
      envelope.replySender = some channel →
      HoldsSender channel cell
  | sending
      (draining : Bool) (target : Nat) (envelope : MessageEnvelope Value)
      (resume : Except RuntimeError Unit → Frame) :
      cell.position = .sending draining target envelope resume →
      envelope.replySender = some channel →
      HoldsSender channel cell

/-- A sender of the reply channel is alive. -/
def SenderAlive
    (runtime : Runtime Value State Frame)
    (channel : Nat) : Prop :=
  (∃ (index : Nat) (cell : ActorCell Value State Frame),
      runtime.cells[index]? = some cell ∧ HoldsSender channel cell) ∨
    ∃ waiting ∈ runtime.blocked,
      waiting.envelope.replySender = some channel

/-- The reply channel holds a reply, or its reply was received, or no sender of
it is alive. -/
def Resolved
    (log : List (RuntimeEvent Value))
    (runtime : Runtime Value State Frame)
    (channel : Nat) : Prop :=
  (∃ reply handleAlive,
      runtime.replies[channel]? =
        some { buffer := some reply, handleAlive := handleAlive }) ∨
    (∃ reply, .replyReceived channel reply ∈ log) ∨
    ¬ SenderAlive runtime channel

/-- The loop is between two envelopes. -/
def BetweenEnvelopes (cell : ActorCell Value State Frame) : Prop :=
  cell.position = .top ∨
    ∃ draining, cell.position = .atReceive draining

/-- The last envelope of its own type that the loop has taken. -/
def lastTyped
    (index : Nat)
    (messageType : TypeId)
    (log : List (RuntimeEvent Value)) : Option (MessageEnvelope Value) :=
  ((takenEnvelopes index log).filter fun envelope =>
    (envelope.payload.downcast messageType).isSome).getLast?

/-- What the context of an actor still keeps, between its handler calls too. -/
structure ContextKept
    (log : List (RuntimeEvent Value))
    (index : Nat)
    (cell : ActorCell Value State Frame) : Prop where
  kept :
    cell.position.isEnded = false →
    cell.replySender =
      (lastTyped index cell.actor.messageType log).bind
        MessageEnvelope.replySender
  dropped :
    cell.position.isEnded = true → cell.replySender = none

/-- Events without a take leave the last envelope as it is. -/
theorem lastTyped_append
    {index : Nat}
    {messageType : TypeId}
    {log events : List (RuntimeEvent Value)}
    (noneTaken : takenEnvelopes index events = []) :
    lastTyped index messageType (log ++ events) =
      lastTyped index messageType log := by
  simp only [lastTyped, takenEnvelopes, List.filterMap_append]
    at noneTaken ⊢
  rw [noneTaken, List.append_nil]

theorem lastTyped_taken
    {index : Nat}
    {messageType : TypeId}
    {envelope : MessageEnvelope Value}
    {log events : List (RuntimeEvent Value)}
    (taken : takenEnvelopes index events = [envelope]) :
    lastTyped index messageType (log ++ events) =
      if (envelope.payload.downcast messageType).isSome then some envelope
      else lastTyped index messageType log := by
  simp only [lastTyped, takenEnvelopes, List.filterMap_append]
    at taken ⊢
  rw [taken, List.filter_append, List.filter_singleton]
  split <;> simp_all

theorem contextKept_fresh
    {log : List (RuntimeEvent Value)}
    {index : Nat}
    (id : ActorId)
    (actor : Actor Value State Frame)
    (state : State)
    (notShown : ∀ event ∈ log, shownBy event ≠ some index) :
    ContextKept log index (ActorCell.new id actor state) where
  kept _ := by
    simp [lastTyped, (callSilent_of_notShown notShown).noneTaken,
      ActorCell.new]
  dropped _ := rfl

theorem contextKept_elsewhere :
    Elsewhere fun log index (cell : ActorCell Value State Frame) =>
      ContextKept log index cell := by
  intro log events index cell extra notShown keeps
  refine ⟨fun opened => ?_, keeps.dropped⟩
  rw [lastTyped_append (callSilent_of_notShown notShown).noneTaken]
  exact keeps.kept opened

/-- Every step of the loop keeps its context, or replaces it for a handler
call. -/
theorem contextKept_own :
    Own fun log index (cell : ActorCell Value State Frame) =>
      ContextKept log index cell := by
  intro log events index cell runtime after here effect keeps
  have wasOpen := effect.opened
  have unmoved
      {other moved : ActorCell Value State Frame}
      {runtime : Runtime Value State Frame}
      {change : ActorCell Value State Frame → ActorCell Value State Frame}
      (there : runtime.cells[index]? = some other)
      (changed : change other = moved)
      (sameActor : moved.actor = cell.actor)
      (sameSender : moved.replySender = cell.replySender)
      (noneTaken : takenEnvelopes index events = [])
      (opened : moved.position.isEnded = false) :
      ∃ moved,
        (runtime.modifyCell index change).cells[index]? = some moved ∧
          ContextKept (log ++ events) index moved := by
    refine ⟨moved, by rw [modifyCell_here change there, changed],
      fun _ => ?_, fun ended => ?_⟩
    · rw [sameSender, sameActor, lastTyped_append noneTaken]
      exact keeps.kept wasOpen
    · simp [opened] at ended
  cases effect with
  | called draining envelope rest message shape queue typed =>
      refine ⟨_, modifyCell_here _ here,
        fun _ => ?_, fun ended => by simp [LoopPosition.isEnded] at ended⟩
      have taken :
          takenEnvelopes index
              [.taken index envelope, .called index message] =
            [envelope] := by
        simp [takenEnvelopes]
      rw [lastTyped_taken taken]
      simp [typed]
  | skipped draining envelope rest reductions yields shape queue typed shown =>
      refine ⟨_, modifyCell_here _ here,
        fun _ => ?_, fun ended => by simp [LoopPosition.isEnded] at ended⟩
      have taken :
          takenEnvelopes index (.taken index envelope :: yields) =
            [envelope] := by
        rcases shown with rfl | rfl <;> simp [takenEnvelopes]
      rw [lastTyped_taken taken]
      simpa [typed] using keeps.kept wasOpen
  | returned draining frame state reductions yields shape action shown =>
      refine unmoved here rfl rfl rfl ?_ rfl
      rcases shown with rfl | rfl <;> simp [takenEnvelopes]
  | checked shape =>
      refine unmoved here rfl rfl rfl rfl ?_
      cases runtime.stop <;> rfl
  | sent draining channel envelope resume sent shape accepted =>
      obtain ⟨extra, there, -⟩ := OnlyExtended.offered accepted here
      exact unmoved there rfl rfl rfl rfl rfl
  | replied draining channel message resume shape empty =>
      have there :
          (runtime.setReply channel
            { buffer := some message, handleAlive := true }).cells[index]? =
            some cell := here
      exact unmoved there rfl rfl rfl rfl rfl
  | dropped shape =>
      refine ⟨_, modifyCell_here _ here,
        fun opened => ?_, fun _ => rfl⟩
      simp [ActorCell.drop, LoopPosition.isEnded] at opened
  | _ => exact unmoved here rfl rfl rfl rfl rfl

/-! ## What becomes of a reply -/

/-- A reply stays in its channel until it is received, or the handle is gone. -/
structure ChannelKept
    (log : List (RuntimeEvent Value))
    (channel : Nat)
    (reply : ReplyChannel Value) : Prop where
  emptied : reply.handleAlive = false → reply.buffer = none
  answered :
    ∀ index message,
      .replied index channel message ∈ log →
      reply.handleAlive = true →
      reply.buffer.isSome = true ∨
        ∃ message, .replyReceived channel message ∈ log

/-- All reply channels of the runtime keep what they were given. -/
def RepliesKept
    (log : List (RuntimeEvent Value))
    (runtime : Runtime Value State Frame) : Prop :=
  ∀ (channel : Nat) (reply : ReplyChannel Value),
    runtime.replies[channel]? = some reply → ChannelKept log channel reply

/-- Events without a reply for the channel. -/
theorem ChannelKept.append
    {log events : List (RuntimeEvent Value)}
    {channel : Nat}
    {reply : ReplyChannel Value}
    (kept : ChannelKept log channel reply)
    (unanswered : ∀ index message, .replied index channel message ∉ events) :
    ChannelKept (log ++ events) channel reply where
  emptied := kept.emptied
  answered index message member alive := by
    rcases List.mem_append.mp member with older | newest
    · rcases kept.answered index message older alive with holds | received
      · exact .inl holds
      · obtain ⟨message, received⟩ := received
        exact .inr ⟨message, List.mem_append_left events received⟩
    · exact absurd newest (unanswered index message)

namespace RepliesKept

variable {log events : List (RuntimeEvent Value)}
  {before after : Runtime Value State Frame}

theorem others
    (kept : RepliesKept log before)
    (sameReplies : after.replies = before.replies)
    (unanswered :
      ∀ index channel message, .replied index channel message ∉ events) :
    RepliesKept (log ++ events) after := by
  intro channel reply found
  rw [sameReplies] at found
  exact (kept channel reply found).append fun index message =>
    unanswered index channel message

/-- One channel is changed, and the others are left alone. -/
theorem changed
    {channel : Nat}
    {reply : ReplyChannel Value}
    (kept : RepliesKept log before)
    (set : after.replies = before.replies.set channel reply)
    (own : ChannelKept (log ++ events) channel reply)
    (unanswered :
      ∀ index other message,
        other ≠ channel → .replied index other message ∉ events) :
    RepliesKept (log ++ events) after := by
  intro other found shape
  rw [set, List.getElem?_set] at shape
  split at shape
  · rename_i same
    subst same
    split at shape
    · obtain rfl : reply = found := Option.some.inj shape
      exact own
    · cases shape
  · rename_i different
    exact (kept other found shape).append fun index message =>
      unanswered index other message (Ne.symm different)

/-- Every step keeps the replies. -/
theorem step
    (kept : RepliesKept log before)
    (fresh :
      ∀ index message,
        .replied index before.replies.length message ∉ log)
    (effect : RepliesEffect before after events) :
    RepliesKept (log ++ events) after := by
  cases effect with
  | silent events same silent => exact kept.others same silent.notReplied
  | opened events opened silent =>
      intro other reply shape
      rw [opened, List.getElem?_append] at shape
      split at shape
      · exact (kept other reply shape).append fun index message =>
          silent.notReplied index other message
      · rename_i outside
        rw [List.getElem?_singleton] at shape
        split at shape
        · obtain rfl : other = before.replies.length := by omega
          obtain rfl := Option.some.inj shape
          refine ⟨fun _ => rfl, fun index message member _ => ?_⟩
          rcases List.mem_append.mp member with older | newest
          · exact absurd older (fresh index message)
          · exact absurd newest (silent.notReplied _ _ _)
        · cases shape
  | replied index channel message empty set =>
      have own :
          ChannelKept
            (log ++ [.replied index channel message,
              .replyReturned index (.ok ())]) channel
            { buffer := some message, handleAlive := true } :=
        ⟨by simp, fun _ _ _ _ => .inl rfl⟩
      exact kept.changed set own (by simp +contextual)
  | received channel message found set =>
      exact kept.changed set
        ⟨fun _ => rfl, fun _ _ _ _ => .inr ⟨message, by simp⟩⟩ (by simp)
  | dropped channel buffer found set =>
      exact kept.changed set ⟨fun _ => rfl, by simp⟩ (by simp)

end RepliesKept

/-- Over every run, replies are kept for their handles. -/
theorem run_repliesKept
    {mailboxCapacity : Nat}
    {log : List (RuntimeEvent Value)}
    {runtime : Runtime Value State Frame}
    (run :
      Machine.Run (machine Value State Frame)
        (withConfig Value State Frame mailboxCapacity) log runtime) :
    RepliesKept log runtime := by
  induction run with
  | nil => simp [RepliesKept, withConfig]
  | snoc label earlier last inductionHypothesis =>
      refine inductionHypothesis.step (fun index message member => ?_)
        (effect_of_step last).repliesEffect
      obtain ⟨front, back, split⟩ := List.mem_iff_append.mp member
      obtain ⟨request, requested, -, same, -⟩ :=
        request_of_replied earlier split
      have numbered : request.channel ∈ (requests _).map Request.channel :=
        List.mem_map_of_mem requested
      rw [(run_requestsNumbered earlier).numbered, same] at numbered
      simp at numbered

/-! ## Where the sender of a reply channel is -/

section Run

variable {mailboxCapacity : Nat} {log : List (RuntimeEvent Value)}
  {runtime : Runtime Value State Frame}

/-- No two requests share a reply channel. -/
theorem request_unique
    (run :
      Machine.Run (machine Value State Frame)
        (withConfig Value State Frame mailboxCapacity) log runtime)
    {first second : Request Value}
    (firstMember : first ∈ requests log)
    (secondMember : second ∈ requests log)
    (same : first.channel = second.channel) :
    first = second := by
  have distinct : ((requests log).map Request.channel).Nodup := by
    rw [(run_requestsNumbered run).numbered]
    exact List.nodup_range
  exact List.inj_on_of_nodup_map distinct firstMember secondMember same

theorem acceptedEnvelopes_cons
    (index cell : Nat)
    (envelope : MessageEnvelope Value)
    (rest : List (RuntimeEvent Value)) :
    acceptedEnvelopes index (.accepted cell envelope :: rest) =
      if cell = index then envelope :: acceptedEnvelopes index rest
      else acceptedEnvelopes index rest := by
  split <;> simp_all [acceptedEnvelopes]

/-- The requests put into one mailbox are some of all requests, in order. -/
theorem accepted_channels_sublist
    (index : Nat)
    (log : List (RuntimeEvent Value)) :
    ((acceptedEnvelopes index log).filterMap MessageEnvelope.replySender).Sublist
      ((requests log).map Request.channel) := by
  induction log with
  | nil => exact .slnil
  | cons event rest inductionHypothesis =>
      cases event with
      | accepted cell envelope =>
          rw [acceptedEnvelopes_cons]
          cases envelope with
          | message message => split <;> exact inductionHypothesis
          | request requestId payload channel =>
              split
              · exact inductionHypothesis.cons_cons channel
              · exact inductionHypothesis.cons channel
      | _ => exact inductionHypothesis

/-- A request that was taken is in no mailbox any more. -/
theorem taken_not_queued
    (run :
      Machine.Run (machine Value State Frame)
        (withConfig Value State Frame mailboxCapacity) log runtime)
    {index channel : Nat}
    {cell : ActorCell Value State Frame}
    (here : runtime.cells[index]? = some cell)
    {taken queued : MessageEnvelope Value}
    (takenMember : taken ∈ takenEnvelopes index log)
    (queuedMember : queued ∈ cell.mailbox)
    (takenChannel : taken.replySender = some channel) :
    queued.replySender ≠ some channel := by
  intro queuedChannel
  obtain ⟨unseen, account⟩ := run_taken_accepted run index
  rw [mailboxView_of_some here] at account
  have distinct : ((requests log).map Request.channel).Nodup := by
    rw [(run_requestsNumbered run).numbered]
    exact List.nodup_range
  have apart := (accepted_channels_sublist index log).nodup distinct
  rw [account, List.filterMap_append, List.filterMap_append,
    List.append_assoc, List.nodup_append] at apart
  refine apart.2.2 channel ?_ channel ?_ rfl
  · exact List.mem_filterMap.mpr ⟨taken, takenMember, takenChannel⟩
  · exact List.mem_append_left _
      (List.mem_filterMap.mpr ⟨queued, queuedMember, queuedChannel⟩)

/-- What a loop has taken, as one of the requests. -/
theorem mem_requests_of_taken
    (run :
      Machine.Run (machine Value State Frame)
        (withConfig Value State Frame mailboxCapacity) log runtime)
    {index channel : Nat}
    {envelope : MessageEnvelope Value}
    (taken : envelope ∈ takenEnvelopes index log)
    (same : envelope.replySender = some channel) :
    ∃ request ∈ requests log,
      request.target = index ∧ request.channel = channel := by
  obtain ⟨unseen, account⟩ := run_taken_accepted run index
  cases envelope with
  | message message => cases same
  | request requestId payload replySender =>
      obtain rfl : replySender = channel := Option.some.inj same
      have accepted :
          .request requestId payload replySender ∈
            acceptedEnvelopes index log := by
        rw [account]
        simp only [List.append_assoc, List.mem_append]
        exact .inl taken
      exact ⟨_, mem_requests_of_accepted accepted, rfl, rfl⟩

theorem lastTyped_mem
    {index : Nat}
    {messageType : TypeId}
    {envelope : MessageEnvelope Value}
    (last : lastTyped index messageType log = some envelope) :
    envelope ∈ takenEnvelopes index log :=
  (List.mem_filter.mp (List.mem_of_getLast? last)).1

theorem run_contextKept
    (run :
      Machine.Run (machine Value State Frame)
        (withConfig Value State Frame mailboxCapacity) log runtime) :
    ∀ index cell,
      runtime.cells[index]? = some cell → ContextKept log index cell :=
  run_cells ContextKept contextKept_fresh contextKept_elsewhere
    contextKept_own run

/-- The context holds the reply sender of the last typed envelope. -/
theorem lastTyped_of_replySender
    (run :
      Machine.Run (machine Value State Frame)
        (withConfig Value State Frame mailboxCapacity) log runtime)
    {index channel : Nat}
    {cell : ActorCell Value State Frame}
    (here : runtime.cells[index]? = some cell)
    (holds : cell.replySender = some channel) :
    ∃ envelope,
      lastTyped index cell.actor.messageType log = some envelope ∧
        envelope.replySender = some channel := by
  have keeps := run_contextKept run index cell here
  have opened : cell.position.isEnded = false := by
    by_contra ended
    rw [keeps.dropped (by simpa using ended)] at holds
    cases holds
  rw [keeps.kept opened] at holds
  exact Option.bind_eq_some_iff.mp holds

/-- A request that was taken lives on in the context of its actor only. -/
theorem replySender_of_senderAlive
    (run :
      Machine.Run (machine Value State Frame)
        (withConfig Value State Frame mailboxCapacity) log runtime)
    {index channel : Nat}
    {cell : ActorCell Value State Frame}
    {envelope : MessageEnvelope Value}
    (here : runtime.cells[index]? = some cell)
    (taken : envelope ∈ takenEnvelopes index log)
    (same : envelope.replySender = some channel)
    (alive : SenderAlive runtime channel) :
    cell.replySender = some channel := by
  obtain ⟨request, member, target, channelSame⟩ :=
    mem_requests_of_taken run taken same
  have own
      {other : Nat}
      {sent : MessageEnvelope Value}
      (accepted : sent ∈ acceptedEnvelopes other log)
      (sentSame : sent.replySender = some channel) :
      other = index := by
    cases sent with
    | message message => cases sentSame
    | request requestId payload replySender =>
        have again :=
          request_unique run (mem_requests_of_accepted accepted) member
            ((Option.some.inj sentSame).trans channelSame.symm)
        rw [← target, ← again]
  rcases alive with ⟨other, cell', there, holds⟩ | ⟨waiting, waits, sent⟩
  · cases holds with
    | context kept =>
        obtain ⟨last, typed, lastSame⟩ :=
          lastTyped_of_replySender run there kept
        obtain ⟨unseen, account⟩ := run_taken_accepted run other
        have accepted : last ∈ acceptedEnvelopes other log := by
          rw [account]
          simp only [List.append_assoc, List.mem_append]
          exact .inl (lastTyped_mem typed)
        obtain rfl : other = index := own accepted lastSame
        obtain rfl : cell = cell' := by simpa [here] using there
        exact kept
    | mailbox queued queuedMember queuedSame =>
        obtain ⟨unseen, account⟩ := run_taken_accepted run other
        have accepted : queued ∈ acceptedEnvelopes other log := by
          rw [account, mailboxView_of_some there]
          simp only [List.append_assoc, List.mem_append]
          exact .inr (.inl queuedMember)
        obtain rfl : other = index := own accepted queuedSame
        exact absurd queuedSame
          (taken_not_queued run there taken queuedMember same)
    | sending draining target sent resume shape sentSame =>
        have message :=
          (run_contextFits run other cell' there).sending
            draining target sent resume shape
        rw [← replySender_isSome, sentSame] at message
        cases message
  · have message := (run_requestsNumbered run).blocked waiting waits
    rw [← replySender_isSome, sent] at message
    cases message

/-- A reply in the log was made by the loop that took the request. -/
theorem replied_by_taker
    (run :
      Machine.Run (machine Value State Frame)
        (withConfig Value State Frame mailboxCapacity) log runtime)
    {index other channel : Nat}
    {envelope : MessageEnvelope Value}
    {reply : AnyBox Value}
    (taken : envelope ∈ takenEnvelopes index log)
    (same : envelope.replySender = some channel)
    (replied : .replied other channel reply ∈ log) :
    .replied index channel reply ∈ log := by
  obtain ⟨earlier, later, split⟩ := List.mem_iff_append.mp replied
  obtain ⟨first, firstMember, rfl, firstSame, -⟩ :=
    request_of_replied run split
  obtain ⟨second, secondMember, rfl, secondSame⟩ :=
    mem_requests_of_taken run taken same
  obtain rfl :=
    request_unique run firstMember secondMember
      (firstSame.trans secondSame.symm)
  exact replied

/-- The last typed envelope the loop has taken is not a request, or its handler
call replied and the handle did not drop the reply unread. -/
def LastAnswered
    (log : List (RuntimeEvent Value))
    (runtime : Runtime Value State Frame)
    (index : Nat)
    (messageType : TypeId) : Prop :=
  ∀ envelope channel,
    lastTyped index messageType log = some envelope →
    envelope.replySender = some channel →
    (∃ reply, .replied index channel reply ∈ log) ∧
      ((∃ buffer,
          runtime.replies[channel]? =
            some { buffer := buffer, handleAlive := true }) ∨
        ∃ reply, .replyReceived channel reply ∈ log)

/--
Between two envelopes, every request a loop has taken is resolved exactly when
the last request it has handled was answered, or another message came after it.
-/
theorem requests_resolved_iff
    (run :
      Machine.Run (machine Value State Frame)
        (withConfig Value State Frame mailboxCapacity) log runtime)
    {index : Nat}
    {cell : ActorCell Value State Frame}
    (here : runtime.cells[index]? = some cell)
    (between : BetweenEnvelopes cell) :
    (∀ envelope ∈ takenEnvelopes index log, ∀ channel,
        envelope.replySender = some channel →
        Resolved log runtime channel) ↔
      LastAnswered log runtime index cell.actor.messageType := by
  have kept := run_repliesKept run
  constructor
  · intro resolved envelope channel last same
    have taken := lastTyped_mem last
    have opened : cell.position.isEnded = false := by
      rcases between with shape | ⟨draining, shape⟩
      · simp [shape, LoopPosition.isEnded]
      · cases draining <;>
          simp [shape, LoopPosition.atReceive, LoopPosition.isEnded]
    have context : cell.replySender = some channel := by
      rw [(run_contextKept run index cell here).kept opened, last]
      exact same
    rcases resolved envelope taken channel same with
      ⟨reply, handleAlive, found⟩ | ⟨reply, received⟩ | dead
    · obtain ⟨other, replied⟩ :=
        (run_attributed run).2 channel reply handleAlive found
      refine ⟨⟨reply, replied_by_taker run taken same replied⟩,
        .inl ⟨some reply, ?_⟩⟩
      cases handleAlive with
      | true => exact found
      | false => exact absurd ((kept channel _ found).emptied rfl) (by simp)
    · obtain ⟨earlier, later, split⟩ := List.mem_iff_append.mp received
      obtain ⟨other, replied⟩ :=
        (run_attributed run).1 earlier _ later split
      have repliedLog : .replied other channel reply ∈ log := by
        rw [split]
        exact List.mem_append_left _ replied
      exact ⟨⟨reply, replied_by_taker run taken same repliedLog⟩,
        .inr ⟨reply, received⟩⟩
    · exact absurd (.inl ⟨index, cell, here, .context context⟩) dead
  · intro answered envelope taken channel same
    by_cases alive : SenderAlive runtime channel
    · have context :=
        replySender_of_senderAlive run here taken same alive
      obtain ⟨last, typed, lastSame⟩ :=
        lastTyped_of_replySender run here context
      obtain ⟨⟨reply, replied⟩, ⟨buffer, found⟩ | received⟩ :=
        answered last channel typed lastSame
      · rcases (kept channel _ found).answered index reply replied rfl with
          holds | received
        · obtain ⟨message, shape⟩ := Option.isSome_iff_exists.mp holds
          obtain rfl : buffer = some message := shape
          exact .inl ⟨message, true, found⟩
        · exact .inr (.inl received)
      · exact .inr (.inl received)
    · exact .inr (.inr alive)

end Run

/-- An actor that ignores its messages. -/
def silent : Actor Nat Unit Unit where
  messageType := 0
  handle := fun _ _ => ()
  next := fun _ => .returns ()

/-- A request is handled, and the loop waits for the next envelope. -/
def unansweredRequest : List (Label Nat Unit Unit) :=
  [.spawn silent (), .claimRequest, .request 0 ⟨1⟩ ⟨0, 5⟩,
    .loop 0 0, .loop 0 0, .loop 0 0, .loop 0 0, .loop 0 0]

/-- With another message handled after it, the request is resolved. -/
theorem requests_resolved_iff_followed :
    ∃ runtime log cell,
      (machine Nat Unit Unit).run? (withConfig Nat Unit Unit 5)
          (unansweredRequest ++
            [.send ⟨1⟩ ⟨0, 6⟩, .loop 0 0, .loop 0 0, .loop 0 0]) =
          some (runtime, log) ∧
        runtime.cells[0]? = some cell ∧
        cell.position = .receiving ∧
        takenEnvelopes 0 log = [.request 0 ⟨0, 5⟩ 0, .message ⟨0, 6⟩] ∧
        ∀ envelope ∈ takenEnvelopes 0 log, ∀ channel,
          envelope.replySender = some channel →
          Resolved log runtime channel := by
  obtain ⟨runtime, log, cell, executed, here, waits, taken, last⟩ :
      ∃ runtime log cell,
        (machine Nat Unit Unit).run? (withConfig Nat Unit Unit 5)
            (unansweredRequest ++
              [.send ⟨1⟩ ⟨0, 6⟩, .loop 0 0, .loop 0 0, .loop 0 0]) =
            some (runtime, log) ∧
          runtime.cells[0]? = some cell ∧
          cell.position = .receiving ∧
          takenEnvelopes 0 log = [.request 0 ⟨0, 5⟩ 0, .message ⟨0, 6⟩] ∧
          lastTyped 0 cell.actor.messageType log =
            some (.message ⟨0, 6⟩) :=
    ⟨_, _, _, rfl, rfl, rfl, rfl, rfl⟩
  refine ⟨runtime, log, cell, executed, here, waits, taken,
    (requests_resolved_iff (Machine.run?_sound _ executed) here
      (.inr ⟨false, waits⟩)).mpr ?_⟩
  intro envelope channel typed same
  obtain rfl : .message ⟨0, 6⟩ = envelope := by simpa [last] using typed
  cases same

/-- A handled request that got no reply, and whose handle can only wait. -/
theorem request_unresolved :
    ∃ runtime log cell,
      (machine Nat Unit Unit).run? (withConfig Nat Unit Unit 5)
          unansweredRequest = some (runtime, log) ∧
        runtime.cells[0]? = some cell ∧
        cell.position = .receiving ∧
        .request 0 ⟨0, 5⟩ 0 ∈ takenEnvelopes 0 log ∧
        ¬ Resolved log runtime 0 := by
  obtain ⟨runtime, log, cell, executed, here, waits, taken, empty, context,
      unreceived⟩ :
      ∃ runtime log cell,
        (machine Nat Unit Unit).run? (withConfig Nat Unit Unit 5)
            unansweredRequest = some (runtime, log) ∧
          runtime.cells[0]? = some cell ∧
          cell.position = .receiving ∧
          takenEnvelopes 0 log = [.request 0 ⟨0, 5⟩ 0] ∧
          runtime.replies[0]? =
            some { buffer := none, handleAlive := true } ∧
          cell.replySender = some 0 ∧
          log =
            [.spawned ⟨1⟩ 0, .accepted 0 (.request 0 ⟨0, 5⟩ 0),
              .requestAnswered 0 (.ok 0), .taken 0 (.request 0 ⟨0, 5⟩ 0),
              .called 0 5, .handled 0] :=
    ⟨_, _, _, rfl, rfl, rfl, rfl, rfl, rfl, rfl⟩
  refine ⟨runtime, log, cell, executed, here, waits, by simp [taken], ?_⟩
  rintro (⟨reply, alive, holds⟩ | ⟨reply, received⟩ | dead)
  · simp [empty] at holds
  · simp [unreceived] at received
  · exact dead (.inl ⟨0, cell, here, .context context⟩)

end Runact.Runtime
