import Runact.RequestResolution

namespace Runact.Runtime

/-!
# One reply for each request

The reply channel has room for one reply, and the handle can be asked again.
Nothing keeps a handler from replying twice: while the first reply is unread the
second one waits for the requester, and when it was read the requester can read
the second one too.
-/

universe u

variable {Value State Frame : Type u}

/-- No call of `reply` waits for the requester, and no requester gets more than
the first reply. -/
structure OneShot
    (log : List (RuntimeEvent Value))
    (runtime : Runtime Value State Frame) : Prop where
  returns :
    ∀ index cell draining channel message resume,
      runtime.cells[index]? = some cell →
      cell.position = .replying draining channel message resume →
      ∃ after events result,
        (∀ answer, runtime.loopStep? index answer = some (after, events)) ∧
          .replyReturned index result ∈ events
  atMostFirst :
    ∀ channel, receivedFrom channel log <+: (repliesOn channel log).take 1

/-- The handle was dropped. -/
def HandleDropped
    (runtime : Runtime Value State Frame)
    (channel : Nat) : Prop :=
  ∃ buffer,
    runtime.replies[channel]? = some { buffer := buffer, handleAlive := false }

/-- The step is no `reply` to a request that was replied to, unless its handle
was dropped. -/
def RepliesOnce
    (log : List (RuntimeEvent Value))
    (runtime : Runtime Value State Frame) :
    Label Value State Frame → Prop
  | .loop index _ =>
      match runtime.cells[index]? with
      | none => True
      | some cell =>
          match cell.position with
          | .handling _ frame =>
              match cell.actor.next frame, cell.replySender with
              | .reply _ _, some channel =>
                  repliesOn channel log = [] ∨ HandleDropped runtime channel
              | _, _ => True
          | _ => True
  | _ => True

/-! ## Replies and receptions in order -/

section Order

variable {log events : List (RuntimeEvent Value)} {channel : Nat}
  {before after : Runtime Value State Frame}

theorem repliesOn_append :
    repliesOn channel (log ++ events) =
      repliesOn channel log ++ repliesOn channel events :=
  List.filterMap_append

theorem receivedFrom_append :
    receivedFrom channel (log ++ events) =
      receivedFrom channel log ++ receivedFrom channel events :=
  List.filterMap_append

/-- A reply channel gives its replies in order, each once: what was received is
what was replied, but for the reply it still holds. -/
def InOrder
    (log : List (RuntimeEvent Value))
    (channel : Nat) : Option (ReplyChannel Value) → Prop
  | none => repliesOn channel log = [] ∧ receivedFrom channel log = []
  | some { buffer := buffer, handleAlive := true } =>
      repliesOn channel log = receivedFrom channel log ++ buffer.toList
  | some { buffer := _, handleAlive := false } =>
      receivedFrom channel log <+: repliesOn channel log

theorem InOrder.receivedFirst
    {reply : Option (ReplyChannel Value)}
    (ordered : InOrder log channel reply) :
    receivedFrom channel log <+: repliesOn channel log := by
  rcases reply with - | ⟨buffer, - | -⟩
  · rw [ordered.1, ordered.2]
  · exact ordered
  · rw [ordered]
    exact List.prefix_append _ _

theorem InOrder.silent
    {reply : Option (ReplyChannel Value)}
    (ordered : InOrder log channel reply)
    (noneReplied : repliesOn channel events = [])
    (noneReceived : receivedFrom channel events = []) :
    InOrder (log ++ events) channel reply := by
  rcases reply with - | ⟨buffer, - | -⟩ <;>
    simpa [InOrder, repliesOn_append, receivedFrom_append, noneReplied,
      noneReceived] using ordered

/-- All reply channels are in order. -/
def AllInOrder
    (log : List (RuntimeEvent Value))
    (runtime : Runtime Value State Frame) : Prop :=
  ∀ channel, InOrder log channel runtime.replies[channel]?

/-- One channel is changed, and the others are left alone. -/
theorem AllInOrder.changed
    {reply : ReplyChannel Value}
    (ordered : AllInOrder log before)
    (inside : channel < before.replies.length)
    (set : after.replies = before.replies.set channel reply)
    (own : InOrder (log ++ events) channel (some reply))
    (noneReplied : ∀ other, other ≠ channel → repliesOn other events = [])
    (noneReceived : ∀ other, other ≠ channel → receivedFrom other events = []) :
    AllInOrder (log ++ events) after := by
  intro other
  rw [set]
  by_cases same : other = channel
  · subst same
    simpa [List.getElem?_set, inside] using own
  · rw [List.getElem?_set_ne (Ne.symm same)]
    exact (ordered other).silent (noneReplied other same)
      (noneReceived other same)

/-- Every step keeps the channels in order. -/
theorem RepliesEffect.inOrder
    (effect : RepliesEffect before after events)
    (ordered : AllInOrder log before) :
    AllInOrder (log ++ events) after := by
  cases effect with
  | silent events same silent =>
      intro other
      rw [same]
      exact (ordered other).silent (silent.noneReplied other)
        (silent.noneReceived other)
  | opened events opened silent =>
      intro other
      have kept :=
        (ordered other).silent (silent.noneReplied other)
          (silent.noneReceived other)
      rw [opened]
      by_cases fresh : other = before.replies.length
      · subst fresh
        simp only [List.getElem?_eq_none (Nat.le_refl _)] at kept
        simp [InOrder, kept.1, kept.2]
      · rw [List.getElem?_append]
        split
        · exact kept
        · have outside : before.replies.length ≤ other := by omega
          rw [List.getElem?_eq_none outside] at kept
          rw [List.getElem?_eq_none (by simp; omega)]
          exact kept
  | replied index channel message empty set =>
      have inside := (List.getElem?_eq_some_iff.mp empty).1
      have earlier := ordered channel
      rw [empty] at earlier
      have own :
          InOrder
            (log ++ [.replied index channel message,
              .replyReturned index (.ok ())]) channel
            (some { buffer := some message, handleAlive := true }) := by
        simpa [InOrder, repliesOn_append, receivedFrom_append, repliesOn,
          receivedFrom] using earlier
      have noneReplied (other : Nat) (different : other ≠ channel) :
          repliesOn other [.replied index channel message,
            .replyReturned index (.ok ())] = [] := by
        simp [repliesOn, Ne.symm different]
      exact ordered.changed inside set own noneReplied fun _ _ => rfl
  | received channel message held set =>
      have inside := (List.getElem?_eq_some_iff.mp held).1
      have earlier := ordered channel
      rw [held] at earlier
      have own :
          InOrder (log ++ [.replyReceived channel message]) channel
            (some { buffer := none, handleAlive := true }) := by
        simpa [InOrder, repliesOn_append, receivedFrom_append, repliesOn,
          receivedFrom] using earlier
      have noneReceived (other : Nat) (different : other ≠ channel) :
          receivedFrom other [.replyReceived channel message] = [] := by
        simp [receivedFrom, Ne.symm different]
      exact ordered.changed inside set own (fun _ _ => rfl) noneReceived
  | dropped channel buffer held set =>
      have inside := (List.getElem?_eq_some_iff.mp held).1
      have own :
          InOrder (log ++ []) channel
            (some { buffer := none, handleAlive := false }) := by
        simpa [InOrder] using (ordered channel).receivedFirst
      exact ordered.changed inside set own (fun _ _ => rfl) fun _ _ => rfl

/-- A dropped handle stays dropped. -/
theorem RepliesEffect.handleDropped
    (effect : RepliesEffect before after events)
    (dropped : HandleDropped before channel) :
    HandleDropped after channel := by
  obtain ⟨buffer, gone⟩ := dropped
  have kept
      {other : Nat}
      {reply found : ReplyChannel Value}
      (shape : before.replies[other]? = some found)
      (alive : found.handleAlive = true)
      (set : after.replies = before.replies.set other reply) :
      HandleDropped after channel := by
    have different : other ≠ channel := by
      rintro rfl
      obtain rfl := Option.some.inj (shape.symm.trans gone)
      cases alive
    exact ⟨buffer, by rw [set, List.getElem?_set_ne different, gone]⟩
  cases effect with
  | silent events same silent => exact ⟨buffer, by rw [same, gone]⟩
  | opened events opened silent =>
      have inside := (List.getElem?_eq_some_iff.mp gone).1
      exact ⟨buffer, by rw [opened, List.getElem?_append_left inside, gone]⟩
  | replied index other message empty set => exact kept empty rfl set
  | received other message held set => exact kept held rfl set
  | dropped other held shape set => exact kept shape rfl set

end Order

/-- Over every run, what was received is what was replied, but for the reply
that is still in the channel. -/
theorem run_inOrder
    {mailboxCapacity : Nat}
    {log : List (RuntimeEvent Value)}
    {runtime : Runtime Value State Frame}
    (run :
      Machine.Run (machine Value State Frame)
        (withConfig Value State Frame mailboxCapacity) log runtime) :
    AllInOrder log runtime := by
  induction run with
  | nil => exact fun channel => ⟨rfl, rfl⟩
  | snoc label earlier last inductionHypothesis =>
      exact (effect_of_step last).repliesEffect.inOrder inductionHypothesis

/-- What was replied to a live handle was received, or is still in its
channel. -/
theorem repliesOn_of_alive
    {mailboxCapacity channel : Nat}
    {log : List (RuntimeEvent Value)}
    {runtime : Runtime Value State Frame}
    {buffer : Option (AnyBox Value)}
    (run :
      Machine.Run (machine Value State Frame)
        (withConfig Value State Frame mailboxCapacity) log runtime)
    (found :
      runtime.replies[channel]? =
        some { buffer := buffer, handleAlive := true }) :
    repliesOn channel log = receivedFrom channel log ++ buffer.toList := by
  have ordered := run_inOrder run channel
  rwa [found] at ordered

/-! ## Who can reply to a request -/

section Run

variable {mailboxCapacity : Nat} {log : List (RuntimeEvent Value)}
  {runtime : Runtime Value State Frame}

/-- The reply sender in a context is that of a request to this actor. -/
theorem request_of_replySender
    (run :
      Machine.Run (machine Value State Frame)
        (withConfig Value State Frame mailboxCapacity) log runtime)
    {index channel : Nat}
    {cell : ActorCell Value State Frame}
    (here : runtime.cells[index]? = some cell)
    (holds : cell.replySender = some channel) :
    ∃ request ∈ requests log,
      request.target = index ∧ request.channel = channel := by
  obtain ⟨envelope, last, same⟩ := lastTyped_of_replySender run here holds
  exact mem_requests_of_taken run (lastTyped_mem last) same

/-- No two actors can reply to one request. -/
theorem replySender_unique
    (run :
      Machine.Run (machine Value State Frame)
        (withConfig Value State Frame mailboxCapacity) log runtime)
    {first second channel : Nat}
    {cell other : ActorCell Value State Frame}
    (here : runtime.cells[first]? = some cell)
    (holds : cell.replySender = some channel)
    (there : runtime.cells[second]? = some other)
    (again : other.replySender = some channel) :
    first = second := by
  obtain ⟨one, oneMember, rfl, oneChannel⟩ :=
    request_of_replySender run here holds
  obtain ⟨two, twoMember, rfl, twoChannel⟩ :=
    request_of_replySender run there again
  have same :=
    request_unique run oneMember twoMember (oneChannel.trans twoChannel.symm)
  rw [same]

/-- The channel of a reply sender is there. -/
theorem channel_of_replySender
    (run :
      Machine.Run (machine Value State Frame)
        (withConfig Value State Frame mailboxCapacity) log runtime)
    {index channel : Nat}
    {cell : ActorCell Value State Frame}
    (here : runtime.cells[index]? = some cell)
    (holds : cell.replySender = some channel) :
    ∃ reply, runtime.replies[channel]? = some reply := by
  obtain ⟨request, member, -, rfl⟩ := request_of_replySender run here holds
  have numbered : request.channel ∈ (requests log).map Request.channel :=
    List.mem_map_of_mem member
  rw [(run_requestsNumbered run).numbered, List.mem_range] at numbered
  exact ⟨_, List.getElem?_eq_getElem numbered⟩

end Run

/-! ## One reply each -/

section Steps

variable {before after : Runtime Value State Frame}
  {label : Label Value State Frame} {events : List (RuntimeEvent Value)}

/-- A loop is inside of `reply` after its step because it called it then. -/
theorem LoopEffect.replying
    {index : Nat}
    {cell moved : ActorCell Value State Frame}
    {draining : Bool}
    {channel : Nat}
    {message : AnyBox Value}
    {resume : Except RuntimeError Unit → Frame}
    (effect : LoopEffect before index cell after events)
    (here : before.cells[index]? = some cell)
    (there : after.cells[index]? = some moved)
    (inside : moved.position = .replying draining channel message resume) :
    ∃ frame,
      cell.position = .handling draining frame ∧
        cell.actor.next frame = .reply message resume ∧
        cell.replySender = some channel ∧
        events = [] ∧
        after.replies = before.replies := by
  cases effect with
  | replyStarted drains frame reply goOn target shape action kept =>
      simp only [moveTo, modifyCell_cells, here, ↓reduceIte, Option.map_some,
        Option.some.injEq] at there
      subst there
      simp only [LoopPosition.replying.injEq] at inside
      obtain ⟨rfl, rfl, rfl, rfl⟩ := inside
      exact ⟨frame, shape, action, kept, rfl, rfl⟩
  | sent drains target envelope goOn sent shape accepted =>
      obtain ⟨other, -, -, -, rfl⟩ := offer_eq_accepted accepted
      simp only [moveTo, modifyCell_cells, here, ↓reduceIte] at there
      split at there <;>
        · simp only [Option.map_some, Option.some.injEq] at there
          subst there
          cases inside
  | checked shape =>
      simp only [moveTo, modifyCell_cells, here, ↓reduceIte, Option.map_some,
        Option.some.injEq] at there
      subst there
      cases running : before.stop <;>
        simp [running, LoopPosition.atReceive] at inside
  | replied drains target reply goOn shape empty =>
      simp only [moveTo, modifyCell_cells, setReply, here, ↓reduceIte,
        Option.map_some, Option.some.injEq] at there
      subst there
      cases inside
  | _ =>
      simp only [moveTo, modifyCell_cells, here, ↓reduceIte, Option.map_some,
        Option.some.injEq, ActorCell.drop] at there
      subst there
      cases inside

/-- What a loop replies, it replies from inside of `reply`, into an empty
channel. -/
theorem LoopEffect.repliesOn_cases
    {index : Nat}
    {cell : ActorCell Value State Frame}
    (effect : LoopEffect before index cell after events) :
    (∀ channel, repliesOn channel events = []) ∨
      ∃ draining channel message resume,
        cell.position = .replying draining channel message resume ∧
          before.replies[channel]? =
            some { buffer := none, handleAlive := true } ∧
          events =
            [.replied index channel message, .replyReturned index (.ok ())] := by
  cases effect with
  | replied draining channel message resume shape empty =>
      exact .inr ⟨draining, channel, message, resume, shape, empty, rfl⟩
  | skipped draining envelope rest reductions yields shape queue typed shown =>
      rcases shown with rfl | rfl <;> exact .inl fun _ => rfl
  | returned draining frame state reductions yields shape action shown =>
      rcases shown with rfl | rfl <;> exact .inl fun _ => rfl
  | _ => exact .inl fun _ => rfl

/-- A step replies to nobody, or is that of a loop inside of `reply`. -/
theorem repliesOn_of_step
    (step :
      (machine Value State Frame).step? before label = some (after, events)) :
    (∀ channel, repliesOn channel events = []) ∨
      ∃ index answer cell draining channel message resume,
        label = .loop index answer ∧
          before.cells[index]? = some cell ∧
          cell.position = .replying draining channel message resume ∧
          before.replies[channel]? =
            some { buffer := none, handleAlive := true } ∧
          events =
            [.replied index channel message, .replyReturned index (.ok ())] := by
  by_cases own : ∃ index answer, label = .loop index answer
  · obtain ⟨index, answer, rfl⟩ := own
    obtain ⟨cell, here, effect⟩ := loopStep_cases step
    obtain silent | ⟨draining, channel, message, resume, replies⟩ :=
      effect.repliesOn_cases
    · exact .inl silent
    · exact .inr ⟨index, answer, cell, draining, channel, message, resume, rfl,
        here, replies⟩
  · refine .inl fun channel => ?_
    have notLoop (index answer : Nat) : label ≠ .loop index answer :=
      fun same => own ⟨index, answer, same⟩
    refine List.filterMap_eq_nil_iff.mpr fun event member => ?_
    have notShown := (otherStep_shows step notLoop event member).1
    cases event with
    | replied index target message => cases notShown
    | _ => rfl

end Steps

/-- Every request has at most one reply, and whoever is inside of `reply` is to
give the first one, or the handle was dropped. -/
structure RepliedOnce
    (log : List (RuntimeEvent Value))
    (runtime : Runtime Value State Frame) : Prop where
  once : ∀ channel, (repliesOn channel log).length ≤ 1
  first :
    ∀ (index : Nat) (cell : ActorCell Value State Frame) draining channel
        message resume,
      runtime.cells[index]? = some cell →
      cell.position = .replying draining channel message resume →
      repliesOn channel log = [] ∨ HandleDropped runtime channel

section Once

variable {mailboxCapacity : Nat} {log events : List (RuntimeEvent Value)}
  {runtime before after : Runtime Value State Frame}
  {label : Label Value State Frame}

/-- A loop that is inside of `reply` holds the reply sender it uses. -/
theorem replySender_of_replying
    (run :
      Machine.Run (machine Value State Frame)
        (withConfig Value State Frame mailboxCapacity) log runtime)
    {index : Nat}
    {cell : ActorCell Value State Frame}
    {draining : Bool}
    {channel : Nat}
    {message : AnyBox Value}
    {resume : Except RuntimeError Unit → Frame}
    (here : runtime.cells[index]? = some cell)
    (inside : cell.position = .replying draining channel message resume) :
    cell.replySender = some channel :=
  (run_contextFits run index cell here).replying
    draining channel message resume inside

/-- A reply that goes through is the first one. -/
theorem RepliedOnce.step_once
    (replied : RepliedOnce log before)
    (step :
      (machine Value State Frame).step? before label = some (after, events))
    (channel : Nat) :
    (repliesOn channel (log ++ events)).length ≤ 1 := by
  rw [repliesOn_append]
  obtain silent | ⟨index, answer, cell, draining, target, message, resume, rfl,
    here, inside, empty, rfl⟩ := repliesOn_of_step step
  · rw [silent, List.append_nil]
    exact replied.once channel
  · by_cases same : target = channel
    · subst same
      obtain none | ⟨buffer, dropped⟩ :=
        replied.first index cell draining target message resume here inside
      · rw [none]
        simp [repliesOn]
      · rw [empty] at dropped
        cases dropped
    · have once := replied.once channel
      simpa [repliesOn, same] using once

/-- A loop that is inside of `reply` after a step gives the first reply. -/
theorem RepliedOnce.step_first
    (run :
      Machine.Run (machine Value State Frame)
        (withConfig Value State Frame mailboxCapacity) log before)
    (replied : RepliedOnce log before)
    (once : RepliesOnce log before label)
    (step :
      (machine Value State Frame).step? before label = some (after, events))
    {index : Nat}
    {cell : ActorCell Value State Frame}
    {draining : Bool}
    {channel : Nat}
    {message : AnyBox Value}
    {resume : Except RuntimeError Unit → Frame}
    (there : after.cells[index]? = some cell)
    (inside : cell.position = .replying draining channel message resume) :
    repliesOn channel (log ++ events) = [] ∨ HandleDropped after channel := by
  have kept (dropped : HandleDropped before channel) :
      HandleDropped after channel :=
    (effect_of_step step).repliesEffect.handleDropped dropped
  by_cases own : ∃ answer, label = .loop index answer
  · obtain ⟨answer, rfl⟩ := own
    obtain ⟨old, here, effect⟩ := loopStep_cases step
    obtain ⟨frame, handling, action, holds, rfl, sameReplies⟩ :=
      effect.replying here there inside
    simp only [RepliesOnce, here, handling, action, holds] at once
    rw [List.append_nil]
    exact once.imp_right kept
  · have notOwn (answer : Nat) : label ≠ .loop index answer :=
      fun same => own ⟨answer, same⟩
    obtain ⟨old, here⟩ | ⟨id, actor, state, rfl⟩ := step_cellBefore step there
    · obtain ⟨extra, found, -⟩ := step_others step here notOwn
      obtain rfl : cell = { old with mailbox := old.mailbox ++ extra } := by
        simpa [there] using found
      refine (replied.first index old draining channel message resume here
        inside).imp (fun none => ?_) kept
      -- whoever else replies in this step has another request
      obtain silent | ⟨other, answer, cell', drains, target, reply, goOn, rfl,
        elsewhere, replying, -, rfl⟩ := repliesOn_of_step step
      · rw [repliesOn_append, none, silent, List.append_nil]
      · have different : target ≠ channel := by
          rintro rfl
          have same : other = index :=
            replySender_unique run elsewhere
              (replySender_of_replying run elsewhere replying) here
              (replySender_of_replying run here inside)
          exact notOwn answer (same ▸ rfl)
        rw [repliesOn_append, none]
        simp [repliesOn, different]
    · cases inside

/-- While no request is replied to again, every request has one reply. -/
theorem runWhile_repliedOnce
    (run :
      Machine.RunWhile (machine Value State Frame) RepliesOnce
        (withConfig Value State Frame mailboxCapacity) log runtime) :
    RepliedOnce log runtime := by
  induction run with
  | nil => exact ⟨fun _ => Nat.zero_le 1, by simp [withConfig]⟩
  | snoc label earlier met last inductionHypothesis =>
      exact
        { once := inductionHypothesis.step_once last
          first := fun index cell draining channel message resume there =>
            inductionHypothesis.step_first earlier.run met last there }

end Once

section Replying

variable {log : List (RuntimeEvent Value)} {runtime : Runtime Value State Frame}
  {index answer channel : Nat} {cell : ActorCell Value State Frame}
  {draining : Bool} {message : AnyBox Value}
  {resume : Except RuntimeError Unit → Frame}

/-- `reply_tx.send` with the handle gone. -/
theorem loopStep_replying_dropped
    {buffer : Option (AnyBox Value)}
    (here : runtime.cells[index]? = some cell)
    (inside : cell.position = .replying draining channel message resume)
    (dropped :
      runtime.replies[channel]? =
        some { buffer := buffer, handleAlive := false }) :
    runtime.loopStep? index answer =
      some (runtime.moveTo index
          (.handling draining (resume (.error .runtimeStopped))),
        [.replyReturned index (.error .runtimeStopped)]) := by
  simp [loopStep?, here, inside, dropped]

/-- `reply_tx.send` into an empty channel. -/
theorem loopStep_replying_empty
    (here : runtime.cells[index]? = some cell)
    (inside : cell.position = .replying draining channel message resume)
    (empty :
      runtime.replies[channel]? =
        some { buffer := none, handleAlive := true }) :
    runtime.loopStep? index answer =
      some ((runtime.setReply channel
          { buffer := some message, handleAlive := true }).moveTo index
            (.handling draining (resume (.ok ()))),
        [.replied index channel message, .replyReturned index (.ok ())]) := by
  simp [loopStep?, here, inside, empty]

/-- `reply_tx.send` waits for the requester to take the reply before. -/
theorem loopStep_replying_full
    {held : AnyBox Value}
    (here : runtime.cells[index]? = some cell)
    (inside : cell.position = .replying draining channel message resume)
    (full :
      runtime.replies[channel]? =
        some { buffer := some held, handleAlive := true }) :
    runtime.loopStep? index answer = none := by
  simp [loopStep?, here, inside, full]

/-- With one reply for each request, no reply waits and no other is received. -/
theorem RepliedOnce.oneShot
    {mailboxCapacity : Nat}
    (run :
      Machine.Run (machine Value State Frame)
        (withConfig Value State Frame mailboxCapacity) log runtime)
    (replied : RepliedOnce log runtime) :
    OneShot log runtime where
  returns index cell draining channel message resume here inside := by
    obtain ⟨⟨buffer, - | -⟩, found⟩ :=
      channel_of_replySender run here (replySender_of_replying run here inside)
    · exact ⟨_, _, _, fun _ => loopStep_replying_dropped here inside found,
        .head _⟩
    · obtain unanswered | ⟨_, dropped⟩ :=
        replied.first index cell draining channel message resume here inside
      · rw [repliesOn_of_alive run found] at unanswered
        obtain rfl : buffer = none := by
          simpa using (List.append_eq_nil_iff.mp unanswered).2
        exact ⟨_, _, _, fun _ => loopStep_replying_empty here inside found,
          .tail _ (.head _)⟩
      · rw [found] at dropped
        cases dropped
  atMostFirst channel := by
    rw [List.take_of_length_le (replied.once channel)]
    exact (run_inOrder run channel).receivedFirst

end Replying

/-- The handler of the actor is about to reply to the request of the channel. -/
def AtReply
    (runtime : Runtime Value State Frame)
    (index channel : Nat) : Prop :=
  ∃ (cell : ActorCell Value State Frame) (draining : Bool) (frame : Frame)
      (message : AnyBox Value) (resume : Except RuntimeError Unit → Frame),
    runtime.cells[index]? = some cell ∧
      cell.position = .handling draining frame ∧
      cell.actor.next frame = .reply message resume ∧
      cell.replySender = some channel

/-- The reply that begins here can be made, and its requester can ask for it
then, and neither leads to a wait or to a second value. -/
structure ReplySettles
    (log : List (RuntimeEvent Value))
    (begun : Runtime Value State Frame)
    (index channel : Nat) : Prop where
  begins : OneShot log begun
  made :
    ∀ made events,
      begun.loopStep? index 0 = some (made, events) →
      OneShot (log ++ events) made
  received :
    ∀ made events received more,
      begun.loopStep? index 0 = some (made, events) →
      (machine Value State Frame).step? made (.receiveReply channel) =
        some (received, more) →
      OneShot (log ++ events ++ more) received

section Call

variable {mailboxCapacity : Nat} {log events : List (RuntimeEvent Value)}
  {runtime after : Runtime Value State Frame} {index channel answer : Nat}

theorem runWhile_oneShot
    (run :
      Machine.RunWhile (machine Value State Frame) RepliesOnce
        (withConfig Value State Frame mailboxCapacity) log runtime) :
    OneShot log runtime :=
  (runWhile_repliedOnce run).oneShot run.run

/-- In runs that meet the condition, a reply settles. -/
theorem replySettles_of_once
    {cell : ActorCell Value State Frame}
    {draining : Bool}
    {message : AnyBox Value}
    {resume : Except RuntimeError Unit → Frame}
    (run :
      Machine.RunWhile (machine Value State Frame) RepliesOnce
        (withConfig Value State Frame mailboxCapacity) log runtime)
    (here : runtime.cells[index]? = some cell)
    (inside : cell.position = .replying draining channel message resume) :
    ReplySettles log runtime index channel := by
  have met : RepliesOnce log runtime (.loop index 0) := by
    simp [RepliesOnce, here, inside]
  exact
    { begins := runWhile_oneShot run
      made := fun made events step =>
        runWhile_oneShot (.snoc (.loop index 0) run met step)
      received := fun made events received more step later =>
        runWhile_oneShot (.snoc (.receiveReply channel)
          (.snoc (.loop index 0) run met step) trivial later) }

/-- A reply to a request that was replied to, with its handle alive, waits for
the requester or gives it a second value. -/
theorem not_replySettles
    {cell : ActorCell Value State Frame}
    {draining : Bool}
    {message : AnyBox Value}
    {resume : Except RuntimeError Unit → Frame}
    {buffer : Option (AnyBox Value)}
    (run :
      Machine.Run (machine Value State Frame)
        (withConfig Value State Frame mailboxCapacity) log runtime)
    (here : runtime.cells[index]? = some cell)
    (inside : cell.position = .replying draining channel message resume)
    (alive :
      runtime.replies[channel]? =
        some { buffer := buffer, handleAlive := true })
    (again : repliesOn channel log ≠ []) :
    ¬ ReplySettles log runtime index channel := by
  intro settles
  cases buffer with
  | some held =>
      obtain ⟨after, events, result, step, -⟩ :=
        settles.begins.returns index cell draining channel message resume here
          inside
      simp [loopStep_replying_full here inside alive] at step
  | none =>
      have bound := (List.getElem?_eq_some_iff.mp alive).1
      have step : runtime.loopStep? index 0 = some _ :=
        loopStep_replying_empty here inside alive
      have oneShot :=
        settles.received _ _
          (((runtime.setReply channel
              { buffer := some message, handleAlive := true }).moveTo index
                (.handling draining (resume (.ok ())))).setReply channel
            { buffer := none, handleAlive := true })
          [.replyReceived channel message] step
          (by simp [machine, moveTo, modifyCell, setReply, bound])
      have received := (oneShot.atMostFirst channel).length_le
      rw [repliesOn_of_alive run alive] at again
      have nonempty : 0 < (receivedFrom channel log).length :=
        List.length_pos_of_ne_nil (by simpa using again)
      rw [receivedFrom_append, receivedFrom_append] at received
      simp only [receivedFrom, List.length_append, List.length_take,
        List.filterMap_cons, List.filterMap_nil, ↓reduceIte,
        List.length_singleton] at received nonempty
      omega

/--
As long as nobody replies to a request that was replied to and whose handle is
alive, every reply returns at once and every requester gets the first reply at
most.  The first such reply breaks this: it waits for the requester, or the
requester gets a second value from it.
-/
theorem reply_oneShot_iff
    (run :
      Machine.RunWhile (machine Value State Frame) RepliesOnce
        (withConfig Value State Frame mailboxCapacity) log runtime) :
    OneShot log runtime ∧
      ∀ {index channel answer after events},
        AtReply runtime index channel →
        runtime.loopStep? index answer = some (after, events) →
        (ReplySettles (log ++ events) after index channel ↔
          repliesOn channel log = [] ∨ HandleDropped runtime channel) := by
  refine ⟨runWhile_oneShot run, fun {index channel answer after events}
    atReply step => ?_⟩
  obtain ⟨cell, draining, frame, message, resume, here, position, action,
    holds⟩ := atReply
  have begun :
      after =
          runtime.moveTo index (.replying draining channel message resume) ∧
        events = [] := by
    simp only [loopStep?, here, position, handlerStep, action, holds,
      Option.ite_none_left_eq_some, Option.some.injEq,
      Prod.mk.injEq] at step
    exact ⟨step.2.1.symm, step.2.2.symm⟩
  obtain ⟨rfl, rfl⟩ := begun
  have inside :
      (runtime.moveTo index
          (.replying draining channel message resume)).cells[index]? =
        some { cell with
          position := .replying draining channel message resume } := by
    simp [moveTo, modifyCell_cells, here]
  constructor
  · intro settles
    by_contra neither
    obtain ⟨again, handle⟩ := not_or.mp neither
    obtain ⟨⟨buffer, - | -⟩, found⟩ :=
      channel_of_replySender run.run here holds
    · exact handle ⟨buffer, found⟩
    · exact not_replySettles (.snoc (.loop index answer) run.run step) inside
        rfl found (by simpa using again) settles
  · intro once
    have met : RepliesOnce log runtime (.loop index answer) := by
      simp only [RepliesOnce, here, position, action, holds]
      exact once
    exact replySettles_of_once (.snoc (.loop index answer) run met step) inside
      rfl

end Call

/-- A request to the accumulator, whose handler is about to reply to it. -/
theorem reply_oneShot_iff_atReply :
    ∃ log runtime after,
      Machine.RunWhile (machine Nat Nat (Nat × Nat)) RepliesOnce
          (withConfig _ _ _ 5) log runtime ∧
        OneShot log runtime ∧
        AtReply runtime 0 0 ∧
        runtime.loopStep? 0 0 = some (after, []) ∧
        ReplySettles (log ++ []) after 0 0 := by
  obtain ⟨log, runtime, after, run, atReply, step, none⟩ :
      ∃ log runtime after,
        Machine.RunWhile (machine Nat Nat (Nat × Nat)) RepliesOnce
            (withConfig _ _ _ 5) log runtime ∧
          AtReply runtime 0 0 ∧
          runtime.loopStep? 0 0 = some (after, []) ∧
          repliesOn 0 log = [] :=
    ⟨_, _, _,
      .snoc (.loop 0 0) (.snoc (.loop 0 0) (.snoc (.loop 0 0)
        (.snoc (.loop 0 0) (.snoc (.request 0 ⟨1⟩ ⟨0, 7⟩)
          (.snoc .claimRequest (.snoc (.spawn accumulator 0) .nil trivial rfl)
            trivial rfl) trivial rfl) trivial rfl) trivial rfl) trivial rfl)
        trivial rfl,
      ⟨_, _, _, _, _, rfl, rfl, rfl, rfl⟩, rfl, rfl⟩
  obtain ⟨oneShot, settles⟩ := reply_oneShot_iff run
  exact ⟨log, runtime, after, run, oneShot, atReply, step,
    (settles atReply step).mpr (.inl none)⟩

/-- An actor whose handler replies twice. -/
def repliesTwice : Actor Nat Unit Nat where
  messageType := 0
  handle := fun _ _ => 2
  next
    | 2 => .reply ⟨0, 20⟩ fun _ => 1
    | 1 => .reply ⟨0, 10⟩ fun _ => 0
    | _ => .returns ()

/-- A request to it, up to the second `reply_tx.send`. -/
def secondReply : List (Label Nat Unit Nat) :=
  [.spawn repliesTwice (), .claimRequest, .request 0 ⟨1⟩ ⟨0, 7⟩,
    .loop 0 0, .loop 0 0, .loop 0 0, .loop 0 0, .loop 0 0, .loop 0 0]

/-- While the handle keeps the first reply unread the second one waits; when it
has read it, it gets the second one too. -/
theorem reply_waits_or_repeats :
    (∃ runtime log,
        (machine _ _ _).run? (withConfig _ _ _ 5) secondReply =
            some (runtime, log) ∧
          (∀ answer, runtime.loopStep? 0 answer = none) ∧
          ¬ OneShot log runtime) ∧
      ∃ runtime log,
        (machine _ _ _).run? (withConfig _ _ _ 5)
            (secondReply ++
              [.receiveReply 0, .loop 0 0, .receiveReply 0]) =
          some (runtime, log) ∧
          receivedFrom 0 log = [⟨0, 20⟩, ⟨0, 10⟩] ∧
          ¬ OneShot log runtime := by
  constructor
  · obtain ⟨runtime, log, cell, executed, here, inside, stuck⟩ :
        ∃ runtime log cell,
          (machine _ _ _).run? (withConfig _ _ _ 5) secondReply =
              some (runtime, log) ∧
            runtime.cells[0]? = some cell ∧
            cell.position = .replying false 0 ⟨0, 10⟩ (fun _ => 0) ∧
            ∀ answer, runtime.loopStep? 0 answer = none :=
      ⟨_, _, _, rfl, rfl, rfl, fun _ => rfl⟩
    refine ⟨runtime, log, executed, stuck, fun oneShot => ?_⟩
    obtain ⟨after, events, result, step, -⟩ :=
      oneShot.returns 0 cell false 0 ⟨0, 10⟩ (fun _ => 0) here inside
    simp [stuck] at step
  · obtain ⟨runtime, log, executed, received, replied⟩ :
        ∃ runtime log,
          (machine _ _ _).run? (withConfig _ _ _ 5)
              (secondReply ++
                [.receiveReply 0, .loop 0 0, .receiveReply 0]) =
            some (runtime, log) ∧
            receivedFrom 0 log = [⟨0, 20⟩, ⟨0, 10⟩] ∧
            repliesOn 0 log = [⟨0, 20⟩, ⟨0, 10⟩] :=
      ⟨_, _, rfl, rfl, rfl⟩
    refine ⟨runtime, log, executed, received, fun oneShot => ?_⟩
    have one := oneShot.atMostFirst 0
    rw [received, replied] at one
    exact absurd one.length_le (by decide)

end Runact.Runtime
