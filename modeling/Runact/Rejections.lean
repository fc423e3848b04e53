import Runact.RequestReply
import Runact.SendTo
import Runact.SupervisorRace

namespace Runact.Runtime

/-!
# What a rejected call leaves behind

`send` and `send_to` act when they succeed, or not at all.  `request` draws its
correlation id before it looks the target up, and `stats` reports the same
counter, so a refused `request` is counted.
-/

universe u

variable {Value State Frame : Type u}

/-- The mailboxes, one for each actor loop. -/
def mailboxes
    (runtime : Runtime Value State Frame) :
    List (List (MessageEnvelope Value)) :=
  runtime.cells.map fun cell => cell.mailbox

/-- No mailbox differs, and neither registry. -/
structure NothingSent (before after : Runtime Value State Frame) : Prop where
  mailboxes : after.mailboxes = before.mailboxes
  actors : after.actors = before.actors
  senders : after.senders = before.senders

/-- One envelope is added, at the tail of the mailbox of the target; no other
mailbox differs, and neither registry. -/
structure Appended
    (before after : Runtime Value State Frame)
    (target : ActorId)
    (envelope : MessageEnvelope Value) : Prop where
  mailboxes :
    ∃ channel,
      before.senders.lookup target = some channel ∧
        channel < before.mailboxes.length ∧
        after.mailboxes =
          before.mailboxes.modify channel (· ++ [envelope])
  actors : after.actors = before.actors
  senders : after.senders = before.senders

/-- The runtime is as before; how far their calls have come is the callers'
own. -/
def Unchanged (before after : Runtime Value State Frame) : Prop :=
  { after with claimedRequests := before.claimedRequests } = before

/-- The calls that put an envelope into a mailbox without waiting outside of
an actor. -/
inductive CallKind where
  | send
  | request
  | sendTo
  deriving DecidableEq, Repr

/-- Not a step of this actor loop. -/
def Label.notLoop (index : Nat) : Label Value State Frame → Bool
  | .loop moved _ => moved != index
  | _ => true

/--
A call that begins in `start` and has returned: its first step goes to `middle`
and its last from `before` to `after`, and in between everybody else may go on.
Where the call is one step, `start`, `middle` and `before` are one state.
-/
inductive CallReturned
    (start : Runtime Value State Frame) :
    CallKind → ActorId → AnyBox Value →
      Runtime Value State Frame → Runtime Value State Frame →
      Runtime Value State Frame → Except RuntimeError Unit → Prop where
  | send
      (target : ActorId) (message : AnyBox Value)
      (after : Runtime Value State Frame)
      (events : List (RuntimeEvent Value))
      (result : Except RuntimeError Unit) :
      (machine Value State Frame).step? start (.send target message) =
        some (after, events) →
      .answered result ∈ events →
      CallReturned start .send target message start start after result
  /-- The `fetch_add`, and later the lock section. -/
  | request
      (target : ActorId) (message : AnyBox Value)
      (middle before after : Runtime Value State Frame)
      (claimed between events : List (RuntimeEvent Value)) (call : Nat)
      (result : Except RuntimeError Nat) :
      (machine Value State Frame).step? start .claimRequest =
        some (middle, claimed) →
      Machine.Run (machine Value State Frame) middle between before →
      before.claimedRequests[call]? = some start.requestCounter →
      (machine Value State Frame).step? before (.request call target message) =
        some (after, events) →
      .requestAnswered start.requestCounter result ∈ events →
      CallReturned start .request target message middle before after
        (result.map fun _ => ())
  /-- `send_to` finds no such actor. -/
  | sendToRefused
      (target : ActorId) (message : AnyBox Value)
      (after : Runtime Value State Frame)
      (events : List (RuntimeEvent Value)) (index answer : Nat)
      (cell : ActorCell Value State Frame) (draining : Bool) (frame : Frame)
      (resume : Except RuntimeError Unit → Frame)
      (result : Except RuntimeError Unit) :
      start.cells[index]? = some cell →
      cell.position = .handling draining frame →
      cell.actor.next frame = .sendTo target message resume →
      (machine Value State Frame).step? start (.loop index answer) =
        some (after, events) →
      .sendReturned index result ∈ events →
      CallReturned start .sendTo target message start start after result
  /-- The lookup, and later the `send` it was waiting in. -/
  | sendTo
      (target : ActorId) (message : AnyBox Value)
      (middle before after : Runtime Value State Frame)
      (between events : List (RuntimeEvent Value)) (index answer later : Nat)
      (cell : ActorCell Value State Frame) (draining : Bool) (frame : Frame)
      (resume : Except RuntimeError Unit → Frame)
      (result : Except RuntimeError Unit) :
      start.cells[index]? = some cell →
      cell.position = .handling draining frame →
      cell.actor.next frame = .sendTo target message resume →
      (machine Value State Frame).step? start (.loop index answer) =
        some (middle, []) →
      Machine.Run
        ((machine Value State Frame).restrict fun _ label =>
          label.notLoop index)
        middle between before →
      (machine Value State Frame).step? before (.loop index later) =
        some (after, events) →
      .sendReturned index result ∈ events →
      CallReturned start .sendTo target message middle before after result

/-- `Ok` is returned only by appending one envelope, and an error of `send` or
`request` with everything as before. -/
structure CallRight
    (kind : CallKind)
    (target : ActorId)
    (message : AnyBox Value)
    (start middle before after : Runtime Value State Frame)
    (result : Except RuntimeError Unit) : Prop where
  appended :
    result = .ok () →
      NothingSent start middle ∧
        ∃ envelope,
          envelope.payload = message ∧
            Appended before after target envelope
  rejected :
    ∀ error,
      result = .error error →
      kind ≠ .sendTo →
      Unchanged start middle ∧ Unchanged before after

/-- The target is registered, its receiver is alive and its mailbox is below
the capacity. -/
def Accepts
    (runtime : Runtime Value State Frame)
    (target : ActorId) : Prop :=
  ∃ channel cell,
    runtime.senders.lookup target = some channel ∧
      runtime.cells[channel]? = some cell ∧
      cell.position.isEnded = false ∧
      cell.mailbox.length < runtime.mailboxCapacity

/-- No `request` met a target that did not accept. -/
def NoneRefused
    (steps : List (Runtime Value State Frame × Label Value State Frame)) :
    Prop :=
  ∀ before call target message,
    (before, .request call target message) ∈ steps → before.Accepts target

/-! ## What one step of a call changes -/

theorem mailboxes_moveTo
    (runtime : Runtime Value State Frame)
    (index : Nat)
    (position : LoopPosition Value Frame) :
    (runtime.moveTo index position).mailboxes = runtime.mailboxes := by
  refine List.ext_getElem? fun other => ?_
  simp only [mailboxes, moveTo, List.getElem?_map, modifyCell_cells]
  split <;> simp [Function.comp_def]

theorem mailboxes_append
    (runtime : Runtime Value State Frame)
    (channel : Nat)
    (envelope : MessageEnvelope Value) :
    (runtime.modifyCell channel fun cell =>
        { cell with mailbox := cell.mailbox ++ [envelope] }).mailboxes =
      runtime.mailboxes.modify channel (· ++ [envelope]) := by
  refine List.ext_getElem? fun other => ?_
  simp only [mailboxes, List.getElem?_map, modifyCell_cells,
    List.getElem?_modify]
  split <;> simp [Function.comp_def]

theorem NothingSent.refl (runtime : Runtime Value State Frame) :
    NothingSent runtime runtime :=
  ⟨rfl, rfl, rfl⟩

theorem NothingSent.moveTo
    (runtime : Runtime Value State Frame)
    (index : Nat)
    (position : LoopPosition Value Frame) :
    NothingSent runtime (runtime.moveTo index position) :=
  ⟨mailboxes_moveTo runtime index position, rfl, rfl⟩

/-- An accepted offer appends to the mailbox of whoever is registered under the
channel. -/
theorem appended_of_offer
    {before after : Runtime Value State Frame}
    {blocking : Bool}
    {channel : Nat}
    {target : ActorId}
    {envelope : MessageEnvelope Value}
    (found : before.senders.lookup target = some channel)
    (accepted : before.offer blocking channel envelope = .accepted after) :
    Appended before after target envelope := by
  obtain ⟨cell, here, -, -, rfl⟩ := offer_eq_accepted accepted
  have inside := (List.getElem?_eq_some_iff.mp here).1
  exact
    { mailboxes :=
        ⟨channel, found, by simpa [mailboxes] using inside,
          mailboxes_append before channel envelope⟩
      actors := rfl
      senders := rfl }

/-- `try_send` succeeds exactly when the target accepts. -/
theorem accepts_iff
    {runtime : Runtime Value State Frame}
    (roomy : 1 ≤ runtime.mailboxCapacity)
    (target : ActorId)
    (envelope : MessageEnvelope Value) :
    runtime.Accepts target ↔
      ∃ channel after,
        runtime.senders.lookup target = some channel ∧
          runtime.offer false channel envelope = .accepted after := by
  have limited (cell : ActorCell Value State Frame) :
      hasRoom runtime.mailboxCapacity false cell = true ↔
        cell.mailbox.length < runtime.mailboxCapacity := by
    have positive : runtime.mailboxCapacity ≠ 0 := by omega
    simp [hasRoom, positive]
  constructor
  · rintro ⟨channel, cell, found, here, opened, room⟩
    exact ⟨channel, _, found,
      offer_of_room here opened ((limited cell).mpr room)⟩
  · rintro ⟨channel, after, found, accepted⟩
    obtain ⟨cell, here, opened, room, -⟩ := offer_eq_accepted accepted
    exact ⟨channel, cell, found, here, opened, (limited cell).mp room⟩

/-- `send` returns an error and leaves the runtime alone, or appends. -/
theorem send_cases
    (runtime : Runtime Value State Frame)
    (target : ActorId)
    (message : AnyBox Value) :
    (∃ error,
        runtime.send target message = (runtime, [.answered (.error error)])) ∨
      ∃ channel after,
        runtime.send target message =
            (after, [.accepted channel (.message message),
              .answered (.ok ())]) ∧
          Appended runtime after target (.message message) := by
  unfold send
  cases found : runtime.senders.lookup target with
  | none => exact .inl ⟨_, rfl⟩
  | some channel =>
      simp only
      split
      · rename_i after accepted
        exact .inr ⟨channel, after, rfl, appended_of_offer found accepted⟩
      · exact .inl ⟨_, rfl⟩
      · exact .inl ⟨_, rfl⟩

/-- A `request` that meets an accepting target appends and returns a handle. -/
theorem request_of_accepts
    (runtime : Runtime Value State Frame)
    {target : ActorId}
    (roomy : 1 ≤ runtime.mailboxCapacity)
    (accepts : runtime.Accepts target)
    (requestId : Nat)
    (message : AnyBox Value) :
    ∃ channel after,
      runtime.request requestId target message =
          (after,
            [.accepted channel
                (.request requestId message runtime.replies.length),
              .requestAnswered requestId (.ok runtime.replies.length)]) ∧
        Appended runtime after target
          (.request requestId message runtime.replies.length) ∧
        after.requestCounter = runtime.requestCounter ∧
        after.claimedRequests = runtime.claimedRequests ∧
        after.replies.length = runtime.replies.length + 1 := by
  obtain ⟨channel, sent, found, accepted⟩ :=
    (accepts_iff roomy target
      (.request requestId message runtime.replies.length)).mp accepts
  have appended := appended_of_offer found accepted
  have answered :
      runtime.request requestId target message =
        ({ sent with
            replies :=
              sent.replies ++ [{ buffer := none, handleAlive := true }] },
          [.accepted channel
              (.request requestId message runtime.replies.length),
            .requestAnswered requestId (.ok runtime.replies.length)]) := by
    simp only [request, found, accepted]
  obtain ⟨cell, -, -, -, rfl⟩ := offer_eq_accepted accepted
  exact ⟨channel, _, answered,
    ⟨appended.mailboxes, appended.actors, appended.senders⟩, rfl, rfl,
    by simp [modifyCell]⟩

/-- Otherwise it returns an error, and its lock section changes nothing. -/
theorem request_of_not_accepts
    (runtime : Runtime Value State Frame)
    {target : ActorId}
    (roomy : 1 ≤ runtime.mailboxCapacity)
    (refuses : ¬ runtime.Accepts target)
    (requestId : Nat)
    (message : AnyBox Value) :
    ∃ error,
      runtime.request requestId target message =
        (runtime, [.requestAnswered requestId (.error error)]) := by
  rw [accepts_iff roomy target
    (.request requestId message runtime.replies.length)] at refuses
  unfold request
  cases found : runtime.senders.lookup target with
  | none => exact ⟨_, rfl⟩
  | some channel =>
      simp only
      split
      · rename_i after accepted
        exact (refuses ⟨channel, after, found, accepted⟩).elim
      · exact ⟨_, rfl⟩
      · exact ⟨_, rfl⟩

/-! ## While a `send_to` waits -/

/-- Who waits inside `send_to` holds the read lock of the senders map, so nobody
changes it. -/
theorem Effect.senders_kept
    {before after : Runtime Value State Frame}
    {events : List (RuntimeEvent Value)}
    {index : Nat}
    {cell : ActorCell Value State Frame}
    (effect : Effect before after events)
    (here : before.cells[index]? = some cell)
    (held : cell.position.holdsSenders = true) :
    after.senders = before.senders := by
  have notFree : before.sendersFree ≠ true := by
    intro free
    simp only [sendersFree, Bool.and_eq_true, List.all_eq_true] at free
    have released := free.2 cell (List.mem_of_getElem? here)
    simp [held] at released
  cases effect with
  | spawned actor state idle free => exact (notFree free).elim
  | sendersCleared phase free => exact (notFree free).elim
  | sent target channel message after found accepted =>
      rw [(onlyLoops_of_offer accepted).same]
  | unblocked index waiting sent found accepted =>
      have same := (onlyLoops_of_offer accepted).same
      simp only
      rw [same]
  | requested call requestId target channel message sent claimed found
      accepted =>
      have same := (onlyLoops_of_offer accepted).same
      simp only
      rw [same]
  | looped index answer cell after events there step effect =>
      rw [(loopStep_onlyLoops step).same]
  | _ => rfl

/-- While the others go on, a loop inside `send_to` stays there, and its target
stays registered. -/
theorem sending_kept
    {before after : Runtime Value State Frame}
    {log : List (RuntimeEvent Value)}
    {index : Nat}
    {cell : ActorCell Value State Frame}
    (run :
      Machine.Run
        ((machine Value State Frame).restrict fun _ label =>
          label.notLoop index)
        before log after)
    (here : before.cells[index]? = some cell)
    (held : cell.position.holdsSenders = true) :
    after.senders = before.senders ∧
      ∃ moved,
        after.cells[index]? = some moved ∧
          moved.position = cell.position := by
  induction run with
  | nil => exact ⟨rfl, cell, here, rfl⟩
  | @snoc log events middle final label earlier last inductionHypothesis =>
      obtain ⟨sameSenders, moved, there, samePosition⟩ := inductionHypothesis
      obtain ⟨others, step⟩ := Machine.restrict_step_iff.mp last
      have notOwn (answer : Nat) : label ≠ .loop index answer := by
        rintro rfl
        simp [Label.notLoop] at others
      have kept :=
        (effect_of_step step).senders_kept there (samePosition ▸ held)
      obtain ⟨extra, found, -⟩ := step_others step there notOwn
      exact ⟨kept.trans sameSenders, _, found, samePosition⟩

/-- The `send` inside `send_to` returns `Ok` by appending. -/
theorem appended_of_sendReturned
    {before after : Runtime Value State Frame}
    {events : List (RuntimeEvent Value)}
    {index later : Nat}
    {cell : ActorCell Value State Frame}
    {draining : Bool}
    {channel : Nat}
    {target : ActorId}
    {envelope : MessageEnvelope Value}
    {resume : Except RuntimeError Unit → Frame}
    (here : before.cells[index]? = some cell)
    (position : cell.position = .sending draining channel envelope resume)
    (found : before.senders.lookup target = some channel)
    (step : before.loopStep? index later = some (after, events))
    (returned : .sendReturned index (.ok ()) ∈ events) :
    Appended before after target envelope := by
  simp only [loopStep?, here, position] at step
  cases offered : before.offer true channel envelope with
  | accepted sent =>
      simp only [offered, Option.some.injEq, Prod.mk.injEq] at step
      obtain ⟨rfl, rfl⟩ := step
      have appended := appended_of_offer found offered
      obtain ⟨other, registered, inside, mailboxes⟩ := appended.mailboxes
      exact
        { mailboxes :=
            ⟨other, registered, inside,
              (mailboxes_moveTo sent index _).trans mailboxes⟩
          actors := appended.actors
          senders := appended.senders }
  | full =>
      simp [offered] at step
  | disconnected =>
      simp only [offered, Option.some.injEq, Prod.mk.injEq] at step
      obtain ⟨rfl, rfl⟩ := step
      simp at returned

/-! ## Which calls are right -/

section Calls

variable {start middle before after : Runtime Value State Frame}
  {target : ActorId} {message : AnyBox Value}
  {events : List (RuntimeEvent Value)}

/-- Every `send` is right. -/
theorem send_right
    {result : Except RuntimeError Unit}
    (step :
      (machine Value State Frame).step? start (.send target message) =
        some (after, events))
    (answered : .answered result ∈ events) :
    CallRight .send target message start start start after result := by
  simp only [machine, Option.ite_none_left_eq_some,
    Option.some.injEq] at step
  replace step := step.2
  obtain ⟨error, refused⟩ | ⟨channel, sent, accepted, appended⟩ :=
    send_cases start target message
  · obtain ⟨rfl, rfl⟩ := Prod.mk.inj (refused.symm.trans step)
    obtain rfl : result = .error error := by simpa using answered
    exact ⟨fun succeeded => (by cases succeeded), fun _ _ _ => ⟨rfl, rfl⟩⟩
  · obtain ⟨rfl, rfl⟩ := Prod.mk.inj (accepted.symm.trans step)
    obtain rfl : result = .ok () := by simpa using answered
    exact ⟨fun _ => ⟨.refl start, .message message, rfl, appended⟩,
      fun error failed => (by cases failed)⟩

/-- Every `send_to` that waited in `send` is right. -/
theorem sendTo_right
    {between : List (RuntimeEvent Value)}
    {index answer later : Nat}
    {cell : ActorCell Value State Frame}
    {draining : Bool}
    {frame : Frame}
    {resume : Except RuntimeError Unit → Frame}
    {result : Except RuntimeError Unit}
    (here : start.cells[index]? = some cell)
    (position : cell.position = .handling draining frame)
    (action : cell.actor.next frame = .sendTo target message resume)
    (begun :
      (machine Value State Frame).step? start (.loop index answer) =
        some (middle, []))
    (run :
      Machine.Run
        ((machine Value State Frame).restrict fun _ label =>
          label.notLoop index)
        middle between before)
    (step :
      (machine Value State Frame).step? before (.loop index later) =
        some (after, events))
    (returned : .sendReturned index result ∈ events) :
    CallRight .sendTo target message start middle before after result := by
  refine ⟨fun succeeded => ?_, fun _ _ other => (other rfl).elim⟩
  subst succeeded
  simp only [machine, loopStep?, here, position, handlerStep, action] at begun
  cases found : start.senders.lookup target with
  | none =>
      simp [found] at begun
  | some channel =>
      simp only [found, Option.ite_none_left_eq_some, Option.some.injEq,
        Prod.mk.injEq, and_true] at begun
      obtain ⟨-, rfl⟩ := begun
      have inside :
          (start.moveTo index
              (.sending draining channel (.message message) resume)).cells[
                index]? =
            some { cell with
              position :=
                .sending draining channel (.message message) resume } := by
        simp [moveTo, modifyCell_cells, here]
      obtain ⟨sameSenders, moved, there, stays⟩ :=
        sending_kept run inside rfl
      have registered : before.senders.lookup target = some channel := by
        rw [sameSenders]
        exact found
      exact ⟨.moveTo start index _, .message message, rfl,
        appended_of_sendReturned there stays registered step returned⟩

/-- A `request` is right exactly when its lock section meets a target that
accepts: the counter is ahead before it knows. -/
theorem request_right_iff
    {claimed : List (RuntimeEvent Value)}
    {call : Nat}
    {result : Except RuntimeError Nat}
    (roomy : 1 ≤ before.mailboxCapacity)
    (begun :
      (machine Value State Frame).step? start .claimRequest =
        some (middle, claimed))
    (inFlight : before.claimedRequests[call]? = some start.requestCounter)
    (step :
      (machine Value State Frame).step? before (.request call target message) =
        some (after, events))
    (answered : .requestAnswered start.requestCounter result ∈ events) :
    CallRight .request target message start middle before after
        (result.map fun _ => ()) ↔
      before.Accepts target := by
  simp only [machine, Option.some.injEq, Prod.mk.injEq] at begun
  obtain ⟨rfl, rfl⟩ := begun
  simp only [machine, inFlight, Option.ite_none_left_eq_some,
    Option.some.injEq] at step
  replace step := step.2
  constructor
  · intro right
    by_contra refuses
    obtain ⟨error, refused⟩ :=
      request_of_not_accepts { before with
        claimedRequests := before.claimedRequests.eraseIdx call } roomy
        refuses start.requestCounter message
    obtain ⟨rfl, rfl⟩ := Prod.mk.inj (refused.symm.trans step)
    obtain rfl : result = .error error := by simpa using answered
    have counted := (right.rejected error rfl (by decide)).1
    have same := congrArg requestCounter counted
    simp at same
  · intro accepts
    obtain ⟨channel, sent, accepted, appended, -, -, -⟩ :=
      request_of_accepts { before with
        claimedRequests := before.claimedRequests.eraseIdx call } roomy
        accepts start.requestCounter message
    obtain ⟨rfl, rfl⟩ := Prod.mk.inj (accepted.symm.trans step)
    obtain rfl : result = .ok before.replies.length := by simpa using answered
    exact ⟨fun _ => ⟨⟨rfl, rfl, rfl⟩, _, rfl,
        ⟨appended.mailboxes, appended.actors, appended.senders⟩⟩,
      fun error failed => (by cases failed)⟩

/-- A call is right, unless it is a `request` that meets a target that does not
accept. -/
theorem callRight_iff
    {kind : CallKind}
    {result : Except RuntimeError Unit}
    (roomy : 1 ≤ start.mailboxCapacity)
    (returned :
      CallReturned start kind target message middle before after result) :
    CallRight kind target message start middle before after result ↔
      (kind = .request → before.Accepts target) := by
  cases returned with
  | send target message after events result step answered =>
      simpa using send_right step answered
  | request target message middle before after claimed between events call
      result begun run inFlight step answered =>
      have capacity : before.mailboxCapacity = start.mailboxCapacity :=
        (run_mailboxCapacity run).trans (step_mailboxCapacity begun)
      simpa using
        request_right_iff (capacity ▸ roomy) begun inFlight step answered
  | sendToRefused target message after events index answer cell draining frame
      resume result here position action step returned =>
      refine ⟨fun _ request => (by cases request), fun _ =>
        ⟨fun succeeded => ?_, fun _ _ other => (other rfl).elim⟩⟩
      subst succeeded
      simp only [machine, loopStep?, here, position, handlerStep, action,
        Option.ite_none_left_eq_some, Option.some.injEq] at step
      replace step := step.2
      split at step <;> obtain ⟨rfl, rfl⟩ := Prod.mk.inj step <;>
        simp at returned
  | sendTo target message middle before after between events index answer
      later cell draining frame resume result here position action begun run
      step returned =>
      simpa using
        sendTo_right here position action begun run step returned

end Calls

/-! ## The count of requests -/

/-- No request was counted, claimed or given a reply channel. -/
structure SameCounts (before after : Runtime Value State Frame) : Prop where
  requestCounter : after.requestCounter = before.requestCounter
  claimedRequests : after.claimedRequests = before.claimedRequests
  replies : after.replies.length = before.replies.length

theorem SameCounts.offered
    {before after : Runtime Value State Frame}
    {blocking : Bool}
    {channel : Nat}
    {envelope : MessageEnvelope Value}
    (accepted : before.offer blocking channel envelope = .accepted after) :
    SameCounts before after := by
  obtain ⟨cell, -, -, -, rfl⟩ := offer_eq_accepted accepted
  exact ⟨rfl, rfl, rfl⟩

/-- An actor loop counts no requests. -/
theorem LoopEffect.sameCounts
    {before after : Runtime Value State Frame}
    {index : Nat}
    {cell : ActorCell Value State Frame}
    {events : List (RuntimeEvent Value)}
    (effect : LoopEffect before index cell after events) :
    SameCounts before after := by
  cases effect with
  | sent draining channel envelope resume sent shape accepted =>
      have same := SameCounts.offered accepted
      exact ⟨same.requestCounter, same.claimedRequests, same.replies⟩
  | replied draining channel message resume shape empty =>
      exact ⟨rfl, rfl, by simp [moveTo, modifyCell, setReply]⟩
  | _ => exact ⟨rfl, rfl, rfl⟩

/-- Only a `request` call touches the counts. -/
theorem step_sameCounts
    {before after : Runtime Value State Frame}
    {label : Label Value State Frame}
    {events : List (RuntimeEvent Value)}
    (step :
      (machine Value State Frame).step? before label = some (after, events))
    (notClaim : label ≠ .claimRequest)
    (notRequest :
      ∀ call target message, label ≠ .request call target message) :
    SameCounts before after := by
  cases label with
  | claimRequest => exact (notClaim rfl).elim
  | request call target message => exact (notRequest _ _ _ rfl).elim
  | loop index answer =>
      obtain ⟨cell, -, effect⟩ := loopStep_cases step
      exact effect.sameCounts
  | send target message =>
      simp only [machine, send, Option.ite_none_left_eq_some,
        Option.some.injEq] at step
      replace step := step.2
      split at step
      · obtain ⟨rfl, rfl⟩ := Prod.mk.inj step
        exact ⟨rfl, rfl, rfl⟩
      · split at step <;> obtain ⟨rfl, rfl⟩ := Prod.mk.inj step
        · exact .offered ‹_›
        · exact ⟨rfl, rfl, rfl⟩
        · exact ⟨rfl, rfl, rfl⟩
  | unblock waiting =>
      simp only [machine, unblock?] at step
      split at step
      · cases step
      · split at step
        · cases step
          have same := SameCounts.offered ‹_›
          exact ⟨same.requestCounter, same.claimedRequests, same.replies⟩
        · cases step
        · cases step
          exact ⟨rfl, rfl, rfl⟩
  | _ =>
      simp only [machine, spawn, spawnSupervisor, sendBlocking, deliverTimer,
        shutdownStep?] at step
      constructor <;> grind [setReply]

/-- Every counted request was sent, is in flight, or was refused. -/
structure Counted
    (steps : List (Runtime Value State Frame × Label Value State Frame))
    (runtime : Runtime Value State Frame) : Prop where
  bound :
    runtime.replies.length + runtime.claimedRequests.length ≤
      runtime.requestCounter
  tight :
    runtime.replies.length + runtime.claimedRequests.length =
        runtime.requestCounter ↔
      NoneRefused steps

theorem noneRefused_snoc
    {steps : List (Runtime Value State Frame × Label Value State Frame)}
    {before : Runtime Value State Frame}
    {label : Label Value State Frame} :
    NoneRefused (steps ++ [(before, label)]) ↔
      NoneRefused steps ∧
        ∀ call target message,
          label = .request call target message → before.Accepts target := by
  constructor
  · intro none
    refine ⟨fun earlier call target message member => ?_,
      fun call target message same => ?_⟩
    · exact none earlier call target message
        (List.mem_append_left [(before, label)] member)
    · exact none before call target message (by simp [same])
  · rintro ⟨none, last⟩ earlier call target message member
    rcases List.mem_append.mp member with older | newest
    · exact none earlier call target message older
    · obtain ⟨rfl, same⟩ := Prod.mk.inj (List.mem_singleton.mp newest)
      exact last call target message same.symm

/-- The lock section of a `request` ends its claim, with a new reply channel or
with a refusal. -/
theorem Counted.request
    {steps : List (Runtime Value State Frame × Label Value State Frame)}
    {before after : Runtime Value State Frame}
    {call : Nat}
    {target : ActorId}
    {message : AnyBox Value}
    {events : List (RuntimeEvent Value)}
    (counted : Counted steps before)
    (roomy : 1 ≤ before.mailboxCapacity)
    (step :
      (machine Value State Frame).step? before (.request call target message) =
        some (after, events)) :
    Counted (steps ++ [(before, .request call target message)]) after := by
  cases inFlight : before.claimedRequests[call]? with
  | none =>
      simp [machine, inFlight] at step
  | some requestId =>
      simp only [machine, inFlight, Option.ite_none_left_eq_some,
        Option.some.injEq] at step
      replace step := step.2
      have inside := (List.getElem?_eq_some_iff.mp inFlight).1
      have shorter :
          (before.claimedRequests.eraseIdx call).length + 1 =
            before.claimedRequests.length := by
        rw [List.length_eraseIdx_of_lt inside]
        omega
      have bound := counted.bound
      have tight := counted.tight
      by_cases accepts : before.Accepts target
      · obtain ⟨channel, sent, accepted, -, sameCounter, sameClaims, longer⟩ :=
          request_of_accepts { before with
            claimedRequests := before.claimedRequests.eraseIdx call } roomy
            accepts requestId message
        obtain ⟨rfl, rfl⟩ := Prod.mk.inj (accepted.symm.trans step)
        simp only at sameCounter sameClaims longer
        constructor
        · rw [sameCounter, sameClaims, longer]
          omega
        · rw [sameCounter, sameClaims, longer, noneRefused_snoc, ← tight]
          have all (call' target' message') (same :
              (Label.request call target message :
                Label Value State Frame) =
                .request call' target' message') :
              before.Accepts target' := by
            cases same
            exact accepts
          constructor
          · exact fun equal => ⟨by omega, all⟩
          · rintro ⟨equal, -⟩
            omega
      · obtain ⟨error, refused⟩ :=
          request_of_not_accepts { before with
            claimedRequests := before.claimedRequests.eraseIdx call } roomy
            accepts requestId message
        obtain ⟨rfl, rfl⟩ := Prod.mk.inj (refused.symm.trans step)
        constructor
        · simp only
          omega
        · rw [noneRefused_snoc]
          constructor
          · simp only
            intro equal
            omega
          · exact fun none => (accepts (none.2 _ _ _ rfl)).elim

/-- Over every run, the counter is ahead by the requests in flight and the
refused ones. -/
theorem trace_counted
    {mailboxCapacity : Nat}
    {steps : List (Runtime Value State Frame × Label Value State Frame)}
    {log : List (RuntimeEvent Value)}
    {runtime : Runtime Value State Frame}
    (roomy : 1 ≤ mailboxCapacity)
    (trace :
      Machine.Trace (machine Value State Frame)
        (withConfig Value State Frame mailboxCapacity) steps log runtime) :
    Counted steps runtime := by
  induction trace with
  | nil => exact ⟨by simp [withConfig], by simp [withConfig, NoneRefused]⟩
  | @snoc steps log events middle final label earlier last
      inductionHypothesis =>
      by_cases looked :
          ∃ call target message, label = .request call target message
      · obtain ⟨call, target, message, rfl⟩ := looked
        have capacity := run_mailboxCapacity earlier.run
        exact inductionHypothesis.request (capacity ▸ roomy) last
      · have notRequest (call target message) :
            label ≠ .request call target message :=
          fun same => looked ⟨call, target, message, same⟩
        have same :
            NoneRefused (steps ++ [(middle, label)]) ↔ NoneRefused steps := by
          rw [noneRefused_snoc]
          exact ⟨And.left, fun none =>
            ⟨none, fun _ _ _ equal => (notRequest _ _ _ equal).elim⟩⟩
        by_cases claim : label = .claimRequest
        · subst claim
          simp only [machine, Option.some.injEq, Prod.mk.injEq] at last
          obtain ⟨rfl, rfl⟩ := last
          have bound := inductionHypothesis.bound
          constructor
          · simp only [List.length_append, List.length_singleton]
            omega
          · rw [same, ← inductionHypothesis.tight]
            simp only [List.length_append, List.length_singleton]
            omega
        · have counts := step_sameCounts last claim notRequest
          constructor
          · rw [counts.replies, counts.claimedRequests, counts.requestCounter]
            exact inductionHypothesis.bound
          · rw [counts.replies, counts.claimedRequests, counts.requestCounter,
              same]
            exact inductionHypothesis.tight

/--
Rejected calls change nothing but the request count: every call is right unless
it is a `request` that its target does not accept, and the count is the number
of accepted requests exactly when none is in flight and none was refused.
-/
theorem rejections_unseen_iff
    {mailboxCapacity : Nat}
    {steps : List (Runtime Value State Frame × Label Value State Frame)}
    {log : List (RuntimeEvent Value)}
    {runtime : Runtime Value State Frame}
    (roomy : 1 ≤ mailboxCapacity)
    (trace :
      Machine.Trace (machine Value State Frame)
        (withConfig Value State Frame mailboxCapacity) steps log runtime) :
    (∀ {kind target message middle before after result},
        CallReturned runtime kind target message middle before after result →
        (CallRight kind target message runtime middle before after result ↔
          (kind = .request → before.Accepts target))) ∧
      (runtime.stats.requestCount = (requests log).length ↔
        runtime.claimedRequests = [] ∧ NoneRefused steps) := by
  have capacity := run_mailboxCapacity trace.run
  refine ⟨fun returned => callRight_iff (capacity ▸ roomy) returned, ?_⟩
  obtain ⟨bound, tight⟩ := trace_counted roomy trace
  have numbered :
      (requests log).length = runtime.replies.length := by
    have sameLength := congrArg List.length
      (run_requestsNumbered trace.run).numbered
    simpa using sameLength
  rw [← tight, ← List.length_eq_zero_iff, numbered]
  simp only [stats]
  omega

/-- Two requests to a mailbox of capacity one. -/
def twoRequests : List (Label Nat Unit (List (ActorId × AnyBox Nat))) :=
  [.spawn (sender []) (), .claimRequest, .request 0 ⟨1⟩ ⟨0, 5⟩,
    .claimRequest, .request 0 ⟨1⟩ ⟨0, 6⟩]

theorem rejections_unseen_iff_twoRequests :
    ∃ steps log runtime,
      Machine.Trace (machine _ _ _) (withConfig _ _ _ 1) steps log runtime ∧
        (machine _ _ _).run? (withConfig _ _ _ 1) twoRequests =
          some (runtime, log) ∧
        runtime.stats.requestCount = 2 ∧
        (requests log).length = 1 ∧
        runtime.claimedRequests = [] ∧
        ¬ NoneRefused steps := by
  obtain ⟨runtime, log, executed, counted, sent, idle⟩ :
      ∃ runtime log,
        (machine _ _ _).run? (withConfig _ _ _ 1) twoRequests =
            some (runtime, log) ∧
          runtime.stats.requestCount = 2 ∧
          (requests log).length = 1 ∧
          runtime.claimedRequests = [] :=
    ⟨_, _, rfl, rfl, rfl, rfl⟩
  obtain ⟨steps, trace⟩ := Machine.run?_trace _ executed
  refine ⟨steps, log, runtime, trace, executed, counted, sent, idle,
    fun none => ?_⟩
  have same := (rejections_unseen_iff (by decide) trace).2.mpr ⟨idle, none⟩
  omega

/-- A `request` to an actor that does not exist is refused, and counted. -/
theorem request_refused_counted :
    ∃ runtime before after,
      runtime = withConfig Nat Unit Unit 1 ∧
        CallReturned runtime .request ⟨7⟩ ⟨0, 5⟩ before before after
          (.error (.actorNotFound ⟨7⟩)) ∧
        runtime.stats.requestCount = 0 ∧
        after.stats.requestCount = 1 ∧
        ¬ CallRight .request ⟨7⟩ ⟨0, 5⟩ runtime before before after
          (.error (.actorNotFound ⟨7⟩)) := by
  refine ⟨_, _, _, rfl,
    .request ⟨7⟩ ⟨0, 5⟩ _ _ _ [] [] _ 0 (.error (.actorNotFound ⟨7⟩)) rfl
      .nil rfl rfl (.head _), rfl, rfl, fun right => ?_⟩
  have counted := (right.rejected _ rfl (by decide)).1
  exact absurd (congrArg requestCounter counted) (by decide)

end Runact.Runtime
