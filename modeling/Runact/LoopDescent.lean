import Runact.BlockedShutdown
import Runact.SerialActors

namespace Runact

/-!
# Loops that come to an end

A handler call that does not run for ever leaves its loop a finite number of
steps.  Once the senders are cleared and the stop flag is set, mailboxes only get
shorter, so every step of a loop brings it nearer to its end.  The one thing it
may wait for is a requester who has left an earlier reply unread.
-/

universe u

variable {Value State Frame : Type u}

/-! ## How much is left of a handler call -/

/-- No handler call runs for ever, whatever the context answers. -/
def Actor.Terminates (actor : Actor Value State Frame) : Prop :=
  ∀ state message,
    Acc (fun next frame => actor.GoesOn frame next)
      (actor.handle state message)

namespace LoopPosition

/-- Inside of a handler call, a loop goes from one position to another. -/
inductive Moves (actor : Actor Value State Frame) :
    LoopPosition Value Frame → LoopPosition Value Frame → Prop where
  | goesOn {draining : Bool} {frame next : Frame} :
      actor.GoesOn frame next →
      Moves actor (.handling draining frame) (.handling draining next)
  | sends
      {draining : Bool} {frame : Frame} {target : ActorId}
      {message : AnyBox Value} {resume : Except RuntimeError Unit → Frame}
      (channel : Nat) (envelope : MessageEnvelope Value) :
      actor.next frame = .sendTo target message resume →
      Moves actor (.handling draining frame)
        (.sending draining channel envelope resume)
  | sent
      {draining : Bool} {channel : Nat} {envelope : MessageEnvelope Value}
      {resume : Except RuntimeError Unit → Frame}
      (result : Except RuntimeError Unit) :
      Moves actor (.sending draining channel envelope resume)
        (.handling draining (resume result))
  | replies
      {draining : Bool} {frame : Frame} {message : AnyBox Value}
      {resume : Except RuntimeError Unit → Frame}
      (channel : Nat) :
      actor.next frame = .reply message resume →
      Moves actor (.handling draining frame)
        (.replying draining channel message resume)
  | replied
      {draining : Bool} {channel : Nat} {message : AnyBox Value}
      {resume : Except RuntimeError Unit → Frame}
      (result : Except RuntimeError Unit) :
      Moves actor (.replying draining channel message resume)
        (.handling draining (resume result))

/-- Only finitely many such steps can follow. -/
def Settles
    (actor : Actor Value State Frame)
    (position : LoopPosition Value Frame) : Prop :=
  Acc (fun next before => Moves actor before next) position

/-- A handler that comes to an end keeps its loop for finitely many steps. -/
theorem settles_of_acc
    {actor : Actor Value State Frame}
    {frame : Frame}
    (draining : Bool)
    (ends : Acc (fun next frame => actor.GoesOn frame next) frame) :
    Settles actor (.handling draining frame) := by
  induction ends with
  | intro frame _ inductionHypothesis =>
      refine .intro _ fun next moves => ?_
      cases moves with
      | goesOn goes => exact inductionHypothesis _ goes
      | sends channel envelope action =>
          refine .intro _ fun next moves => ?_
          cases moves with
          | sent result =>
              exact inductionHypothesis _ (.sendTo result action)
      | replies channel action =>
          refine .intro _ fun next moves => ?_
          cases moves with
          | replied result =>
              exact inductionHypothesis _ (.reply result action)

/-- Outside of the handler there is nothing to settle. -/
def outsideHandler : LoopPosition Value Frame → Bool
  | .handling _ _ => false
  | .sending .. => false
  | .replying .. => false
  | _ => true

theorem settles_of_outside
    {actor : Actor Value State Frame}
    {position : LoopPosition Value Frame}
    (outside : position.outsideHandler = true) :
    Settles actor position := by
  refine .intro _ fun next moves => ?_
  cases moves <;> cases outside

/-- The reply channel a loop is inside of `reply` on. -/
def replyChannel? : LoopPosition Value Frame → Option Nat
  | .replying _ channel _ _ => some channel
  | _ => none

/-- How far the loop is from its end, its handler call and its mailbox aside. -/
def height : LoopPosition Value Frame → Nat
  | .queued => 6
  | .handling _ _ => 5
  | .sending .. => 5
  | .replying .. => 5
  | .receiving => 4
  | .top => 3
  | .draining => 2
  | .leaving => 1
  | .unwinding => 1
  | .ended => 0

open Classical in
/-- How much is left of a handler call. -/
noncomputable def depth
    (actor : Actor Value State Frame)
    (position : LoopPosition Value Frame) : Ordinal.{u} :=
  if settles : Settles actor position then settles.rank else 0

/-- A step of a handler call leaves less of it. -/
theorem Moves.depth_lt
    {actor : Actor Value State Frame}
    {before after : LoopPosition Value Frame}
    (moves : Moves actor before after)
    (settles : Settles actor before) :
    depth actor after < depth actor before := by
  have settlesAfter : Settles actor after := settles.inv moves
  rw [depth, depth, dif_pos settles, dif_pos settlesAfter]
  exact Acc.rank_lt_of_rel settles moves

end LoopPosition

/-- What is left of an actor loop: its mailbox, its way out, its handler call. -/
noncomputable def ActorCell.remains
    (cell : ActorCell Value State Frame) : ℕ ×ₗ ℕ ×ₗ Ordinal.{u} :=
  toLex (cell.mailbox.length,
    toLex (cell.position.height, cell.position.depth cell.actor))

/-- A frame a terminating handler comes to is left after finitely many steps. -/
theorem Actor.acc_of_comesTo
    {actor : Actor Value State Frame}
    {state : State}
    {message : Value}
    {frame : Frame}
    (terminates : actor.Terminates)
    (comes : actor.ComesTo state message frame) :
    Acc (fun next frame => actor.GoesOn frame next) frame := by
  induction comes with
  | refl => exact terminates state message
  | tail earlier goes inductionHypothesis => exact inductionHypothesis.inv goes

/-- The handler call of a serial loop settles. -/
theorem ActorCell.settles_of_serial
    {cell : ActorCell Value State Frame}
    {initial : State}
    {called : List Value}
    (terminates : cell.actor.Terminates)
    (serial : cell.Serial initial called) :
    cell.position.Settles cell.actor := by
  have ends
      {frame : Frame}
      (inCall : cell.actor.InCall initial called cell.state frame)
      (draining : Bool) :
      LoopPosition.Settles cell.actor (.handling draining frame) := by
    obtain ⟨earlier, message, -, -, comes⟩ := inCall
    exact LoopPosition.settles_of_acc draining
      (Actor.acc_of_comesTo terminates comes)
  unfold ActorCell.Serial at serial
  cases position : cell.position with
  | handling draining frame =>
      simp only [position] at serial
      exact ends serial draining
  | sending draining channel envelope resume =>
      simp only [position] at serial
      obtain ⟨frame, target, message, inCall, action, -⟩ := serial
      exact (ends inCall draining).inv (.sends channel envelope action)
  | replying draining channel message resume =>
      simp only [position] at serial
      obtain ⟨frame, inCall, action⟩ := serial
      exact (ends inCall draining).inv (.replies channel action)
  | _ => exact LoopPosition.settles_of_outside rfl

namespace Runtime

/-- In every reachable runtime the actors are serial from their spawn on. -/
theorem run_serial
    {mailboxCapacity : Nat}
    {log : List (RuntimeEvent Value)}
    {runtime : Runtime Value State Frame}
    (run :
      Machine.Run (machine Value State Frame)
        (withConfig Value State Frame mailboxCapacity) log runtime) :
    ∀ index cell,
      runtime.cells[index]? = some cell →
      ∃ initial, SerialSince cell.actor initial log index cell := by
  refine run_cells
    (fun log index cell =>
      ∃ initial, SerialSince cell.actor initial log index cell)
    (fun {log index} id actor state notShown => ?_)
    (fun {log events index cell} extra notShown serial => ?_)
    (fun {log events index cell before after} here effect serial => ?_) run
  · refine ⟨state, rfl, ?_⟩
    rw [calledMessages_of_notShown notShown]
    exact .nil
  · obtain ⟨initial, serial⟩ := serial
    exact ⟨initial, serialSince_elsewhere extra notShown serial⟩
  · obtain ⟨initial, serial⟩ := serial
    obtain ⟨moved, there, same, serialNow⟩ :=
      serialSince_own here effect serial
    exact ⟨moved, there, initial, rfl, serialNow⟩

/-! ## What the steps of a loop leave -/

/-- Once the senders are cleared and the stop flag is set, every step of a loop
leaves less of it. -/
theorem LoopEffect.remains_lt
    {before after : Runtime Value State Frame}
    {index : Nat}
    {cell : ActorCell Value State Frame}
    {events : List (RuntimeEvent Value)}
    (effect : LoopEffect before index cell after events)
    (here : before.cells[index]? = some cell)
    (cleared : Cleared before)
    (stopping : before.stop = true)
    (settles : cell.position.Settles cell.actor) :
    ∃ moved,
      after.cells[index]? = some moved ∧
        moved.actor = cell.actor ∧
        moved.remains < cell.remains := by
  have lower
      {other : ActorCell Value State Frame}
      (mailbox : other.mailbox.length = cell.mailbox.length)
      (height : other.position.height < cell.position.height) :
      other.remains < cell.remains := by
    rw [ActorCell.remains, ActorCell.remains, mailbox]
    exact Prod.Lex.toLex_lt_toLex.mpr
      (.inr ⟨rfl, Prod.Lex.toLex_lt_toLex.mpr (.inl height)⟩)
  have shorter
      {other : ActorCell Value State Frame}
      (mailbox : other.mailbox.length < cell.mailbox.length) :
      other.remains < cell.remains :=
    Prod.Lex.toLex_lt_toLex.mpr (.inl mailbox)
  have onward
      {position : LoopPosition Value Frame}
      (height : position.height = cell.position.height)
      (moves : LoopPosition.Moves cell.actor cell.position position) :
      ({ cell with position := position } :
        ActorCell Value State Frame).remains < cell.remains := by
    rw [ActorCell.remains, ActorCell.remains]
    refine Prod.Lex.toLex_lt_toLex.mpr
      (.inr ⟨rfl, Prod.Lex.toLex_lt_toLex.mpr (.inr ⟨height, ?_⟩)⟩)
    exact moves.depth_lt settles
  have nobody : cell.position.holdsSenders = false :=
    (sendersFree_iff.mp cleared.free).2 index cell.position
      (by rw [loopAt, here]; rfl)
  cases effect with
  | started shape running | emptied shape queue =>
      refine ⟨_, modifyCell_here _ here, rfl, lower rfl ?_⟩
      simp [shape, LoopPosition.height]
  | checked shape =>
      refine ⟨_, modifyCell_here _ here, rfl, lower rfl ?_⟩
      simp [shape, stopping, LoopPosition.atReceive, LoopPosition.height]
  | timedOut shape queue =>
      refine ⟨_, modifyCell_here _ here, rfl, lower rfl ?_⟩
      simp [shape, LoopPosition.height]
  | called draining envelope rest message shape queue typed =>
      refine ⟨_, modifyCell_here _ here, rfl, shorter ?_⟩
      simp [queue]
  | skipped draining envelope rest reductions yields shape queue typed shown =>
      refine ⟨_, modifyCell_here _ here, rfl, shorter ?_⟩
      simp [queue]
  | returned draining frame state reductions yields shape action shown =>
      refine ⟨_, modifyCell_here _ here, rfl, lower rfl ?_⟩
      simp [shape, LoopPosition.height]
  | panicked draining frame shape action =>
      refine ⟨_, modifyCell_here _ here, rfl, lower rfl ?_⟩
      simp [shape, LoopPosition.height]
  | sendRefused draining frame target message resume shape action found =>
      refine ⟨_, modifyCell_here _ here, rfl, onward ?_ ?_⟩
      · rw [shape]
        rfl
      · rw [shape]
        exact .goesOn (.sendTo _ action)
  | sendStarted draining frame target message resume channel shape action
      found =>
      rw [lookup_of_empty cleared.senders] at found
      cases found
  | sent draining channel envelope resume sent shape accepted =>
      rw [shape] at nobody
      cases nobody
  | sendFailed draining channel envelope resume shape disconnected =>
      rw [shape] at nobody
      cases nobody
  | replyIgnored draining frame message resume shape action kept =>
      refine ⟨_, modifyCell_here _ here, rfl, onward ?_ ?_⟩
      · rw [shape]
        rfl
      · rw [shape]
        exact .goesOn (.reply _ action)
  | replyStarted draining frame message resume channel shape action kept =>
      refine ⟨_, modifyCell_here _ here, rfl, onward ?_ ?_⟩
      · rw [shape]
        rfl
      · rw [shape]
        exact .replies channel action
  | replied draining channel message resume shape empty =>
      have there :
          (before.setReply channel
            { buffer := some message, handleAlive := true }).cells[index]? =
            some cell := here
      refine ⟨_, modifyCell_here _ there, rfl, onward ?_ ?_⟩
      · rw [shape]
        rfl
      · rw [shape]
        exact .replied _
  | replyFailed draining channel message resume reply shape found gone =>
      refine ⟨_, modifyCell_here _ here, rfl, onward ?_ ?_⟩
      · rw [shape]
        rfl
      · rw [shape]
        exact .replied _
  | askedIsRequest draining frame resume shape action =>
      refine ⟨_, modifyCell_here _ here, rfl, onward ?_ ?_⟩
      · rw [shape]
        rfl
      · rw [shape]
        exact .goesOn (.isRequest _ action)
  | computed draining frame resume answer shape action =>
      refine ⟨_, modifyCell_here _ here, rfl, onward ?_ ?_⟩
      · rw [shape]
        rfl
      · rw [shape]
        exact .goesOn (.other _ action)
  | dropped shape =>
      refine ⟨_, modifyCell_here _ here, rfl, ?_⟩
      cases queue : cell.mailbox with
      | nil =>
          refine lower (by simp [ActorCell.drop, queue]) ?_
          rcases shape with shape | shape <;>
            simp [shape, ActorCell.drop, LoopPosition.height]
      | cons envelope rest =>
          refine shorter ?_
          simp [ActorCell.drop, queue]

/-- No requester has left an earlier reply in the channel. -/
def CanReplyOn (runtime : Runtime Value State Frame) (channel : Nat) : Prop :=
  ∀ held,
    runtime.replies[channel]? ≠ some { buffer := some held, handleAlive := true }

/-- Only the actor itself fills the channel it replies on. -/
theorem CanReplyOn.step
    {mailboxCapacity index channel : Nat}
    {log events : List (RuntimeEvent Value)}
    {before after : Runtime Value State Frame}
    {label : Label Value State Frame}
    {cell : ActorCell Value State Frame}
    (can : CanReplyOn before channel)
    (run :
      Machine.Run (machine Value State Frame)
        (withConfig Value State Frame mailboxCapacity) log before)
    (step :
      (machine Value State Frame).step? before label = some (after, events))
    (here : before.cells[index]? = some cell)
    (holds : cell.replySender = some channel)
    (notOwn : ∀ answer, label ≠ .loop index answer) :
    CanReplyOn after channel := by
  intro held full
  have unchanged
      {other : Nat}
      {reply : ReplyChannel Value}
      (different : other ≠ channel)
      (same : after.replies = before.replies.set other reply) : False := by
    rw [same, List.getElem?_set_ne different] at full
    exact can held full
  cases (effect_of_step step).repliesEffect with
  | silent events same noReply => exact can held (same ▸ full)
  | opened events same noReply =>
      obtain ⟨reply, found⟩ := channel_of_replySender run here holds
      have inside := (List.getElem?_eq_some_iff.mp found).1
      rw [same, List.getElem?_append_left inside] at full
      exact can held full
  | replied loop target message empty same =>
      refine unchanged ?_ same
      rintro rfl
      obtain silent | ⟨own, answer, other, draining, on, reply, resume, rfl,
          there, replying, -, shown⟩ := repliesOn_of_step step
      · have nothing := silent target
        simp [repliesOn] at nothing
      · obtain ⟨rfl, rfl, rfl⟩ :=
          RuntimeEvent.replied.inj (List.cons.inj shown).1
        obtain rfl :=
          replySender_unique run there
            (replySender_of_replying run there replying) here holds
        exact notOwn answer rfl
  | received target message found same | dropped target buffer found same =>
      by_cases own : target = channel
      · subst own
        rw [same, List.getElem?_set_self
          (List.getElem?_eq_some_iff.mp found).1] at full
        cases full
      · exact unchanged own same

/-- The handler of a loop is kept out of the senders by a writer. -/
def isKeptOut
    (runtime : Runtime Value State Frame)
    (cell : ActorCell Value State Frame) : Bool :=
  match cell.position with
  | .handling _ frame => runtime.keptOut cell frame
  | _ => false

/-- Nobody is kept out while no writer waits. -/
theorem isKeptOut_of_unwaited
    {runtime : Runtime Value State Frame}
    (unwaited : runtime.writerWaits = false)
    (cell : ActorCell Value State Frame) :
    runtime.isKeptOut cell = false := by
  unfold isKeptOut keptOut
  split
  · split <;> simp [unwaited]
  · rfl

/-- A loop that has not ended steps on, unless it waits for its requester or
for a writer of the senders. -/
theorem loopStep_enabled
    {runtime : Runtime Value State Frame}
    {index : Nat}
    {cell : ActorCell Value State Frame}
    (here : runtime.cells[index]? = some cell)
    (opened : cell.position.isEnded = false)
    (startable : cell.position = .queued → runtime.joined = false)
    (nobody : cell.position.holdsSenders = false)
    (admitted : runtime.isKeptOut cell = false)
    (there :
      ∀ draining channel message resume,
        cell.position = .replying draining channel message resume →
        ∃ reply, runtime.replies[channel]? = some reply)
    (free :
      ∀ channel,
        cell.position.replyChannel? = some channel →
        runtime.CanReplyOn channel) :
    ∃ after events, runtime.loopStep? index 0 = some (after, events) := by
  cases position : cell.position with
  | queued => simp [loopStep?, here, position, startable position]
  | draining | receiving =>
      cases queue : cell.mailbox <;>
        simp [loopStep?, here, position, queue]
  | handling draining frame =>
      have entered : runtime.keptOut cell frame = false := by
        simpa [isKeptOut, position] using admitted
      exact ⟨_, _, by simp only [loopStep?, here, position, entered]; rfl⟩
  | sending draining channel envelope resume =>
      rw [position] at nobody
      cases nobody
  | replying draining channel message resume =>
      obtain ⟨⟨buffer, - | -⟩, found⟩ :=
        there draining channel message resume position
      · exact ⟨_, _, loopStep_replying_dropped here position found⟩
      · cases buffer with
        | none => exact ⟨_, _, loopStep_replying_empty here position found⟩
        | some held =>
            exact absurd found
              (free channel (by rw [position]; rfl) held)
  | ended =>
      rw [position] at opened
      cases opened
  | _ => simp [loopStep?, here, position]

end Runtime

end Runact
