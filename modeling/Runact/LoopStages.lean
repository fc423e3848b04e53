import Runact.RuntimeFrame

namespace Runact

/-!
# Stages of an actor loop

Leaving handler code aside, an actor loop goes through few stages, and each of
its own steps leads from one to another in few ways.  What holds of all loops
while the stop flag is not set follows from them.
-/

universe u

/-- How far an actor loop has come, its handler code left aside. -/
inductive LoopStage where
  | queued
  /-- Between two envelopes. -/
  | looping
  /-- Inside a handler call. -/
  | handling
  /-- Past a load of the stop flag that found it set, outside of handlers. -/
  | stopping
  | unwinding
  | ended
  deriving DecidableEq

/-- The stage of a position. -/
def LoopPosition.stage
    {Value Frame : Type u} :
    LoopPosition Value Frame → LoopStage
  | .queued => .queued
  | .top => .looping
  | .receiving => .looping
  | .handling .. => .handling
  | .sending .. => .handling
  | .replying .. => .handling
  | .draining => .stopping
  | .leaving => .stopping
  | .unwinding => .unwinding
  | .ended => .ended

/-- What one step of its own can make of a loop's stage. -/
def LoopStage.goesTo (stop : Bool) : LoopStage → LoopStage → Prop
  | .queued, after => after = .looping
  | .looping, after =>
      after = .looping ∨ after = .handling ∨ (stop = true ∧ after = .stopping)
  | .handling, after =>
      after = .handling ∨ after = .looping ∨ after = .unwinding
  | .stopping, after => after ≠ .queued
  | .unwinding, after => after = .ended
  | .ended, _ => False

namespace Runtime

variable {Value State Frame : Type u}

theorem finishIteration_stage
    (cell : ActorCell Value State Frame)
    (index : Nat)
    (draining : Bool) :
    (cell.finishIteration index draining).1.position.stage = .looping ∧
      (cell.finishIteration index draining).1.actor = cell.actor := by
  unfold ActorCell.finishIteration
  split
  · exact ⟨rfl, rfl⟩
  · split <;> exact ⟨rfl, rfl⟩

theorem takeEnvelope_stage
    (cell : ActorCell Value State Frame)
    (index : Nat)
    (draining : Bool)
    (envelope : MessageEnvelope Value)
    (rest : List (MessageEnvelope Value)) :
    let taken := (cell.takeEnvelope index draining envelope rest).1
    (taken.position.stage = .looping ∨ taken.position.stage = .handling) ∧
      taken.actor = cell.actor := by
  unfold ActorCell.takeEnvelope
  split
  · exact ⟨.inr rfl, rfl⟩
  · have finished :=
      finishIteration_stage { cell with mailbox := rest } index draining
    exact ⟨.inl finished.1, finished.2⟩

/-- The stage a loop reaches by a step of its own. -/
theorem loopStep_stage
    {runtime after : Runtime Value State Frame}
    {index answer : Nat}
    {cell : ActorCell Value State Frame}
    {events : List (RuntimeEvent Value)}
    (step : runtime.loopStep? index answer = some (after, events))
    (here : runtime.cells[index]? = some cell) :
    ∃ moved,
      after.cells[index]? = some moved ∧
        moved.actor = cell.actor ∧
        cell.position.stage.goesTo runtime.stop moved.position.stage := by
  have modified
      {other : Runtime Value State Frame}
      {change : ActorCell Value State Frame → ActorCell Value State Frame}
      {start : ActorCell Value State Frame}
      {stage : LoopStage}
      (there : other.cells[index]? = some start)
      (sameActor : (change start).actor = cell.actor)
      (goesTo : stage.goesTo runtime.stop (change start).position.stage) :
      ∃ moved,
        (other.modifyCell index change).cells[index]? = some moved ∧
          moved.actor = cell.actor ∧
          stage.goesTo runtime.stop moved.position.stage :=
    ⟨change start, modifyCell_here change there, sameActor, goesTo⟩
  unfold loopStep? at step
  simp only [here] at step
  cases shape : cell.position with
  | queued =>
      simp only [shape] at step
      split at step <;> cases step
      refine modified here ?_ ?_ <;>
        simp [LoopPosition.stage, LoopStage.goesTo]
  | top =>
      simp only [shape, Option.some.injEq, Prod.mk.injEq] at step
      obtain ⟨rfl, rfl⟩ := step
      refine modified here ?_ ?_
      · rfl
      · cases stopped : runtime.stop <;>
          simp [LoopPosition.stage, LoopStage.goesTo]
  | draining =>
      simp only [shape] at step
      split at step <;> cases step
      · refine modified here ?_ ?_ <;>
          simp [LoopPosition.stage, LoopStage.goesTo]
      · rename_i envelope rest queue
        have taken := takeEnvelope_stage cell index true envelope rest
        refine modified here ?_ ?_
        · exact taken.2
        · rcases taken.1 with stage | stage <;> rw [stage] <;>
            simp [LoopPosition.stage, LoopStage.goesTo]
  | receiving =>
      simp only [shape] at step
      split at step <;> cases step
      · refine modified here ?_ ?_ <;>
          simp [LoopPosition.stage, LoopStage.goesTo]
      · rename_i envelope rest queue
        have taken := takeEnvelope_stage cell index false envelope rest
        refine modified here ?_ ?_
        · exact taken.2
        · rcases taken.1 with stage | stage <;> rw [stage] <;>
            simp [LoopPosition.stage, LoopStage.goesTo]
  | handling draining frame =>
      simp only [shape, Option.ite_none_left_eq_some, Option.some.injEq]
        at step
      replace step := step.2
      unfold handlerStep at step
      split at step
      · rename_i state action
        cases step
        have finished :=
          finishIteration_stage { cell with state := state } index draining
        refine modified here ?_ ?_
        · exact finished.2
        · rw [finished.1]
          simp [LoopPosition.stage, LoopStage.goesTo]
      · cases step
        refine modified here ?_ ?_ <;>
          simp [LoopPosition.stage, LoopStage.goesTo]
      · split at step <;> cases step <;>
          refine modified here ?_ ?_ <;>
          simp [LoopPosition.stage, LoopStage.goesTo]
      · split at step <;> cases step <;>
          refine modified here ?_ ?_ <;>
          simp [LoopPosition.stage, LoopStage.goesTo]
      · cases step
        refine modified here ?_ ?_ <;>
          simp [LoopPosition.stage, LoopStage.goesTo]
      · cases step
        refine modified here ?_ ?_ <;>
          simp [LoopPosition.stage, LoopStage.goesTo]
  | sending draining channel envelope resume =>
      simp only [shape] at step
      split at step
      · rename_i sent accepted
        cases step
        obtain ⟨extra, there, -⟩ := OnlyExtended.offered accepted here
        refine modified there ?_ ?_ <;>
          simp [LoopPosition.stage, LoopStage.goesTo]
      · cases step
      · cases step
        refine modified here ?_ ?_ <;>
          simp [LoopPosition.stage, LoopStage.goesTo]
  | replying draining channel message resume =>
      simp only [shape] at step
      split at step
      · cases step
      · split at step
        · split at step <;> cases step
          refine modified here ?_ ?_ <;>
            simp [LoopPosition.stage, LoopStage.goesTo]
        · cases step
          refine modified here ?_ ?_ <;>
            simp [LoopPosition.stage, LoopStage.goesTo]
  | leaving =>
      simp only [shape, Option.some.injEq, Prod.mk.injEq] at step
      obtain ⟨rfl, rfl⟩ := step
      refine modified here ?_ ?_ <;>
        simp [ActorCell.drop, LoopPosition.stage, LoopStage.goesTo]
  | unwinding =>
      simp only [shape, Option.some.injEq, Prod.mk.injEq] at step
      obtain ⟨rfl, rfl⟩ := step
      refine modified here ?_ ?_ <;>
        simp [ActorCell.drop, LoopPosition.stage, LoopStage.goesTo]
  | ended =>
      simp [shape] at step

/-- The stop flag is never cleared. -/
theorem step_stop
    {runtime after : Runtime Value State Frame}
    {label : Label Value State Frame}
    {events : List (RuntimeEvent Value)}
    (step :
      (machine Value State Frame).step? runtime label = some (after, events))
    (running : after.stop = false) :
    runtime.stop = false := by
  cases label with
  | loop index answer =>
      rw [(loopStep_onlyLoops step).same] at running
      exact running
  | _ =>
      simp only [machine, spawn, spawnSupervisor, send, sendBlocking,
        deliverTimer, unblock?, request, shutdownStep?] at step
      grind [setReply]

/-- A shutdown under way has stored the stop flag first. -/
theorem step_phase
    {runtime after : Runtime Value State Frame}
    {label : Label Value State Frame}
    {events : List (RuntimeEvent Value)}
    (step :
      (machine Value State Frame).step? runtime label = some (after, events))
    (earlier :
      runtime.stop = false →
      runtime.shutdownPhase = .idle ∧ runtime.joined = false)
    (running : after.stop = false) :
    after.shutdownPhase = .idle ∧ after.joined = false := by
  have before := earlier (step_stop step running)
  cases label with
  | loop index answer =>
      rw [(loopStep_onlyLoops step).same]
      exact before
  | _ =>
      simp only [machine, spawn, spawnSupervisor, send, sendBlocking,
        deliverTimer, unblock?, request, shutdownStep?] at step
      grind [setReply]

/-- `Runtime::spawn` adds an actor loop, and nothing else does. -/
theorem step_length
    {runtime after : Runtime Value State Frame}
    {label : Label Value State Frame}
    {events : List (RuntimeEvent Value)}
    (step :
      (machine Value State Frame).step? runtime label = some (after, events)) :
    after.cells.length =
      match label with
      | .spawn .. => runtime.cells.length + 1
      | _ => runtime.cells.length := by
  cases label with
  | loop index answer => exact (loopStep_onlyLoops step).length
  | _ =>
      simp only [machine, spawn, spawnSupervisor, send, sendBlocking,
        deliverTimer, unblock?, request, shutdownStep?] at step
      grind [setReply]

/-- A loop after a step is new, or was there before it. -/
theorem step_cellBefore
    {runtime after : Runtime Value State Frame}
    {label : Label Value State Frame}
    {events : List (RuntimeEvent Value)}
    (step :
      (machine Value State Frame).step? runtime label = some (after, events))
    {index : Nat}
    {cell : ActorCell Value State Frame}
    (here : after.cells[index]? = some cell) :
    (∃ old, runtime.cells[index]? = some old) ∨
      ∃ id actor state, cell = ActorCell.new id actor state := by
  have bound := (List.getElem?_eq_some_iff.mp here).1
  rcases step_cells_length step with same | ⟨id, actor, state, shape⟩
  · exact .inl ⟨_, List.getElem?_eq_getElem (same ▸ bound)⟩
  · rw [shape, List.getElem?_append] at here
    split at here
    · exact .inl ⟨cell, here⟩
    · have fresh := List.mem_of_getElem? here
      exact .inr ⟨id, actor, state, List.mem_singleton.mp fresh⟩

theorem position_of_ended
    {position : LoopPosition Value Frame}
    (ended : position.stage = .ended) :
    position = .ended := by
  cases position <;> simp_all [LoopPosition.stage]

/-- What a step makes of the stage and the mailbox of a loop. -/
theorem step_stage
    {runtime after : Runtime Value State Frame}
    {label : Label Value State Frame}
    {events : List (RuntimeEvent Value)}
    (step :
      (machine Value State Frame).step? runtime label = some (after, events))
    {index : Nat}
    {cell : ActorCell Value State Frame}
    (here : runtime.cells[index]? = some cell) :
    OnlyExtended index cell after ∨
      ∃ moved,
        after.cells[index]? = some moved ∧
          moved.actor = cell.actor ∧
          cell.position.stage.goesTo runtime.stop moved.position.stage := by
  by_cases own : ∃ answer, label = .loop index answer
  · obtain ⟨answer, rfl⟩ := own
    exact .inr (loopStep_stage step here)
  · exact .inl (step_others step here fun answer same => own ⟨answer, same⟩)

/-- The loops while the stop flag is not set. -/
structure Unstopped (runtime : Runtime Value State Frame) : Prop where
  phaseIdle : runtime.shutdownPhase = .idle
  notJoined : runtime.joined = false
  notStopping :
    ∀ (index : Nat) (cell : ActorCell Value State Frame),
      runtime.cells[index]? = some cell →
      cell.position.stage ≠ .stopping
  /-- A channel without a buffer accepts nothing for a loop in a run queue. -/
  unheard :
    runtime.mailboxCapacity = 0 →
    ∀ (index : Nat) (cell : ActorCell Value State Frame),
      runtime.cells[index]? = some cell →
      cell.position.stage = .queued →
      cell.mailbox = []

theorem hasRoom_zero_queued
    {cell : ActorCell Value State Frame}
    (queued : cell.position.stage = .queued)
    (blocking : Bool) :
    hasRoom 0 blocking cell = false := by
  unfold hasRoom
  cases shape : cell.position <;> simp_all [LoopPosition.stage]

/-- Every step keeps what holds until the stop flag is set. -/
theorem unstopped_step
    {runtime after : Runtime Value State Frame}
    {label : Label Value State Frame}
    {events : List (RuntimeEvent Value)}
    (earlier : runtime.stop = false → Unstopped runtime)
    (step :
      (machine Value State Frame).step? runtime label = some (after, events))
    (running : after.stop = false) :
    Unstopped after := by
  have wasRunning := step_stop step running
  have before := earlier wasRunning
  have phase :=
    step_phase step (fun _ => ⟨before.phaseIdle, before.notJoined⟩) running
  constructor
  · exact phase.1
  · exact phase.2
  · intro index cell here
    rcases step_cellBefore step here with ⟨old, there⟩ | ⟨id, actor, state, rfl⟩
    · have oldStage := before.notStopping index old there
      rcases step_stage step there with extended | moved
      · obtain ⟨extra, same, -⟩ := extended
        cases here.symm.trans same
        exact oldStage
      · obtain ⟨moved, same, -, goesTo⟩ := moved
        obtain rfl : cell = moved := by simpa [here] using same
        intro stopping
        rw [stopping, wasRunning] at goesTo
        cases stage : old.position.stage <;>
          simp_all [LoopStage.goesTo]
    · simp [ActorCell.new, LoopPosition.stage]
  · intro rendezvous index cell here queued
    rw [step_mailboxCapacity step] at rendezvous
    rcases step_cellBefore step here with ⟨old, there⟩ | ⟨id, actor, state, rfl⟩
    · rcases step_stage step there with extended | moved
      · obtain ⟨extra, same, room⟩ := extended
        cases here.symm.trans same
        have empty := before.unheard rendezvous index old there queued
        rcases room with none | ⟨blocking, room⟩
        · simp [empty, none]
        · have wasQueued : old.position.stage = .queued := queued
          rw [step_mailboxCapacity step, rendezvous,
            hasRoom_zero_queued wasQueued blocking] at room
          cases room
      · obtain ⟨moved, same, -, goesTo⟩ := moved
        obtain rfl : cell = moved := by simpa [here] using same
        rw [queued] at goesTo
        cases stage : old.position.stage <;>
          simp_all [LoopStage.goesTo]
    · rfl

end Runtime

end Runact
