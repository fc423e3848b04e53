import Runact.Basic

namespace Runact.Compute

/-!
# The compute scheduler

`ComputeScheduler::new` starts `max_workers` threads that share one unbounded
queue.  Each submitted job has its own `bounded(1)` result channel and its own
cancellation flag, both reached by its `ComputeHandle`.  A step of the machine
is one channel operation, one load or store of a flag, or the start or the end
of a job; whether a job returns, panics or runs for ever is a scheduling choice.
-/

universe u

variable {workers : Nat} {Value : Type u}

/-- `ComputeError`. -/
inductive ComputeError where
  | queueFull
  | schedulerShutdown
  | workerPanic (message : String)
  deriving DecidableEq, Repr

/-- `ComputeResult`. -/
inductive ComputeResult (Value : Type u) where
  | ok (value : AnyBox Value)
  | err (error : ComputeError)
  | panic (message : String)
  | timeout
  | cancelled

/-- What a panic carries: a `&str`, a `String`, or anything else. -/
inductive PanicPayload where
  | str (message : String)
  | string (message : String)
  | other
  deriving DecidableEq, Repr

/-- The message the worker reads out of a caught panic. -/
def PanicPayload.message : PanicPayload → String
  | .str message => message
  | .string message => message
  | .other => "Unknown panic"

/-- What `catch_unwind` gives back: the boxed value, or the panic. -/
abbrev JobOutcome (Value : Type u) := Except PanicPayload (AnyBox Value)

/-- The result a worker sends for a job that has not been cancelled. -/
def computeResult : JobOutcome Value → ComputeResult Value
  | .ok value => .ok value
  | .error panic => .panic panic.message

/-- What a receive on a result channel meets. -/
inductive Received (Value : Type u) where
  | result (result : ComputeResult Value)
  | empty
  | disconnected

/-- What a `ComputeHandle` method returns, at the value type of the handle. -/
abbrev Answer (Value : Type u) := Except ComputeError Value

namespace ComputeHandle

/-- `ComputeHandle::map_result`. -/
def mapResult (type : TypeId) : ComputeResult Value → Answer Value
  | .ok value =>
      match value.downcast type with
      | some v => .ok v
      | none => .error (.workerPanic "Type mismatch")
  | .err e => .error e
  | .panic msg => .error (.workerPanic msg)
  | .timeout => .error (.workerPanic "Task timed out")
  | .cancelled => .error (.workerPanic "Task cancelled")

/-- `ComputeHandle::try_recv`; `none` while the task is still running. -/
def tryRecv (type : TypeId) : Received Value → Option (Answer Value)
  | .result result => some (mapResult type result)
  | .empty => none
  | .disconnected => some (.error .schedulerShutdown)

/-- `ComputeHandle::recv`; here `none` means that it goes on waiting. -/
def recv (type : TypeId) : Received Value → Option (Answer Value)
  | .result result => some (mapResult type result)
  | .empty => none
  | .disconnected => some (.error .schedulerShutdown)

/-- `ComputeHandle::recv_timeout`. -/
def recvTimeout (type : TypeId) : Received Value → Answer Value
  | .result result => mapResult type result
  | .empty => .error (.workerPanic "Timeout")
  | .disconnected => .error .schedulerShutdown

end ComputeHandle

/-- The receiving methods of a `ComputeHandle`. -/
inductive ReceiveMethod where
  | tryRecv
  | recv
  | recvTimeout
  deriving DecidableEq, Repr

/-- The answer of a method, or `none` while the call does not return. -/
def ReceiveMethod.answer
    (type : TypeId)
    (received : Received Value) :
    ReceiveMethod → Option (Option (Answer Value))
  | .tryRecv => some (ComputeHandle.tryRecv type received)
  | .recv => (ComputeHandle.recv type received).map some
  | .recvTimeout => some (some (ComputeHandle.recvTimeout type received))

/-- What a submitted task and its handle share. -/
structure TaskCell (Value : Type u) where
  /-- The type `T` of the job's result, and of the handle. -/
  resultType : TypeId
  cancelled : Bool
  /-- The `bounded(1)` result channel. -/
  result : Option (ComputeResult Value)
  handleDropped : Bool

/-- The flag and the channel of a new task. -/
def TaskCell.new (resultType : TypeId) : TaskCell Value where
  resultType := resultType
  cancelled := false
  result := none
  handleDropped := false

/-- Where a worker thread stands in `worker_loop`. -/
inductive WorkerPosition (Value : Type u) where
  /-- Top of the loop, about to load the stop flag. -/
  | checkingStop
  /-- In `recv_timeout` on the task queue. -/
  | receiving
  /-- About to load the task's flag before running it. -/
  | checking (task : Nat)
  /-- Past the first check, about to call the job. -/
  | starting (task : Nat)
  /-- Inside the job. -/
  | running (task : Nat)
  /-- About to load the task's flag after running it. -/
  | rechecking (task : Nat) (outcome : JobOutcome Value)
  /-- In `result_sender.send`. -/
  | sending (task : Nat) (result : ComputeResult Value)
  /-- At the end of the iteration, dropping what is left of the task. -/
  | releasing (task : Nat)
  /-- The thread has ended, and its receiver is dropped. -/
  | exited

namespace WorkerPosition

/-- The task a worker holds, and with it the task's result sender. -/
def task? : WorkerPosition Value → Option Nat
  | .checkingStop => none
  | .receiving => none
  | .checking task => some task
  | .starting task => some task
  | .running task => some task
  | .rechecking task _ => some task
  | .sending task _ => some task
  | .releasing task => some task
  | .exited => none

def isExited : WorkerPosition Value → Bool
  | .exited => true
  | _ => false

end WorkerPosition

/-- How far `shutdown`, or the drop of the scheduler, has got. -/
inductive ShutdownPhase where
  /-- Not called. -/
  | idle
  /-- The stop flag is set, `sender.take()` is next. -/
  | stopping
  /-- Joining the worker threads. -/
  | joining
  | returned
  | dropped
  deriving DecidableEq, Repr

/-- `shutdown` takes `&mut self`, so no other call is under way beside it. -/
def ShutdownPhase.borrowable : ShutdownPhase → Bool
  | .idle => true
  | .returned => true
  | _ => false

/-- The compute scheduler, its worker threads and the tasks submitted so far. -/
structure ComputeScheduler (workers : Nat) (Value : Type u) where
  /-- Whether `sender` is still `Some`. -/
  ownSender : Bool
  /-- The clones of the sender in actor contexts and elsewhere. -/
  clones : Nat
  stop : Bool
  /-- The unbounded task queue, as indices of tasks, front first. -/
  queue : List Nat
  positions : Fin workers → WorkerPosition Value
  /-- All submitted tasks, in the order of their submission. -/
  tasks : List (TaskCell Value)
  shutdownPhase : ShutdownPhase

namespace ComputeScheduler

/-- `ComputeScheduler::new`. -/
def new (workers : Nat) (Value : Type u) : ComputeScheduler workers Value where
  ownSender := true
  clones := 0
  stop := false
  queue := []
  positions := fun _ => .checkingStop
  tasks := []
  shutdownPhase := .idle

/-- Move one worker thread to another position. -/
def setPosition
    (scheduler : ComputeScheduler workers Value)
    (id : Fin workers)
    (position : WorkerPosition Value) : ComputeScheduler workers Value :=
  { scheduler with
    positions := Function.update scheduler.positions id position }

/-- Change what one task shares with its handle. -/
def modifyTask
    (scheduler : ComputeScheduler workers Value)
    (task : Nat)
    (change : TaskCell Value → TaskCell Value) :
    ComputeScheduler workers Value :=
  { scheduler with tasks := scheduler.tasks.modify task change }

/-- No worker is left to receive a task. -/
def receiversGone (scheduler : ComputeScheduler workers Value) : Bool :=
  (List.finRange workers).all fun id => (scheduler.positions id).isExited

/-- Nobody is left to submit a task. -/
def sendersGone (scheduler : ComputeScheduler workers Value) : Bool :=
  !scheduler.ownSender && scheduler.clones == 0

/-- A load of a task's cancellation flag. -/
def isCancelled
    (scheduler : ComputeScheduler workers Value)
    (task : Nat) : Bool :=
  scheduler.tasks[task]?.any (·.cancelled)

/-- Whether the task, and with it its result sender, is still somewhere. -/
def holdsResultSender
    (scheduler : ComputeScheduler workers Value)
    (task : Nat) : Bool :=
  scheduler.queue.contains task ||
    (List.finRange workers).any fun id =>
      (scheduler.positions id).task? == some task

/-- Scheduling choices. -/
inductive Label (workers : Nat) (Value : Type u) where
  /-- `ComputeScheduler::spawn` of a job with result type `T`. -/
  | spawn (resultType : TypeId)
  /-- `ActorContext::spawn_compute`, in a context with or without a sender. -/
  | spawnCompute (resultType : TypeId) (hasSender : Bool)
  /-- `ComputeScheduler::sender`, or a clone of a clone. -/
  | cloneSender
  | dropSender
  /-- `ComputeHandle::cancel`. -/
  | cancel (task : Nat)
  | receive (task : Nat) (method : ReceiveMethod)
  | dropHandle (task : Nat)
  /-- The next step of a worker that is not inside a job. -/
  | worker (id : Fin workers)
  /-- `recv_timeout` of a worker times out. -/
  | timeout (id : Fin workers)
  /-- The job a worker runs returns or panics. -/
  | jobEnds (id : Fin workers) (outcome : Except PanicPayload Value)
  /-- Dropping the rest of a task panics and ends the thread. -/
  | dropPanics (id : Fin workers)
  /-- `shutdown` stores `true` into the stop flag. -/
  | setStop
  /-- `shutdown` takes the sender. -/
  | takeSender
  /-- `shutdown` has joined all worker threads. -/
  | joined
  /-- The scheduler is dropped. -/
  | dropScheduler

/-- What a step makes visible. -/
inductive Event (Value : Type u) where
  | submitted (task : Nat)
  /-- A submission returned an error. -/
  | refused (error : ComputeError)
  /-- `spawn` panicked on the `unwrap` of the taken sender. -/
  | unwrapPanicked
  | cancelCalled (task : Nat)
  | taken (task : Nat)
  /-- The first load of the task's flag by its worker. -/
  | checked (task : Nat)
  | started (task : Nat)
  | ended (task : Nat) (outcome : JobOutcome Value)
  /-- The second load of the task's flag by its worker. -/
  | rechecked (task : Nat)
  /-- A result was put into the result channel. -/
  | sent (task : Nat) (result : ComputeResult Value)
  /-- A handle took a result out of its channel. -/
  | received (task : Nat) (result : ComputeResult Value)
  /-- A receiving method of a handle returned. -/
  | answered (task : Nat) (answer : Option (Answer Value))

/-- `Sender::send` of a new task: an error once all receivers are dropped. -/
def submit
    (scheduler : ComputeScheduler workers Value)
    (resultType : TypeId) :
    ComputeScheduler workers Value × List (Event Value) :=
  if scheduler.receiversGone then
    (scheduler, [.refused .schedulerShutdown])
  else
    ({ scheduler with
        queue := scheduler.queue ++ [scheduler.tasks.length]
        tasks := scheduler.tasks ++ [.new resultType] },
      [.submitted scheduler.tasks.length])

/-- A worker thread ends; the last receiver to go discards the queue. -/
def exit
    (scheduler : ComputeScheduler workers Value)
    (id : Fin workers) : ComputeScheduler workers Value :=
  let left := scheduler.setPosition id .exited
  if left.receiversGone then { left with queue := [] } else left

/-- `result_sender.send(..)`, whose own result is ignored. -/
def sendResult?
    (scheduler : ComputeScheduler workers Value)
    (id : Fin workers)
    (task : Nat)
    (result : ComputeResult Value) :
    Option (ComputeScheduler workers Value × List (Event Value)) :=
  match scheduler.tasks[task]? with
  | none => none
  | some cell =>
      if cell.handleDropped then
        some (scheduler.setPosition id (.releasing task), [])
      else
        match cell.result with
        -- the channel is full: `send` waits
        | some _ => none
        | none =>
            some ((scheduler.modifyTask task fun cell =>
                { cell with result := some result }).setPosition
                  id (.releasing task),
              [.sent task result])

/-- The body of `worker_loop`, one step at a time. -/
def workerStep?
    (scheduler : ComputeScheduler workers Value)
    (id : Fin workers) :
    Option (ComputeScheduler workers Value × List (Event Value)) :=
  match scheduler.positions id with
  | .checkingStop =>
      if scheduler.stop then
        some (scheduler.exit id, [])
      else
        some (scheduler.setPosition id .receiving, [])
  | .receiving =>
      match scheduler.queue with
      | task :: rest =>
          some ({ scheduler with queue := rest }.setPosition
              id (.checking task),
            [.taken task])
      | [] =>
          if scheduler.sendersGone then
            some (scheduler.exit id, [])
          else
            none
  | .checking task =>
      if scheduler.isCancelled task then
        some (scheduler.setPosition id (.sending task .cancelled),
          [.checked task])
      else
        some (scheduler.setPosition id (.starting task), [.checked task])
  | .starting task =>
      some (scheduler.setPosition id (.running task), [.started task])
  | .running _ => none
  | .rechecking task outcome =>
      if scheduler.isCancelled task then
        some (scheduler.setPosition id (.sending task .cancelled),
          [.rechecked task])
      else
        some (scheduler.setPosition id
            (.sending task (computeResult outcome)),
          [.rechecked task])
  | .sending task result => scheduler.sendResult? id task result
  | .releasing _ => some (scheduler.setPosition id .checkingStop, [])
  | .exited => none

/-- A receiving method of a handle, when it returns. -/
def receive?
    (scheduler : ComputeScheduler workers Value)
    (task : Nat)
    (cell : TaskCell Value)
    (method : ReceiveMethod) :
    Option (ComputeScheduler workers Value × List (Event Value)) :=
  match cell.result with
  | some result =>
      (method.answer cell.resultType (.result result)).map fun answer =>
        (scheduler.modifyTask task fun cell => { cell with result := none },
          [.received task result, .answered task answer])
  | none =>
      let received :=
        if scheduler.holdsResultSender task then
          Received.empty
        else
          Received.disconnected
      (method.answer cell.resultType received).map fun answer =>
        (scheduler, [.answered task answer])

/-- The machine of the compute scheduler, its clients and its workers. -/
def machine (workers : Nat) (Value : Type u) :
    Machine (ComputeScheduler workers Value) (Label workers Value)
      (Event Value) where
  step?
    | scheduler, .spawn resultType =>
        if scheduler.shutdownPhase.borrowable then
          if scheduler.ownSender then
            some (scheduler.submit resultType)
          else
            some (scheduler, [.unwrapPanicked])
        else
          none
    | scheduler, .spawnCompute resultType hasSender =>
        if hasSender then
          if 0 < scheduler.clones then
            some (scheduler.submit resultType)
          else
            none
        else
          some (scheduler, [.refused .schedulerShutdown])
    | scheduler, .cloneSender =>
        if (scheduler.shutdownPhase.borrowable && scheduler.ownSender) ||
            0 < scheduler.clones then
          some ({ scheduler with clones := scheduler.clones + 1 }, [])
        else
          none
    | scheduler, .dropSender =>
        if 0 < scheduler.clones then
          some ({ scheduler with clones := scheduler.clones - 1 }, [])
        else
          none
    | scheduler, .cancel task =>
        match scheduler.tasks[task]? with
        | some cell =>
            if cell.handleDropped then
              none
            else
              some (scheduler.modifyTask task fun cell =>
                  { cell with cancelled := true },
                [.cancelCalled task])
        | none => none
    | scheduler, .receive task method =>
        match scheduler.tasks[task]? with
        | some cell =>
            if cell.handleDropped then
              none
            else
              scheduler.receive? task cell method
        | none => none
    | scheduler, .dropHandle task =>
        some (scheduler.modifyTask task fun cell =>
          { cell with result := none, handleDropped := true }, [])
    | scheduler, .worker id => scheduler.workerStep? id
    | scheduler, .timeout id =>
        match scheduler.positions id with
        | .receiving =>
            if scheduler.queue.isEmpty && !scheduler.sendersGone then
              some (scheduler.setPosition id .checkingStop, [])
            else
              none
        | _ => none
    | scheduler, .jobEnds id outcome =>
        match scheduler.positions id with
        | .running task =>
            match scheduler.tasks[task]? with
            | none => none
            | some cell =>
                let boxed := outcome.map fun value =>
                  ⟨cell.resultType, value⟩
                some (scheduler.setPosition id (.rechecking task boxed),
                  [.ended task boxed])
        | _ => none
    | scheduler, .dropPanics id =>
        match scheduler.positions id with
        | .releasing _ => some (scheduler.exit id, [])
        | _ => none
    | scheduler, .setStop =>
        if scheduler.shutdownPhase.borrowable then
          some ({ scheduler with
            stop := true, shutdownPhase := .stopping }, [])
        else
          none
    | scheduler, .takeSender =>
        if scheduler.shutdownPhase = .stopping then
          some ({ scheduler with
            ownSender := false, shutdownPhase := .joining }, [])
        else
          none
    | scheduler, .joined =>
        if scheduler.shutdownPhase = .joining && scheduler.receiversGone then
          some ({ scheduler with shutdownPhase := .returned }, [])
        else
          none
    | scheduler, .dropScheduler =>
        if scheduler.shutdownPhase.borrowable then
          some ({ scheduler with
            ownSender := false, shutdownPhase := .dropped }, [])
        else
          none

/-- What a step does, one rule for each kind of step. -/
inductive Effect
    (before : ComputeScheduler workers Value) :
    ComputeScheduler workers Value → List (Event Value) → Prop where
  /-- Senders, the stop flag and refused submissions. -/
  | around
      (after : ComputeScheduler workers Value)
      (events : List (Event Value)) :
      after.queue = before.queue →
      after.positions = before.positions →
      after.tasks = before.tasks →
      (∀ event ∈ events,
        event = .refused .schedulerShutdown ∨ event = .unwrapPanicked) →
      Effect before after events
  | submitted (resultType : TypeId) :
      Effect before
        { before with
          queue := before.queue ++ [before.tasks.length]
          tasks := before.tasks ++ [.new resultType] }
        [.submitted before.tasks.length]
  | cancelled (task : Nat) (cell : TaskCell Value) :
      before.tasks[task]? = some cell →
      Effect before
        (before.modifyTask task fun cell => { cell with cancelled := true })
        [.cancelCalled task]
  | received
      (task : Nat) (cell : TaskCell Value) (result : ComputeResult Value)
      (method : ReceiveMethod) (answer : Option (Answer Value)) :
      before.tasks[task]? = some cell →
      cell.result = some result →
      method.answer cell.resultType (.result result) = some answer →
      Effect before
        (before.modifyTask task fun cell => { cell with result := none })
        [.received task result, .answered task answer]
  /-- A receiving method returned without a result. -/
  | unanswered
      (task : Nat) (type : TypeId) (met : Received Value)
      (method : ReceiveMethod) (answer : Option (Answer Value)) :
      (∀ result, met ≠ .result result) →
      method.answer type met = some answer →
      Effect before before [.answered task answer]
  | handleDropped (task : Nat) :
      Effect before
        (before.modifyTask task fun cell =>
          { cell with result := none, handleDropped := true })
        []
  | taken (id : Fin workers) (task : Nat) (rest : List Nat) :
      before.positions id = .receiving →
      before.queue = task :: rest →
      Effect before
        ({ before with queue := rest }.setPosition id (.checking task))
        [.taken task]
  /-- A worker without a task goes around in its loop. -/
  | looped (id : Fin workers) (position : WorkerPosition Value) :
      (before.positions id = .checkingStop ∨
        before.positions id = .receiving ∨
        ∃ task, before.positions id = .releasing task) →
      (position = .checkingStop ∨ position = .receiving) →
      Effect before (before.setPosition id position) []
  | skipped (id : Fin workers) (task : Nat) :
      before.positions id = .checking task →
      before.isCancelled task = true →
      Effect before (before.setPosition id (.sending task .cancelled))
        [.checked task]
  | passed (id : Fin workers) (task : Nat) :
      before.positions id = .checking task →
      before.isCancelled task = false →
      Effect before (before.setPosition id (.starting task))
        [.checked task]
  | started (id : Fin workers) (task : Nat) :
      before.positions id = .starting task →
      Effect before (before.setPosition id (.running task)) [.started task]
  | ended
      (id : Fin workers) (task : Nat) (cell : TaskCell Value)
      (outcome : Except PanicPayload Value) :
      before.positions id = .running task →
      before.tasks[task]? = some cell →
      Effect before
        (before.setPosition id (.rechecking task
          (outcome.map fun value => ⟨cell.resultType, value⟩)))
        [.ended task (outcome.map fun value => ⟨cell.resultType, value⟩)]
  | discarded
      (id : Fin workers) (task : Nat) (outcome : JobOutcome Value) :
      before.positions id = .rechecking task outcome →
      before.isCancelled task = true →
      Effect before (before.setPosition id (.sending task .cancelled))
        [.rechecked task]
  | kept (id : Fin workers) (task : Nat) (outcome : JobOutcome Value) :
      before.positions id = .rechecking task outcome →
      before.isCancelled task = false →
      Effect before
        (before.setPosition id (.sending task (computeResult outcome)))
        [.rechecked task]
  | sent
      (id : Fin workers) (task : Nat) (cell : TaskCell Value)
      (result : ComputeResult Value) :
      before.positions id = .sending task result →
      before.tasks[task]? = some cell →
      Effect before
        ((before.modifyTask task fun cell =>
          { cell with result := some result }).setPosition
            id (.releasing task))
        [.sent task result]
  /-- The handle is gone, and the result with it. -/
  | unsent
      (id : Fin workers) (task : Nat) (result : ComputeResult Value) :
      before.positions id = .sending task result →
      Effect before (before.setPosition id (.releasing task)) []
  | exited (id : Fin workers) :
      (before.positions id = .checkingStop ∨
        before.positions id = .receiving ∨
        ∃ task, before.positions id = .releasing task) →
      Effect before (before.exit id) []

theorem submit_effect
    {before after : ComputeScheduler workers Value}
    {resultType : TypeId}
    {events : List (Event Value)}
    (step : before.submit resultType = (after, events)) :
    Effect before after events := by
  unfold submit at step
  split at step <;> cases step
  · exact .around before _ rfl rfl rfl (by simp)
  · exact .submitted resultType

theorem receive_effect
    {before after : ComputeScheduler workers Value}
    {task : Nat}
    {cell : TaskCell Value}
    {method : ReceiveMethod}
    {events : List (Event Value)}
    (there : before.tasks[task]? = some cell)
    (step : before.receive? task cell method = some (after, events)) :
    Effect before after events := by
  unfold receive? at step
  split at step
  · rename_i result held
    simp only [Option.map_eq_some_iff, Prod.mk.injEq] at step
    obtain ⟨answer, answered, rfl, rfl⟩ := step
    exact .received task cell result method answer there held answered
  · simp only [Option.map_eq_some_iff, Prod.mk.injEq] at step
    obtain ⟨answer, answered, rfl, rfl⟩ := step
    refine .unanswered task cell.resultType _ method answer ?_ answered
    intro result
    split <;> simp

theorem sendResult_effect
    {before after : ComputeScheduler workers Value}
    {id : Fin workers}
    {task : Nat}
    {result : ComputeResult Value}
    {events : List (Event Value)}
    (position : before.positions id = .sending task result)
    (step : before.sendResult? id task result = some (after, events)) :
    Effect before after events := by
  unfold sendResult? at step
  split at step
  · cases step
  · rename_i cell there
    split at step
    · simp only [Option.some.injEq, Prod.mk.injEq] at step
      obtain ⟨rfl, rfl⟩ := step
      exact .unsent id task result position
    · split at step
      · cases step
      · simp only [Option.some.injEq, Prod.mk.injEq] at step
        obtain ⟨rfl, rfl⟩ := step
        exact .sent id task cell result position there

theorem workerStep_effect
    {before after : ComputeScheduler workers Value}
    {id : Fin workers}
    {events : List (Event Value)}
    (step : before.workerStep? id = some (after, events)) :
    Effect before after events := by
  unfold workerStep? at step
  split at step
  case h_1 position =>
      split at step <;> cases step
      · exact .exited id (.inl position)
      · exact .looped id .receiving (.inl position) (.inr rfl)
  case h_2 position =>
      split at step
      · rename_i task rest queue
        cases step
        exact .taken id task rest position queue
      · split at step <;> cases step
        exact .exited id (.inr (.inl position))
  case h_3 task position =>
      split at step <;> cases step
      · exact .skipped id task position ‹_›
      · exact .passed id task position (Bool.eq_false_iff.mpr ‹_›)
  case h_4 task position =>
      cases step
      exact .started id task position
  case h_5 => cases step
  case h_6 task outcome position =>
      split at step <;> cases step
      · exact .discarded id task outcome position ‹_›
      · exact .kept id task outcome position (Bool.eq_false_iff.mpr ‹_›)
  case h_7 task result position =>
      exact sendResult_effect position step
  case h_8 task position =>
      cases step
      exact .looped id .checkingStop (.inr (.inr ⟨task, position⟩)) (.inl rfl)
  case h_9 => cases step

/-- Every enabled step has one of the effects. -/
theorem effect_of_step
    {before after : ComputeScheduler workers Value}
    {label : Label workers Value}
    {events : List (Event Value)}
    (step :
      (machine workers Value).step? before label = some (after, events)) :
    Effect before after events := by
  cases label with
  | spawn resultType =>
      simp only [machine] at step
      split at step
      · split at step
        · exact submit_effect (Option.some.inj step)
        · cases step
          exact .around _ _ rfl rfl rfl (by simp)
      · cases step
  | spawnCompute resultType hasSender =>
      simp only [machine] at step
      split at step
      · split at step
        · exact submit_effect (Option.some.inj step)
        · cases step
      · cases step
        exact .around _ _ rfl rfl rfl (by simp)
  | cancel task =>
      simp only [machine] at step
      split at step
      · rename_i cell there
        split at step <;> cases step
        exact .cancelled task cell there
      · cases step
  | receive task method =>
      simp only [machine] at step
      split at step
      · rename_i cell there
        split at step
        · cases step
        · exact receive_effect there step
      · cases step
  | dropHandle task =>
      cases step
      exact .handleDropped task
  | worker id =>
      exact workerStep_effect step
  | timeout id =>
      simp only [machine] at step
      split at step
      · rename_i position
        split at step <;> cases step
        exact .looped id .checkingStop (.inr (.inl position)) (.inl rfl)
      · cases step
  | jobEnds id outcome =>
      simp only [machine] at step
      split at step
      · rename_i task position
        split at step
        · cases step
        · rename_i cell there
          cases step
          exact .ended id task cell outcome position there
      · cases step
  | dropPanics id =>
      simp only [machine] at step
      split at step
      · rename_i task position
        cases step
        exact .exited id (.inr (.inr ⟨task, position⟩))
      · cases step
  | cloneSender | dropSender | setStop | takeSender | joined
  | dropScheduler =>
      simp only [machine] at step
      split at step <;> cases step
      exact .around _ _ rfl rfl rfl (by simp)

end ComputeScheduler

end Runact.Compute
