import Runact.ComputeResults

namespace Runact.Compute.ComputeScheduler

/-!
# What a handle tells of failures

`map_result` and `recv_timeout` fold panics, cancellations and elapsed waits
into `ComputeError::WorkerPanic`, with a text for each.  The text of a panic is
the string the job panicked with, so it may be one of the other texts as well;
for a payload that is no string it is a fixed one.
-/

universe u

variable {workers : Nat} {Value : Type u}

/-- `recv_timeout` returned with nothing, while a result could still come. -/
def Elapsed
    (scheduler : ComputeScheduler workers Value)
    (task : Nat)
    (method : ReceiveMethod)
    (events : List (Event Value)) : Prop :=
  method = .recvTimeout ∧
    (∀ result, .received task result ∉ events) ∧
    scheduler.holdsResultSender task = true

/-- What a receive call answers when something has failed. -/
structure FailuresTold
    (log : List (Event Value))
    (scheduler : ComputeScheduler workers Value)
    (task : Nat)
    (method : ReceiveMethod)
    (events : List (Event Value))
    (answer : Option (Answer Value)) : Prop where
  workerPanic :
    ∀ message,
      answer = some (.error (.workerPanic message)) ↔
        .received task (.panic message) ∈ events ∨
          (.received task .cancelled ∈ events ∧
            message = "Task cancelled") ∨
          (Elapsed scheduler task method events ∧ message = "Timeout")
  /-- The message is the string the job panicked with, or tells that there was
  none. -/
  panicked :
    ∀ message,
      .received task (.panic message) ∈ events →
        .ended task (.error (.str message)) ∈ log ∨
          .ended task (.error (.string message)) ∈ log ∨
          (.ended task (.error .other) ∈ log ∧ message = "Unknown panic")
  cancelled :
    .received task .cancelled ∈ events → .cancelCalled task ∈ log

/-- All methods map a result they receive in the same way. -/
theorem answer_result
    (type : TypeId)
    (method : ReceiveMethod)
    (result : ComputeResult Value) :
    method.answer type (.result result) =
      some (some (ComputeHandle.mapResult type result)) := by
  cases method <;> rfl

/-- A panic is told by the string it carries, or by the text for none. -/
theorem panic_message
    {log : List (Event Value)}
    {scheduler : ComputeScheduler workers Value}
    (run :
      Machine.Run (machine workers Value) (new workers Value) log scheduler)
    {task : Nat}
    {message : String}
    (sent : .sent task (.panic message) ∈ log) :
    .ended task (.error (.str message)) ∈ log ∨
      .ended task (.error (.string message)) ∈ log ∨
      (.ended task (.error .other) ∈ log ∧ message = "Unknown panic") := by
  obtain ⟨payload, ended, rfl⟩ := sent_panic run sent
  cases payload with
  | str carried => exact .inl ended
  | string carried => exact .inr (.inl ended)
  | other => exact .inr (.inr ⟨ended, rfl⟩)

/-- Without a result, only an elapsed wait is told as a panic. -/
theorem answer_nothing
    {type : TypeId}
    {method : ReceiveMethod}
    {waits : Bool}
    {answer : Option (Answer Value)}
    (answered :
      method.answer type (if waits then .empty else .disconnected) =
        some answer)
    (message : String) :
    answer = some (.error (.workerPanic message)) ↔
      method = .recvTimeout ∧ waits = true ∧ message = "Timeout" := by
  cases method <;> cases waits <;>
    simp only [ReceiveMethod.answer, ComputeHandle.tryRecv,
      ComputeHandle.recv, ComputeHandle.recvTimeout, ↓reduceIte,
      Bool.false_eq_true, Option.map_some, Option.map_none,
      Option.some.injEq, reduceCtorEq] at answered <;>
    subst answered <;>
    simp [eq_comm]

/-- Of the results that reach a handle, panics and cancellations are told as
panics. -/
theorem mapResult_panic
    {log : List (Event Value)}
    {scheduler : ComputeScheduler workers Value}
    (run :
      Machine.Run (machine workers Value) (new workers Value) log scheduler)
    {task : Nat}
    {cell : TaskCell Value}
    {result : ComputeResult Value}
    (there : scheduler.tasks[task]? = some cell)
    (sent : .sent task result ∈ log)
    (message : String) :
    ComputeHandle.mapResult cell.resultType result =
        .error (.workerPanic message) ↔
      result = .panic message ∨
        result = .cancelled ∧ message = "Task cancelled" := by
  obtain ⟨rfl, -⟩ | ⟨outcome, rfl, ended⟩ := sent_cases run sent
  · simp [ComputeHandle.mapResult, eq_comm]
  · cases outcome with
    | error panic => simp [ComputeHandle.mapResult, computeResult]
    | ok value =>
        -- the `Type mismatch` branch: the job returns what its handle expects
        obtain ⟨typed, found, type⟩ :=
          (delivers_run run).typed task value ended
        obtain rfl : cell = typed := by simpa [there] using found
        simp [ComputeHandle.mapResult, computeResult, AnyBox.downcast, type]

/--
In every run, a handle answers `WorkerPanic` for a panic of its job, with the
string it panicked with or a text for none, and besides only for a cancelled
task and for an elapsed wait, each with a text of its own.
-/
theorem failures_told
    {log events : List (Event Value)}
    {scheduler after : ComputeScheduler workers Value}
    {task : Nat}
    {method : ReceiveMethod}
    {answer : Option (Answer Value)}
    (run :
      Machine.Run (machine workers Value) (new workers Value) log scheduler)
    (step :
      (machine workers Value).step? scheduler (.receive task method) =
        some (after, events))
    (answered : .answered task answer ∈ events) :
    FailuresTold log scheduler task method events answer := by
  have delivers := delivers_run run
  simp only [machine] at step
  split at step
  · rename_i cell there
    split at step
    · cases step
    · unfold receive? at step
      cases held : cell.result with
      | some result =>
          have sent := delivers.buffered task cell result there held
          simp only [held, answer_result, Option.map_some, Option.some.injEq,
            Prod.mk.injEq] at step
          obtain ⟨-, rfl⟩ := step
          obtain rfl :
              answer =
                some (ComputeHandle.mapResult cell.resultType result) := by
            simpa using answered
          constructor
          · intro message
            have notElapsed :
                ¬ Elapsed scheduler task method
                  [.received task result,
                    .answered task
                      (some (ComputeHandle.mapResult cell.resultType
                        result))] :=
              fun elapsed => elapsed.2.1 result List.mem_cons_self
            simp only [Option.some.injEq, mapResult_panic run there sent,
              notElapsed, false_and, or_false, List.mem_cons,
              Event.received.injEq, true_and, reduceCtorEq,
              List.not_mem_nil]
            exact or_congr eq_comm (and_congr_left fun _ => eq_comm)
          · intro message shown
            obtain rfl : .panic message = result := by simpa using shown
            exact panic_message run sent
          · intro shown
            obtain rfl : .cancelled = result := by simpa using shown
            obtain ⟨-, called⟩ | ⟨outcome, shape, -⟩ := sent_cases run sent
            · exact called
            · cases outcome <;> cases shape
      | none =>
          simp only [held, Option.map_eq_some_iff, Prod.mk.injEq] at step
          obtain ⟨given, returned, -, rfl⟩ := step
          obtain rfl : answer = given := by simpa using answered
          constructor
          · intro message
            rw [answer_nothing returned message]
            simp [Elapsed, and_assoc]
          · intro message shown
            simp at shown
          · intro shown
            simp at shown
  · cases step

/-- A worker takes the first task and runs its job, which panics. -/
def panicsWith
    {workers : Nat}
    (worker : Fin workers)
    (payload : PanicPayload) :
    List (Label workers Nat) :=
  [.spawn 0, .worker worker, .worker worker, .worker worker, .worker worker,
    .jobEnds worker (.error payload), .worker worker, .worker worker]

/-- A job that panicked with "boom". -/
theorem failures_told_boom :
    ∃ scheduler log after events,
      (machine 1 Nat).run? (new 1 Nat) (panicsWith 0 (.str "boom")) =
          some (scheduler, log) ∧
        (machine 1 Nat).step? scheduler (.receive 0 .recv) =
          some (after, events) ∧
        events =
          [.received 0 (.panic "boom"),
            .answered 0 (some (.error (.workerPanic "boom")))] ∧
        FailuresTold log scheduler 0 .recv events
          (some (.error (.workerPanic "boom"))) := by
  obtain ⟨scheduler, log, after, events, executed, step, shown⟩ :
      ∃ scheduler log after events,
        (machine 1 Nat).run? (new 1 Nat) (panicsWith 0 (.str "boom")) =
            some (scheduler, log) ∧
          (machine 1 Nat).step? scheduler (.receive 0 .recv) =
            some (after, events) ∧
          events =
            [.received 0 (.panic "boom"),
              .answered 0 (some (.error (.workerPanic "boom")))] :=
    ⟨_, _, _, _, rfl, rfl, rfl⟩
  exact ⟨scheduler, log, after, events, executed, step, shown,
    failures_told (Machine.run?_sound _ executed) step (by simp [shown])⟩

/-- A task that is cancelled in the queue. -/
def cancelledInQueue
    {workers : Nat}
    (worker : Fin workers) :
    List (Label workers Nat) :=
  [.spawn 0, .cancel 0, .worker worker, .worker worker, .worker worker,
    .worker worker, .receive 0 .recv]

/-- Nothing has panicked, and yet the answer is that of a job that panicked: for
a cancelled task, and for an elapsed wait.  Last, a job that panics with no
string is told as one that panics with "Unknown panic". -/
theorem failures_confused :
    (∃ scheduler log,
      (machine 1 Nat).run? (new 1 Nat) (cancelledInQueue 0) =
          some (scheduler, log) ∧
        log =
          [.submitted 0, .cancelCalled 0, .taken 0, .checked 0,
            .sent 0 .cancelled, .received 0 .cancelled,
            .answered 0 (some (.error (.workerPanic "Task cancelled")))]) ∧
      (∃ scheduler log,
        (machine 1 Nat).run? (new 1 Nat)
            (panicsWith 0 (.str "Task cancelled") ++ [.receive 0 .recv]) =
            some (scheduler, log) ∧
          .answered 0 (some (.error (.workerPanic "Task cancelled"))) ∈
            log) ∧
      (∃ scheduler log,
        (machine 1 Nat).run? (new 1 Nat)
            [.spawn 0, .receive 0 .recvTimeout] =
            some (scheduler, log) ∧
          log =
            [.submitted 0,
              .answered 0 (some (.error (.workerPanic "Timeout")))]) ∧
      (∃ scheduler log,
        (machine 1 Nat).run? (new 1 Nat)
            (panicsWith 0 (.str "Timeout") ++
              [.receive 0 .recvTimeout]) =
            some (scheduler, log) ∧
          .answered 0 (some (.error (.workerPanic "Timeout"))) ∈ log) ∧
      ∃ scheduler log,
        (machine 1 Nat).run? (new 1 Nat)
            (panicsWith 0 .other ++ [.receive 0 .recv]) =
            some (scheduler, log) ∧
          log =
            [.submitted 0, .taken 0, .checked 0, .started 0,
              .ended 0 (.error .other), .rechecked 0,
              .sent 0 (.panic "Unknown panic"),
              .received 0 (.panic "Unknown panic"),
              .answered 0 (some (.error (.workerPanic "Unknown panic")))] := by
  refine ⟨⟨_, _, rfl, rfl⟩, ⟨_, _, rfl, ?_⟩, ⟨_, _, rfl, rfl⟩,
    ⟨_, _, rfl, ?_⟩, _, _, rfl, rfl⟩
  · exact List.mem_of_getLast? rfl
  · exact List.mem_of_getLast? rfl

end Runact.Compute.ComputeScheduler
