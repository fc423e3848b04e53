import Runact.ActorPool

namespace Runact.ActorPool

/-!
# Which messages are served

A message that waits in a mailbox is served when the workers and the actor loops
can go on, by their own steps and with every handler call returning, until the
handler is called on it.  The loops choose the steps; what a handler does before
it returns is chosen against them.
-/

universe u

variable {workers : Nat} [NeZero workers] {Value State Frame : Type u}

/-- The steps a waiting actor may hope for: of workers, and of loops outside of
their handlers. -/
inductive ServiceStep
    (before : ActorPool workers Value State Frame) :
    ActorPool workers Value State Frame → List (RuntimeEvent Value) →
      Prop where
  | worker
      (id : Fin workers)
      (after : ActorPool workers Value State Frame)
      (events : List (RuntimeEvent Value)) :
      (machine workers Value State Frame).step? before (.worker id) =
        some (after, events) →
      ServiceStep before after events
  | loop
      (id : Fin workers) (index answer : Nat)
      (cell : ActorCell Value State Frame)
      (after : ActorPool workers Value State Frame)
      (events : List (RuntimeEvent Value)) :
      before.scheduler.positions id = .running index →
      before.runtime.cells[index]? = some cell →
      cell.position.stage ≠ .handling →
      (machine workers Value State Frame).step? before (.loop id answer) =
        some (after, events) →
      ServiceStep before after events

/-- The handler call of an actor returns, after any sends it may have made. -/
structure HandlerReturns
    (index : Nat)
    (before after : ActorPool workers Value State Frame) : Prop where
  inside :
    ∃ cell,
      before.runtime.cells[index]? = some cell ∧
        cell.position.stage = .handling
  scheduler : after.scheduler = before.scheduler
  stop : after.runtime.stop = before.runtime.stop
  own :
    ∀ cell,
      before.runtime.cells[index]? = some cell →
      ∃ back extra,
        after.runtime.cells[index]? = some back ∧
          back.actor = cell.actor ∧
          back.mailbox = cell.mailbox ++ extra ∧
          back.position = .top
  others :
    ∀ other cell,
      other ≠ index →
      before.runtime.cells[other]? = some cell →
      ∃ extra,
        after.runtime.cells[other]? =
          some { cell with mailbox := cell.mailbox ++ extra }

/-- A finite continuation of such steps, with every handler call returning. -/
inductive Continues
    (before : ActorPool workers Value State Frame) :
    List (RuntimeEvent Value) → ActorPool workers Value State Frame →
      Prop where
  | nil :
      Continues before [] before
  | step
      {log events : List (RuntimeEvent Value)}
      {middle after : ActorPool workers Value State Frame}
      (earlier : Continues before log middle)
      (last : ServiceStep middle after events) :
      Continues before (log ++ events) after
  | returns
      {log : List (RuntimeEvent Value)}
      {middle after : ActorPool workers Value State Frame}
      (index : Nat)
      (earlier : Continues before log middle)
      (last : HandlerReturns index middle after) :
      Continues before (log ++ [.handled index]) after

/-- An actor loop takes an envelope. -/
def isTake (index : Nat) : RuntimeEvent Value → Bool
  | .taken cell _ => cell == index
  | _ => false

/-- The handler is called on the message that waits behind `ahead` others. -/
def CalledAfter
    (index ahead : Nat)
    (message : Value)
    (log : List (RuntimeEvent Value)) : Prop :=
  ∃ earlier later,
    log = earlier ++ .called index message :: later ∧
      earlier.countP (isTake index) = ahead + 1

/--
The service of a waiting message can be forced: by chosen steps, and through
every outcome of the handler calls on the way, its handler is called on it.
-/
inductive Served (index : Nat) (message : Value) :
    Nat → ActorPool workers Value State Frame → Prop where
  | called
      {before after : ActorPool workers Value State Frame}
      (envelope : MessageEnvelope Value)
      (last :
        ServiceStep before after
          [.taken index envelope, .called index message]) :
      Served index message 0 before
  | step
      {ahead : Nat}
      {before after : ActorPool workers Value State Frame}
      {events : List (RuntimeEvent Value)}
      (first : ServiceStep before after events)
      (later : Served index message ahead after) :
      Served index message (events.countP (isTake index) + ahead) before
  | returns
      {ahead : Nat}
      {before : ActorPool workers Value State Frame}
      (handler : Nat)
      (cell : ActorCell Value State Frame)
      (here : before.runtime.cells[handler]? = some cell)
      (inside : cell.position.stage = .handling)
      (later :
        ∀ after,
          HandlerReturns handler before after →
          Served index message ahead after) :
      Served index message ahead before

/-- The message waits for an actor whose `spawn` has returned and whose handler
has not panicked, behind `ahead` others. -/
def Waiting
    (pool : ActorPool workers Value State Frame)
    (index ahead : Nat)
    (message : Value) : Prop :=
  (∀ claim ∈ pool.scheduler.claims, claim.2 ≠ index) ∧
    ∃ cell envelope,
      pool.runtime.cells[index]? = some cell ∧
        cell.position.isRunning = true ∧
        cell.mailbox[ahead]? = some envelope ∧
        envelope.payload.downcast cell.actor.messageType = some message

/-! ## Forced service is service -/

namespace Continues

/-- A step followed by a continuation is a continuation. -/
theorem cons
    {before middle after : ActorPool workers Value State Frame}
    {events log : List (RuntimeEvent Value)}
    (first : Continues before events middle)
    (later : Continues middle log after) :
    Continues before (events ++ log) after := by
  induction later with
  | nil => simpa using first
  | step earlier last inductionHypothesis =>
      rw [← List.append_assoc]
      exact .step inductionHypothesis last
  | returns index earlier last inductionHypothesis =>
      rw [← List.append_assoc]
      exact .returns index inductionHypothesis last

end Continues

omit [NeZero workers] in
/-- A handler may always return without having sent anything. -/
theorem handlerReturns_quiet
    {pool : ActorPool workers Value State Frame}
    {index : Nat}
    {cell : ActorCell Value State Frame}
    (here : pool.runtime.cells[index]? = some cell)
    (inside : cell.position.stage = .handling) :
    HandlerReturns index pool
      { pool with runtime := pool.runtime.moveTo index .top } where
  inside := ⟨cell, here, inside⟩
  scheduler := rfl
  stop := rfl
  own old there := by
    obtain rfl : cell = old := by simpa [here] using there
    refine ⟨{ cell with position := .top }, [], ?_, rfl, by simp, rfl⟩
    simp [Runtime.moveTo, Runtime.modifyCell_cells, here]
  others other old different there := by
    refine ⟨[], ?_⟩
    simp [Runtime.moveTo, Runtime.modifyCell_cells, there,
      different.symm]

/-- Forced service gives a continuation that calls the handler. -/
theorem Served.continues
    {index ahead : Nat}
    {message : Value}
    {pool : ActorPool workers Value State Frame}
    (served : Served index message ahead pool) :
    ∃ log after,
      Continues pool log after ∧ CalledAfter index ahead message log := by
  induction served with
  | called envelope last =>
      refine ⟨_, _, Continues.step .nil last,
        [.taken index envelope], [], by simp, ?_⟩
      simp [isTake]
  | @step ahead before middle events first later inductionHypothesis =>
      obtain ⟨log, after, continues, earlier, rest, rfl, count⟩ :=
        inductionHypothesis
      refine ⟨events ++ _, after, (Continues.step .nil first).cons continues,
        events ++ earlier, rest, by simp, ?_⟩
      rw [List.countP_append, count]
      omega
  | @returns ahead before handler cell here inside later inductionHypothesis =>
      have quiet := handlerReturns_quiet here inside
      obtain ⟨log, after, continues, earlier, rest, rfl, count⟩ :=
        inductionHypothesis _ quiet
      refine ⟨[.handled handler] ++ _, after,
        (Continues.returns handler .nil quiet).cons continues,
        [.handled handler] ++ earlier, rest, by simp, ?_⟩
      simpa [isTake] using count

/-! ## The pool while the stop flag is not set -/

/-- What holds of every pool whose stop flag is not set. -/
structure Live (pool : ActorPool workers Value State Frame) : Prop where
  unstopped : pool.runtime.Unstopped
  workersOn : pool.scheduler.stop = false
  noneExited : ∀ id, pool.scheduler.positions id ≠ .exited
  /-- A loop that has started is on a worker until it is dropped. -/
  hosted :
    ∀ (index : Nat) (cell : ActorCell Value State Frame),
      pool.runtime.cells[index]? = some cell →
      cell.position.stage ≠ .queued →
      cell.position.stage ≠ .ended →
      ∃ id, pool.scheduler.positions id = .running index

omit [NeZero workers] in
theorem live_withConfig (capacity : Nat) :
    Live (withConfig workers Value State Frame capacity) where
  unstopped :=
    { phaseIdle := rfl
      notJoined := rfl
      notStopping := by simp [withConfig, Runtime.withConfig]
      unheard := by simp [withConfig, Runtime.withConfig] }
  workersOn := rfl
  noneExited := by simp [withConfig, Scheduler.new]
  hosted := by simp [withConfig, Runtime.withConfig]

/-- Before a pool's stop flag is set, it was not set. -/
theorem Effect.stop
    {before after : ActorPool workers Value State Frame}
    {events : List (RuntimeEvent Value)}
    (effect : Effect before after events)
    (running : after.runtime.stop = false) :
    before.runtime.stop = false := by
  rcases effect.inRuntime with ⟨same, -⟩ | ⟨label, step⟩
  · rw [← same]
    exact running
  · exact Runtime.step_stop step running

/-- Actor loops are only ever added, and the mailboxes keep their capacity. -/
theorem Effect.sizes
    {before after : ActorPool workers Value State Frame}
    {events : List (RuntimeEvent Value)}
    (effect : Effect before after events) :
    before.runtime.cells.length ≤ after.runtime.cells.length ∧
      after.runtime.mailboxCapacity = before.runtime.mailboxCapacity := by
  rcases effect.inRuntime with ⟨same, -⟩ | ⟨label, step⟩
  · simp [same]
  · have length := Runtime.step_length step
    refine ⟨?_, Runtime.step_mailboxCapacity step⟩
    cases label <;> simp only at length <;> omega

theorem Effect.unstopped
    {before after : ActorPool workers Value State Frame}
    {events : List (RuntimeEvent Value)}
    (effect : Effect before after events)
    (unstopped : before.runtime.Unstopped)
    (running : after.runtime.stop = false) :
    after.runtime.Unstopped := by
  rcases effect.inRuntime with ⟨same, -⟩ | ⟨label, step⟩
  · rw [same]
    exact unstopped
  · exact Runtime.unstopped_step (fun _ => unstopped) step running

/-- Whoever is not a loop leaves the stages of the loops alone. -/
theorem stage_kept
    {before after : Runtime Value State Frame}
    {label : Runtime.Label Value State Frame}
    {events : List (RuntimeEvent Value)}
    (step :
      (Runtime.machine Value State Frame).step? before label =
        some (after, events))
    {index : Nat}
    (notOwn : ∀ answer, label ≠ .loop index answer)
    {cell : ActorCell Value State Frame}
    (here : after.cells[index]? = some cell) :
    (∃ old,
        before.cells[index]? = some old ∧ cell.position = old.position) ∨
      cell.position = .queued := by
  rcases Runtime.step_cellBefore step here with
    ⟨old, there⟩ | ⟨id, actor, state, rfl⟩
  · obtain ⟨extra, same, -⟩ := Runtime.step_others step there notOwn
    cases here.symm.trans same
    exact .inl ⟨old, there, rfl⟩
  · exact .inr rfl

/-- Workers leave the task they run only when its loop is dropped. -/
theorem Live.hosted_step
    {before after : ActorPool workers Value State Frame}
    {events : List (RuntimeEvent Value)}
    (live : Live before)
    (effect : Effect before after events)
    {index : Nat}
    {cell : ActorCell Value State Frame}
    (here : after.runtime.cells[index]? = some cell)
    (started : cell.position.stage ≠ .queued)
    (undropped : cell.position.stage ≠ .ended) :
    ∃ id, after.scheduler.positions id = .running index := by
  have kept
      (label : Runtime.Label Value State Frame)
      {runtime : Runtime Value State Frame}
      {shown : List (RuntimeEvent Value)}
      (step :
        (Runtime.machine Value State Frame).step? before.runtime label =
          some (runtime, shown))
      (notOwn : ∀ answer, label ≠ .loop index answer)
      (there : runtime.cells[index]? = some cell) :
      ∃ id, before.scheduler.positions id = .running index := by
    rcases stage_kept step notOwn there with ⟨old, there, same⟩ | queued
    · rw [same] at started undropped
      exact live.hosted index old there started undropped
    · simp [queued, LoopPosition.stage] at started
  cases effect with
  | spawned actor state runtime events free step =>
      exact kept (.spawn actor state) step (by simp) here
  | pushed call queue task claimed =>
      exact live.hosted index cell here started undropped
  | client label runtime events client step =>
      refine kept label step ?_ here
      rintro answer rfl
      cases client
  | worker id scheduler shown step =>
      obtain ⟨host, hosts⟩ :=
        live.hosted index cell here started undropped
      have other : host ≠ id := by
        rintro rfl
        cases step <;> simp_all
      refine ⟨host, ?_⟩
      cases step <;>
        simpa [Scheduler.setPosition, Scheduler.setQueue, other] using hosts
  | looped id own answer old runtime events running there _ _ step =>
      by_cases same : own = index
      · exact ⟨id, same ▸ running⟩
      · refine kept (.loop own answer) step ?_ here
        simpa using fun same' => absurd same' same
  | left id own answer old position runtime events running there ending step =>
      by_cases same : own = index
      · subst same
        obtain ⟨moved, movedHere, -, goesTo⟩ :=
          Runtime.loopStep_stage step there
        obtain rfl : cell = moved := by simpa [here] using movedHere
        have oldStage := live.unstopped.notStopping own old there
        rcases ending with ⟨leaving, -⟩ | ⟨unwinding, -⟩
        · simp [leaving, LoopPosition.stage] at oldStage
        · rw [unwinding] at goesTo
          exact absurd goesTo undropped
      · obtain ⟨host, hosts⟩ :=
          kept (.loop own answer) step
            (by simpa using fun same' => absurd same' same) here
        have other : host ≠ id := by
          rintro rfl
          rw [running] at hosts
          exact same (by simpa using hosts)
        exact ⟨host, by simpa [Scheduler.setPosition, other] using hosts⟩
  | shutdown runtime events step =>
      exact kept .shutdown step (by simp) here
  | stopWorkers cleared =>
      exact live.hosted index cell here started undropped

/-- Every step keeps the pool live while the stop flag is not set. -/
theorem Live.step
    {before after : ActorPool workers Value State Frame}
    {events : List (RuntimeEvent Value)}
    (live : Live before)
    (effect : Effect before after events)
    (running : after.runtime.stop = false) :
    Live after where
  unstopped := effect.unstopped live.unstopped running
  workersOn := by
    have workersOn := live.workersOn
    cases effect with
    | worker id scheduler shown step =>
        cases step <;> exact workersOn
    | stopWorkers cleared =>
        rw [live.unstopped.phaseIdle] at cleared
        cases cleared
    | _ => exact workersOn
  noneExited := by
    intro other
    have noneExited := live.noneExited other
    cases effect with
    | worker id scheduler shown step =>
        have workersOn := live.workersOn
        by_cases same : other = id
        · subst same
          cases step <;> simp_all [Scheduler.setPosition, Scheduler.setQueue]
        · cases step <;>
            simpa [Scheduler.setPosition, Scheduler.setQueue, same]
              using noneExited
    | left id own answer old position runtime events running there ending
        step =>
        by_cases same : other = id
        · subst same
          rcases ending with ⟨-, rfl⟩ | ⟨-, rfl⟩ <;>
            simp [Scheduler.setPosition]
        · simpa [Scheduler.setPosition, same] using noneExited
    | _ => exact noneExited
  hosted _ _ here := live.hosted_step effect here

/-! ## Enough workers: every actor has a worker of its own -/

/-- A worker that is about to pop its queue, or looks for something to steal. -/
def IsIdle : WorkerPosition workers Nat → Prop
  | .checkingStop => True
  | .popping => True
  | .stealing _ => True
  | _ => False

/-- Where the one actor a worker may get stands with it. -/
inductive Slot
    (pool : ActorPool workers Value State Frame)
    (id : Fin workers) : Prop where
  | vacant :
      pool.runtime.cells.length ≤ id.val →
      pool.scheduler.queues id = [] →
      IsIdle (pool.scheduler.positions id) →
      Slot pool id
  | claimed :
      id.val < pool.runtime.cells.length →
      (id, id.val) ∈ pool.scheduler.claims →
      pool.scheduler.queues id = [] →
      IsIdle (pool.scheduler.positions id) →
      Slot pool id
  | queued :
      id.val < pool.runtime.cells.length →
      (id, id.val) ∉ pool.scheduler.claims →
      pool.scheduler.queues id = [id.val] →
      IsIdle (pool.scheduler.positions id) →
      Slot pool id
  | running :
      id.val < pool.runtime.cells.length →
      (id, id.val) ∉ pool.scheduler.claims →
      pool.scheduler.queues id = [] →
      pool.scheduler.positions id = .running id.val →
      Slot pool id
  | gone (cell : ActorCell Value State Frame) :
      (id, id.val) ∉ pool.scheduler.claims →
      pool.scheduler.queues id = [] →
      pool.scheduler.positions id = .unwound →
      pool.runtime.cells[id.val]? = some cell →
      cell.position = .ended →
      Slot pool id

/-- Every actor is with the worker of its own number, or on its way there. -/
structure Housed (pool : ActorPool workers Value State Frame) : Prop where
  numbered : pool.scheduler.nextWorker = pool.runtime.cells.length
  claims :
    ∀ claim ∈ pool.scheduler.claims,
      pool.scheduler.claims = [claim] ∧
        claim.2 = claim.1.val ∧
        claim.2 < pool.runtime.cells.length
  slots : ∀ id, Slot pool id

omit [NeZero workers] in
theorem housed_withConfig (capacity : Nat) :
    Housed (withConfig workers Value State Frame capacity) where
  numbered := rfl
  claims := by simp [withConfig, Scheduler.new]
  slots _ := .vacant (Nat.zero_le _) rfl trivial

namespace Slot

omit [NeZero workers]

variable {pool : ActorPool workers Value State Frame} {id : Fin workers}

/-- No queue holds enough to be stolen from. -/
theorem short
    (slot : Slot pool id) :
    (pool.scheduler.queues id).length ≤ 1 := by
  cases slot with
  | vacant _ queue _ | claimed _ _ queue _ | queued _ _ queue _
  | running _ _ queue _ | gone _ _ queue _ _ _ => simp [queue]

/-- Steps of the runtime that drop no loop change no slot. -/
theorem inRuntime
    {runtime : Runtime Value State Frame}
    (slot : Slot pool id)
    (length : runtime.cells.length = pool.runtime.cells.length)
    (kept :
      ∀ cell,
        pool.runtime.cells[id.val]? = some cell →
        cell.position = .ended →
        ∃ still,
          runtime.cells[id.val]? = some still ∧ still.position = .ended) :
    Slot { pool with runtime := runtime } id := by
  cases slot with
  | vacant beyond queue idle => exact .vacant (length ▸ beyond) queue idle
  | claimed within claimed queue idle =>
      exact .claimed (length ▸ within) claimed queue idle
  | queued within unclaimed queue idle =>
      exact .queued (length ▸ within) unclaimed queue idle
  | running within unclaimed queue position =>
      exact .running (length ▸ within) unclaimed queue position
  | gone cell unclaimed queue position here ended =>
      obtain ⟨still, there, stillEnded⟩ := kept cell here ended
      exact .gone still unclaimed queue position there stillEnded

/-- A slot is about one queue, one worker and one claim. -/
theorem inScheduler
    {scheduler : Scheduler workers Nat}
    (slot : Slot pool id)
    (claims :
      (id, id.val) ∈ scheduler.claims ↔
        (id, id.val) ∈ pool.scheduler.claims)
    (queues : scheduler.queues id = pool.scheduler.queues id)
    (positions : scheduler.positions id = pool.scheduler.positions id) :
    Slot { pool with scheduler := scheduler } id := by
  cases slot with
  | vacant beyond queue idle =>
      exact .vacant beyond (queues.trans queue) (positions ▸ idle)
  | claimed within claimed queue idle =>
      exact .claimed within (claims.mpr claimed) (queues.trans queue)
        (positions ▸ idle)
  | queued within unclaimed queue idle =>
      exact .queued within (mt claims.mp unclaimed) (queues.trans queue)
        (positions ▸ idle)
  | running within unclaimed queue running =>
      exact .running within (mt claims.mp unclaimed) (queues.trans queue)
        (positions.trans running)
  | gone cell unclaimed queue unwound here ended =>
      exact .gone cell (mt claims.mp unclaimed) (queues.trans queue)
        (positions.trans unwound) here ended

/-- A worker that finds nothing goes on looking. -/
theorem setIdle
    {position : WorkerPosition workers Nat}
    (slot : Slot pool id)
    (old : IsIdle (pool.scheduler.positions id))
    (new : IsIdle position) :
    Slot { pool with
      scheduler := pool.scheduler.setPosition id position } id := by
  have idle :
      IsIdle ((pool.scheduler.setPosition id position).positions id) := by
    simpa [Scheduler.setPosition] using new
  cases slot with
  | vacant beyond queue _ => exact .vacant beyond queue idle
  | claimed within claimed queue _ => exact .claimed within claimed queue idle
  | queued within unclaimed queue _ =>
      exact .queued within unclaimed queue idle
  | running _ _ _ running => simp [running, IsIdle] at old
  | gone _ _ _ unwound _ _ => simp [unwound, IsIdle] at old

/-- With nothing to steal, a worker's own step keeps every slot. -/
theorem worker
    {scheduler : Scheduler workers Nat}
    {shown : List (Scheduler.Event workers Nat)}
    (workersOn : pool.scheduler.stop = false)
    (slots : ∀ id, Slot pool id)
    (step : Scheduler.WorkerStep pool.scheduler id scheduler shown)
    (other : Fin workers) :
    Slot { pool with scheduler := scheduler } other := by
  have kept
      {position : WorkerPosition workers Nat}
      (old : IsIdle (pool.scheduler.positions id))
      (new : IsIdle position) :
      Slot { pool with
        scheduler := pool.scheduler.setPosition id position } other := by
    by_cases same : other = id
    · subst same
      exact (slots other).setIdle old new
    · exact (slots other).inScheduler Iff.rfl rfl
        (by simp [Scheduler.setPosition, same])
  have neverPushes
      {batch : List Nat}
      (pushing : pool.scheduler.positions id = .pushing batch) : False := by
    cases slots id with
    | vacant _ _ idle | claimed _ _ _ idle | queued _ _ _ idle =>
        simp [pushing, IsIdle] at idle
    | running _ _ _ running => simp [pushing] at running
    | gone _ _ _ unwound _ _ => simp [pushing] at unwound
  cases step with
  | exit position stopped => simp [workersOn] at stopped
  | goOn position on =>
      exact kept (by simp [position, IsIdle]) trivial
  | empty position queue =>
      exact kept (by simp [position, IsIdle]) trivial
  | yield position =>
      exact kept (by simp [position, IsIdle]) trivial
  | refused target targets position nothing =>
      exact kept (by simp [position, IsIdle]) trivial
  | steal target targets batch rest position shape nonempty =>
      rw [RunQueue.stealHalf_of_length_le_one (slots target).short] at shape
      cases shape
      exact absurd rfl nonempty
  | pushed position => exact (neverPushes position).elim
  | repush task batch position => exact (neverPushes position).elim
  | start task rest position queue =>
      by_cases same : other = id
      · subst same
        cases slots other with
        | queued within unclaimed own idle =>
            rw [own] at queue
            cases queue
            exact .running within unclaimed
              (by simp [Scheduler.setQueue, Scheduler.setPosition])
              (by simp)
        | vacant _ none _ | claimed _ _ none _ | running _ _ none _
        | gone _ _ none _ _ _ =>
            rw [none] at queue
            cases queue
      · exact (slots other).inScheduler Iff.rfl
          (by simp [Scheduler.setPosition, Scheduler.setQueue, same])
          (by simp [Scheduler.setPosition, Scheduler.setQueue, same])

end Slot

/-- A dropped loop stays dropped. -/
theorem ended_kept
    {before after : Runtime Value State Frame}
    {label : Runtime.Label Value State Frame}
    {events : List (RuntimeEvent Value)}
    (step :
      (Runtime.machine Value State Frame).step? before label =
        some (after, events))
    {index : Nat}
    (cell : ActorCell Value State Frame)
    (here : before.cells[index]? = some cell)
    (ended : cell.position = .ended) :
    ∃ still, after.cells[index]? = some still ∧ still.position = .ended := by
  rcases Runtime.step_stage step here with extended | moved
  · obtain ⟨extra, there, -⟩ := extended
    exact ⟨_, there, ended⟩
  · obtain ⟨moved, there, -, goesTo⟩ := moved
    rw [ended] at goesTo
    exact goesTo.elim

omit [NeZero workers] in
/-- A step of the runtime that adds no actor keeps everyone housed. -/
theorem Housed.inRuntime
    {pool : ActorPool workers Value State Frame}
    {runtime : Runtime Value State Frame}
    {events : List (RuntimeEvent Value)}
    (housed : Housed pool)
    (label : Runtime.Label Value State Frame)
    (step :
      (Runtime.machine Value State Frame).step? pool.runtime label =
        some (runtime, events))
    (length : runtime.cells.length = pool.runtime.cells.length) :
    Housed { pool with runtime := runtime } where
  numbered := housed.numbered.trans length.symm
  claims claim member := by
    obtain ⟨only, own, within⟩ := housed.claims claim member
    exact ⟨only, own, length ▸ within⟩
  slots id := (housed.slots id).inRuntime length (ended_kept step)

/-- A new actor is claimed for the worker of its own number. -/
theorem Housed.spawned
    {pool : ActorPool workers Value State Frame}
    {runtime : Runtime Value State Frame}
    {events : List (RuntimeEvent Value)}
    {actor : Actor Value State Frame}
    {state : State}
    (housed : Housed pool)
    (free : pool.scheduler.claims = [])
    (step :
      (Runtime.machine Value State Frame).step? pool.runtime
        (.spawn actor state) = some (runtime, events))
    (length : runtime.cells.length = pool.runtime.cells.length + 1)
    (enough : runtime.cells.length ≤ workers) :
    Housed
      { scheduler :=
          { pool.scheduler with
            nextWorker := pool.scheduler.nextWorker + 1
            claims :=
              [(Fin.ofNat workers pool.scheduler.nextWorker,
                pool.runtime.cells.length)] }
        runtime := runtime } := by
  have inside : pool.runtime.cells.length < workers := by omega
  have own :
      (Fin.ofNat workers pool.scheduler.nextWorker).val =
        pool.runtime.cells.length := by
    rw [housed.numbered]
    exact Nat.mod_eq_of_lt inside
  constructor
  · exact (congrArg (· + 1) housed.numbered).trans length.symm
  · intro claim member
    obtain rfl := List.mem_singleton.mp member
    exact ⟨rfl, own.symm, by simp [length]⟩
  · intro id
    by_cases same : id.val = pool.runtime.cells.length
    · have here : id = Fin.ofNat workers pool.scheduler.nextWorker :=
        Fin.ext (same.trans own.symm)
      have claimed :
          (id, id.val) ∈
            [(Fin.ofNat workers pool.scheduler.nextWorker,
              pool.runtime.cells.length)] := by
        rw [← here, ← same]
        exact List.mem_singleton_self _
      cases housed.slots id with
      | vacant _ queue idle =>
          exact .claimed (by simp only []; omega) claimed queue idle
      | claimed within _ _ _ | queued within _ _ _ | running within _ _ _ =>
          omega
      | gone cell _ _ _ there _ =>
          have within := (List.getElem?_eq_some_iff.mp there).1
          omega
    · have unclaimed :
          (id, id.val) ∉
            [(Fin.ofNat workers pool.scheduler.nextWorker,
              pool.runtime.cells.length)] := by
        simp [same]
      cases housed.slots id with
      | vacant beyond queue idle =>
          exact .vacant (by simp only []; omega) queue idle
      | claimed _ claimed _ _ => simp [free] at claimed
      | queued within _ queue idle =>
          exact .queued (by simp only []; omega) unclaimed queue idle
      | running within _ queue running =>
          exact .running (by simp only []; omega) unclaimed queue running
      | gone cell _ queue unwound there ended =>
          obtain ⟨still, stillThere, stillEnded⟩ :=
            ended_kept step cell there ended
          exact .gone still unclaimed queue unwound stillThere stillEnded

omit [NeZero workers] in
/-- The push of a claimed actor puts it into the queue of its own worker. -/
theorem Housed.pushed
    {pool : ActorPool workers Value State Frame}
    {call task : Nat}
    {queue : Fin workers}
    (housed : Housed pool)
    (claimed : pool.scheduler.claims[call]? = some (queue, task)) :
    Housed
      { pool with
        scheduler :=
          (pool.scheduler.setQueue queue
            ((pool.scheduler.queues queue).push task)).dropClaim call } := by
  obtain ⟨only, own, within⟩ :=
    housed.claims _ (List.mem_of_getElem? claimed)
  obtain rfl : task = queue.val := own
  have first : call = 0 := by
    have bound := (List.getElem?_eq_some_iff.mp claimed).1
    rw [only] at bound
    simpa using bound
  subst first
  have none :
      ((pool.scheduler.setQueue queue
        ((pool.scheduler.queues queue).push queue.val)).dropClaim 0).claims =
        [] := by
    simp [Scheduler.dropClaim, Scheduler.setQueue, only]
  constructor
  · exact housed.numbered
  · simp [none]
  · intro id
    by_cases same : id = queue
    · subst same
      cases housed.slots id with
      | vacant beyond _ _ => exact absurd within (Nat.not_lt.mpr beyond)
      | claimed _ _ empty idle =>
          refine .queued within (by simp [none]) ?_ idle
          simp [Scheduler.dropClaim, Scheduler.setQueue, empty, RunQueue.push]
      | queued _ unclaimed _ _ | running _ unclaimed _ _
      | gone _ unclaimed _ _ _ _ => simp [only] at unclaimed
    · refine (housed.slots id).inScheduler ?_ ?_ rfl
      · simp [none, only, same]
      · simp [Scheduler.dropClaim, Scheduler.setQueue, same]

omit [NeZero workers] in
/-- A worker that leaves its task has been unwound by a panic. -/
theorem Housed.left
    {pool : ActorPool workers Value State Frame}
    {runtime : Runtime Value State Frame}
    {events : List (RuntimeEvent Value)}
    {id : Fin workers}
    {index answer : Nat}
    {cell : ActorCell Value State Frame}
    {position : WorkerPosition workers Nat}
    (housed : Housed pool)
    (live : Live pool)
    (running : pool.scheduler.positions id = .running index)
    (here : pool.runtime.cells[index]? = some cell)
    (ending :
      cell.position = .leaving ∧ position = .checkingStop ∨
        cell.position = .unwinding ∧ position = .unwound)
    (step : pool.runtime.loopStep? index answer = some (runtime, events)) :
    Housed
      { scheduler := pool.scheduler.setPosition id position
        runtime := runtime } := by
  have moved : Housed { pool with runtime := runtime } :=
    housed.inRuntime (.loop index answer) step
      (Runtime.loopStep_onlyLoops step).length
  rcases ending with ⟨leaving, -⟩ | ⟨unwinding, rfl⟩
  · have notStopping := live.unstopped.notStopping index cell here
    simp [leaving, LoopPosition.stage] at notStopping
  constructor
  · exact moved.numbered
  · exact moved.claims
  · intro other
    by_cases same : other = id
    · subst same
      obtain ⟨dropped, there, -, goesTo⟩ := Runtime.loopStep_stage step here
      rw [unwinding] at goesTo
      cases moved.slots other with
      | running within unclaimed queue runs =>
          obtain rfl : index = other.val := by
            simpa using running.symm.trans runs
          exact .gone dropped unclaimed queue
            (by simp) there
            (Runtime.position_of_ended goesTo)
      | vacant _ _ idle | claimed _ _ _ idle | queued _ _ _ idle =>
          rw [running] at idle
          exact idle.elim
      | gone _ _ _ unwound _ _ =>
          rw [running] at unwound
          cases unwound
    · exact (moved.slots other).inScheduler Iff.rfl rfl
        (by simp [Scheduler.setPosition, same])

/-- With as many workers as actors, every step keeps everyone housed. -/
theorem Housed.step
    {before after : ActorPool workers Value State Frame}
    {events : List (RuntimeEvent Value)}
    (housed : Housed before)
    (live : Live before)
    (effect : Effect before after events)
    (enough : after.runtime.cells.length ≤ workers) :
    Housed after := by
  cases effect with
  | spawned actor state runtime events free step =>
      exact housed.spawned free step (Runtime.step_length step) enough
  | pushed call queue task claimed => exact housed.pushed claimed
  | client label runtime events client step =>
      refine housed.inRuntime label step ?_
      have length := Runtime.step_length step
      cases label with
      | spawn actor state => cases client
      | _ => exact length
  | worker id scheduler shown step =>
      have slots := Slot.worker live.workersOn housed.slots step
      have same :
          scheduler.nextWorker = before.scheduler.nextWorker ∧
            scheduler.claims = before.scheduler.claims := by
        cases step <;> exact ⟨rfl, rfl⟩
      exact
        { numbered := same.1.trans housed.numbered
          claims := by
            rw [same.2]
            exact housed.claims
          slots := slots }
  | looped id index answer cell runtime events running here _ _ step =>
      exact housed.inRuntime (.loop index answer) step
        (Runtime.loopStep_onlyLoops step).length
  | left id index answer cell position runtime events running here ending
      step =>
      exact housed.left live running here ending step
  | shutdown runtime events step =>
      have moved :
          (Runtime.machine Value State Frame).step? before.runtime
            .shutdown = some (runtime, events) := step
      exact housed.inRuntime .shutdown step (Runtime.step_length moved)
  | stopWorkers cleared =>
      rw [live.unstopped.phaseIdle] at cleared
      cases cleared

/-! ## Served: from a worker's queue to the handler -/

/-- The loop a worker runs, outside of its last steps, steps on. -/
theorem loop_step
    {pool : ActorPool workers Value State Frame}
    {id : Fin workers}
    {index : Nat}
    {cell : ActorCell Value State Frame}
    (answer : Nat)
    (running : pool.scheduler.positions id = .running index)
    (here : pool.runtime.cells[index]? = some cell)
    (stays : cell.position ≠ .leaving ∧ cell.position ≠ .unwinding) :
    (machine workers Value State Frame).step? pool (.loop id answer) =
      (pool.runtime.loopStep? index answer).map fun outcome =>
        ({ pool with runtime := outcome.1 }, outcome.2) := by
  have unended : pool.endTask id cell.position = some pool := by
    unfold endTask
    split
    · rename_i leaving
      exact absurd leaving stays.1
    · rename_i unwinding
      exact absurd unwinding stays.2
    · rfl
  simp [machine, running, here, unended, inRuntime, Runtime.machine]

/-- The step of a worker outside of its tasks. -/
theorem worker_step
    {pool : ActorPool workers Value State Frame}
    {id : Fin workers}
    {scheduler : Scheduler workers Nat}
    {shown : List (Scheduler.Event workers Nat)}
    (step : Scheduler.WorkerStep pool.scheduler id scheduler shown) :
    (machine workers Value State Frame).step? pool (.worker id) =
      some ({ pool with scheduler := scheduler }, []) := by
  simp [machine, inScheduler, Scheduler.machine,
    Scheduler.workerStep?_iff.mpr step]

/-- A worker runs the loop, and the message is in its mailbox. -/
structure Serving
    (pool : ActorPool workers Value State Frame)
    (id : Fin workers)
    (index ahead : Nat)
    (message : Value)
    (cell : ActorCell Value State Frame) : Prop where
  running : pool.scheduler.positions id = .running index
  unstopped : pool.runtime.stop = false
  here : pool.runtime.cells[index]? = some cell
  queued :
    ∃ envelope,
      cell.mailbox[ahead]? = some envelope ∧
        envelope.payload.downcast cell.actor.messageType = some message

namespace Serving

variable {pool : ActorPool workers Value State Frame} {id : Fin workers}
  {index ahead : Nat} {message : Value} {cell : ActorCell Value State Frame}

/-- Taking an envelope brings the message forward, or calls the handler. -/
theorem receiving
    (serving : Serving pool id index ahead message cell)
    (position : cell.position = .receiving)
    (nearer :
      ∀ (nearer : Nat) (pool : ActorPool workers Value State Frame)
          (cell : ActorCell Value State Frame),
        nearer < ahead →
        Serving pool id index nearer message cell →
        cell.position.stage = .looping ∨ cell.position.stage = .handling →
        Served index message nearer pool) :
    Served index message ahead pool := by
  obtain ⟨running, unstopped, here, envelope, there, fits⟩ := serving
  have stays : cell.position ≠ .leaving ∧ cell.position ≠ .unwinding := by
    simp [position]
  have outside : cell.position.stage ≠ .handling := by
    simp [position, LoopPosition.stage]
  cases mailbox : cell.mailbox with
  | nil => simp [mailbox] at there
  | cons first rest =>
      have step :
          pool.runtime.loopStep? index 0 =
            some (pool.runtime.modifyCell index fun _ =>
                (cell.takeEnvelope index false first rest).1,
              (cell.takeEnvelope index false first rest).2) := by
        simp [Runtime.loopStep?, here, position, mailbox]
      have taking := ServiceStep.loop id index 0 cell _ _ running here outside
        ((loop_step 0 running here stays).trans (by rw [step]; rfl))
      have after :
          (pool.runtime.modifyCell index fun _ =>
              (cell.takeEnvelope index false first rest).1).cells[index]? =
            some (cell.takeEnvelope index false first rest).1 := by
        rw [Runtime.modifyCell_cells, here]
        simp
      cases ahead with
      | zero =>
          obtain rfl : first = envelope := by simpa [mailbox] using there
          have shown :
              (cell.takeEnvelope index false first rest).2 =
                [.taken index first, .called index message] := by
            simp [ActorCell.takeEnvelope, fits]
          rw [shown] at taking
          exact .called first taking
      | succ ahead =>
          have moved :
              (cell.takeEnvelope index false first rest).1.mailbox = rest ∧
                (cell.takeEnvelope index false first rest).2.countP
                  (isTake index) = 1 := by
            unfold ActorCell.takeEnvelope ActorCell.finishIteration
            split
            · simp [isTake]
            · split
              · simp [isTake]
              · split <;> simp [isTake]
          have taken :=
            Runtime.takeEnvelope_stage cell index false first rest
          have served := Served.step taking
            (nearer ahead _ _ (Nat.lt_succ_self ahead)
              { running := running
                unstopped := unstopped
                here := after
                queued := ⟨envelope, by simpa [moved.1, mailbox] using there,
                  by rw [taken.2]; exact fits⟩ }
              taken.1)
          rw [moved.2, Nat.add_comm] at served
          exact served

/-- From the top of its loop the actor goes on to receive. -/
theorem top
    (serving : Serving pool id index ahead message cell)
    (position : cell.position = .top)
    (receives :
      ∀ (pool : ActorPool workers Value State Frame)
          (cell : ActorCell Value State Frame),
        Serving pool id index ahead message cell →
        cell.position = .receiving →
        Served index message ahead pool) :
    Served index message ahead pool := by
  obtain ⟨running, unstopped, here, envelope, there, fits⟩ := serving
  have step :
      pool.runtime.loopStep? index 0 =
        some (pool.runtime.moveTo index .receiving, []) := by
    simp [Runtime.loopStep?, here, position, unstopped]
  have receiving := ServiceStep.loop id index 0 cell _ _ running here
    (by simp [position, LoopPosition.stage])
    ((loop_step 0 running here (by simp [position])).trans
      (by rw [step]; rfl))
  have served := Served.step receiving
    (receives _ { cell with position := .receiving }
      { running := running
        unstopped := unstopped
        here := by simp [Runtime.moveTo, Runtime.modifyCell_cells, here]
        queued := ⟨envelope, there, fits⟩ }
      rfl)
  simpa using served

/-- A handler call under way returns to the top of the loop. -/
theorem handling
    (serving : Serving pool id index ahead message cell)
    (inside : cell.position.stage = .handling)
    (goesOn :
      ∀ (pool : ActorPool workers Value State Frame)
          (cell : ActorCell Value State Frame),
        Serving pool id index ahead message cell →
        cell.position = .top →
        Served index message ahead pool) :
    Served index message ahead pool := by
  obtain ⟨running, unstopped, here, envelope, there, fits⟩ := serving
  refine .returns index cell here inside fun after returns => ?_
  obtain ⟨back, extra, backHere, sameActor, mailbox, position⟩ :=
    returns.own cell here
  refine goesOn after back
    { running := returns.scheduler ▸ running
      unstopped := returns.stop.trans unstopped
      here := backHere
      queued := ⟨envelope, ?_, by rw [sameActor]; exact fits⟩ }
    position
  rw [mailbox, List.getElem?_append_left
    (List.getElem?_eq_some_iff.mp there).1]
  exact there

/-- A started loop calls its handler on every message of its type in turn. -/
theorem served
    (ahead : Nat)
    {pool : ActorPool workers Value State Frame}
    {cell : ActorCell Value State Frame}
    (serving : Serving pool id index ahead message cell)
    (stage :
      cell.position.stage = .looping ∨ cell.position.stage = .handling) :
    Served index message ahead pool := by
  induction ahead using Nat.strong_induction_on generalizing pool cell with
  | h ahead inductionHypothesis =>
      have receives
          (pool : ActorPool workers Value State Frame)
          (cell : ActorCell Value State Frame)
          (serving : Serving pool id index ahead message cell)
          (position : cell.position = .receiving) :
          Served index message ahead pool :=
        serving.receiving position fun nearer _ _ less nearerServing stage =>
          inductionHypothesis nearer less nearerServing stage
      have goesOn
          (pool : ActorPool workers Value State Frame)
          (cell : ActorCell Value State Frame)
          (serving : Serving pool id index ahead message cell)
          (position : cell.position = .top) :
          Served index message ahead pool :=
        serving.top position receives
      rcases stage with looping | handling
      · cases position : cell.position with
        | top => exact goesOn pool cell serving position
        | receiving => exact receives pool cell serving position
        | _ => simp [position, LoopPosition.stage] at looping
      · exact serving.handling handling goesOn

/-- A loop its worker has just taken starts first. -/
theorem started
    (serving : Serving pool id index ahead message cell)
    (position : cell.position.stage = .queued)
    (notJoined : pool.runtime.joined = false) :
    Served index message ahead pool := by
  have queued : cell.position = .queued := by
    cases shape : cell.position <;> simp_all [LoopPosition.stage]
  obtain ⟨running, unstopped, here, envelope, there, fits⟩ := serving
  have step :
      pool.runtime.loopStep? index 0 =
        some (pool.runtime.moveTo index .top, []) := by
    simp [Runtime.loopStep?, here, queued, notJoined]
  have starting := ServiceStep.loop id index 0 cell _ _ running here
    (by simp [position])
    ((loop_step 0 running here (by simp [queued])).trans
      (by rw [step]; rfl))
  have onTop :
      Serving { pool with runtime := pool.runtime.moveTo index .top }
        id index ahead message { cell with position := .top } :=
    { running := running
      unstopped := unstopped
      here := by simp [Runtime.moveTo, Runtime.modifyCell_cells, here]
      queued := ⟨envelope, there, fits⟩ }
  have served := Served.step starting (onTop.served ahead (.inl rfl))
  simpa using served

end Serving

/-- The message waits for a loop that is alone in the queue of its worker. -/
structure Enqueued
    (pool : ActorPool workers Value State Frame)
    (id : Fin workers)
    (index ahead : Nat)
    (message : Value) : Prop where
  queue : pool.scheduler.queues id = [index]
  workersOn : pool.scheduler.stop = false
  short : ∀ other, (pool.scheduler.queues other).length ≤ 1
  unstopped : pool.runtime.stop = false
  notJoined : pool.runtime.joined = false
  waits :
    ∃ cell envelope,
      pool.runtime.cells[index]? = some cell ∧
        (cell.position.stage = .queued ∨
          cell.position.stage = .looping ∨
          cell.position.stage = .handling) ∧
        cell.mailbox[ahead]? = some envelope ∧
        envelope.payload.downcast cell.actor.messageType = some message

namespace Enqueued

variable {pool : ActorPool workers Value State Frame} {id : Fin workers}
  {index ahead : Nat} {message : Value}

omit [NeZero workers] in
/-- Moving a worker leaves the queues and the runtime as they are. -/
theorem setPosition
    (enqueued : Enqueued pool id index ahead message)
    (position : WorkerPosition workers Nat) :
    Enqueued
      { pool with scheduler := pool.scheduler.setPosition id position }
      id index ahead message :=
  { enqueued with }

/-- One step of the worker on its way to the loop. -/
theorem served_of_step
    {position : WorkerPosition workers Nat}
    (step :
      Scheduler.WorkerStep pool.scheduler id
        (pool.scheduler.setPosition id position) [])
    (later :
      Served index message ahead
        { pool with scheduler := pool.scheduler.setPosition id position }) :
    Served index message ahead pool := by
  have served := Served.step (.worker id _ [] (worker_step step)) later
  simpa using served

/-- A worker about to pop takes the loop. -/
theorem popping
    (enqueued : Enqueued pool id index ahead message)
    (position : pool.scheduler.positions id = .popping) :
    Served index message ahead pool := by
  obtain ⟨cell, envelope, here, stage, there, fits⟩ := enqueued.waits
  have step := worker_step
    (Scheduler.WorkerStep.start index [] position enqueued.queue)
  have serving :
      Serving
        { pool with
          scheduler :=
            (pool.scheduler.setQueue id []).setPosition id (.running index) }
        id index ahead message cell :=
    { running := by simp
      unstopped := enqueued.unstopped
      here := here
      queued := ⟨envelope, there, fits⟩ }
  have started : Served index message ahead
      { pool with
        scheduler :=
          (pool.scheduler.setQueue id []).setPosition id (.running index) } := by
    rcases stage with queued | stage
    · exact serving.started queued enqueued.notJoined
    · exact serving.served ahead stage
  have served := Served.step (.worker id _ [] step) started
  simpa using served

/-- A worker at the top of its loop goes on to pop. -/
theorem checkingStop
    (enqueued : Enqueued pool id index ahead message)
    (position : pool.scheduler.positions id = .checkingStop) :
    Served index message ahead pool :=
  served_of_step (.goOn position enqueued.workersOn)
    ((enqueued.setPosition .popping).popping
      (by simp))

/-- A worker that looks for something to steal finds nothing, and comes back. -/
theorem stealing
    (targets : List (Fin workers))
    {pool : ActorPool workers Value State Frame}
    (enqueued : Enqueued pool id index ahead message)
    (position : pool.scheduler.positions id = .stealing targets) :
    Served index message ahead pool := by
  induction targets generalizing pool with
  | nil =>
      exact served_of_step (.yield position)
        ((enqueued.setPosition .checkingStop).checkingStop
          (by simp))
  | cons target targets inductionHypothesis =>
      have nothing : (pool.scheduler.queues target).stealHalf.1 = [] := by
        rw [RunQueue.stealHalf_of_length_le_one (enqueued.short target)]
      exact served_of_step (.refused target targets position nothing)
        (inductionHypothesis (enqueued.setPosition (.stealing targets))
          (by simp))

/-- Wherever the idle worker stands, it comes to the loop. -/
theorem served
    (enqueued : Enqueued pool id index ahead message)
    (idle : IsIdle (pool.scheduler.positions id)) :
    Served index message ahead pool := by
  cases position : pool.scheduler.positions id with
  | checkingStop => exact enqueued.checkingStop position
  | popping => exact enqueued.popping position
  | stealing targets => exact enqueued.stealing targets position
  | _ => simp [position, IsIdle] at idle

end Enqueued

omit [NeZero workers] in
/-- The stages of a loop that waits for messages. -/
theorem Live.stage_of_isRunning
    {pool : ActorPool workers Value State Frame}
    (live : Live pool)
    {index : Nat}
    {cell : ActorCell Value State Frame}
    (here : pool.runtime.cells[index]? = some cell)
    (running : cell.position.isRunning = true) :
    cell.position.stage = .queued ∨
      cell.position.stage = .looping ∨
      cell.position.stage = .handling := by
  have notStopping := live.unstopped.notStopping index cell here
  cases shape : cell.position <;>
    simp_all [LoopPosition.stage, LoopPosition.isRunning]

/-- With as many workers as actors, every waiting message is served. -/
theorem Housed.served
    {pool : ActorPool workers Value State Frame}
    {index ahead : Nat}
    {message : Value}
    (housed : Housed pool)
    (live : Live pool)
    (unstopped : pool.runtime.stop = false)
    (enough : pool.runtime.cells.length ≤ workers)
    (waiting : pool.Waiting index ahead message) :
    Served index message ahead pool := by
  obtain ⟨unclaimed, cell, envelope, here, running, there, fits⟩ := waiting
  have within := (List.getElem?_eq_some_iff.mp here).1
  have stage := live.stage_of_isRunning here running
  cases housed.slots ⟨index, within.trans_le enough⟩ with
  | vacant beyond _ _ => exact absurd within (Nat.not_lt.mpr beyond)
  | claimed _ claimed _ _ => exact absurd rfl (unclaimed _ claimed)
  | queued _ _ queue idle =>
      refine Enqueued.served
        { queue := queue
          workersOn := live.workersOn
          short := fun other => (housed.slots other).short
          unstopped := unstopped
          notJoined := live.unstopped.notJoined
          waits := ⟨cell, envelope, here, stage, there, fits⟩ }
        idle
  | running _ _ _ runs =>
      have serving : Serving pool ⟨index, within.trans_le enough⟩
          index ahead message cell :=
        { running := runs
          unstopped := unstopped
          here := here
          queued := ⟨envelope, there, fits⟩ }
      rcases stage with queued | stage
      · exact serving.started queued live.unstopped.notJoined
      · exact serving.served ahead stage
  | gone dropped _ _ _ droppedHere ended =>
      obtain rfl : cell = dropped := by simpa [here] using droppedHere
      simp [ended, LoopPosition.isRunning] at running

/-- Without a buffer a message waits only for a loop that is about to take it. -/
theorem Live.served_unbuffered
    {pool : ActorPool workers Value State Frame}
    {index ahead : Nat}
    {message : Value}
    (live : Live pool)
    (unstopped : pool.runtime.stop = false)
    (unbuffered : pool.runtime.mailboxCapacity = 0)
    (waiting : pool.Waiting index ahead message) :
    Served index message ahead pool := by
  obtain ⟨-, cell, envelope, here, running, there, fits⟩ := waiting
  have stage := live.stage_of_isRunning here running
  have heard : cell.position.stage ≠ .queued := by
    intro queued
    have empty :=
      live.unstopped.unheard unbuffered index cell here queued
    simp [empty] at there
  have undropped : cell.position.stage ≠ .ended := by
    rcases stage with stage | stage | stage <;> simp [stage]
  obtain ⟨id, hosts⟩ := live.hosted index cell here heard undropped
  have serving : Serving pool id index ahead message cell :=
    { running := hosts
      unstopped := unstopped
      here := here
      queued := ⟨envelope, there, fits⟩ }
  exact serving.served ahead (stage.resolve_left heard)

end Runact.ActorPool
