import Runact.ActorService

namespace Runact.ActorPool

/-!
# Starved actors

An actor loop never gives its worker back while the stop flag is not set.  So
as many actors as there are workers are served, and every other actor waits in a
run queue for ever, whatever the workers and the loops do.
-/

universe u

variable {workers : Nat} [NeZero workers] {Value State Frame : Type u}

/-- Every worker is inside the loop of some other actor. -/
structure Occupied
    (pool : ActorPool workers Value State Frame)
    (index : Nat) : Prop where
  unstopped : pool.runtime.stop = false
  others :
    ∀ id, ∃ other cell,
      other ≠ index ∧
        pool.scheduler.positions id = .running other ∧
        pool.runtime.cells[other]? = some cell ∧
        (cell.position.stage = .queued ∨
          cell.position.stage = .looping ∨
          cell.position.stage = .handling)

namespace Occupied

variable {pool after : ActorPool workers Value State Frame} {index : Nat}
  {events : List (RuntimeEvent Value)}

/-- No step of a worker or a loop frees a worker or calls the handler. -/
theorem service
    (occupied : Occupied pool index)
    (step : ServiceStep pool after events) :
    Occupied after index ∧
      ∀ message, .called index message ∉ events := by
  cases step with
  | worker id _ _ step =>
      obtain ⟨other, cell, -, running, -⟩ := occupied.others id
      simp [machine, inScheduler, Scheduler.machine,
        Scheduler.workerStep?, running] at step
  | loop id loop answer cell _ _ running here outside step =>
      obtain ⟨other, otherCell, different, runsOther, otherHere, stage⟩ :=
        occupied.others id
      obtain rfl : loop = other := by simpa [running] using runsOther
      obtain rfl : cell = otherCell := by simpa [here] using otherHere
      have stays :
          cell.position ≠ .leaving ∧ cell.position ≠ .unwinding := by
        constructor <;> rintro shape <;>
          simp [shape, LoopPosition.stage] at stage
      rw [loop_step answer running here stays] at step
      simp only [Option.map_eq_some_iff, Prod.mk.injEq] at step
      obtain ⟨⟨runtime, shown⟩, step, rfl, rfl⟩ := step
      have sameStop : runtime.stop = pool.runtime.stop := by
        rw [(Runtime.loopStep_onlyLoops step).same]
      refine ⟨⟨sameStop.trans occupied.unstopped, fun worker => ?_⟩,
        fun message called => ?_⟩
      · obtain ⟨run, runCell, runDifferent, runs, runHere, runStage⟩ :=
          occupied.others worker
        by_cases same : loop = run
        · subst same
          obtain ⟨moved, movedHere, -, goesTo⟩ :=
            Runtime.loopStep_stage step here
          refine ⟨loop, moved, different, runs, movedHere, ?_⟩
          rw [occupied.unstopped] at goesTo
          rcases stage with stage | stage | stage
          · rw [stage] at goesTo
            exact .inr (.inl goesTo)
          · rw [stage] at goesTo
            rcases goesTo with goesTo | goesTo | ⟨stopped, -⟩
            · exact .inr (.inl goesTo)
            · exact .inr (.inr goesTo)
            · cases stopped
          · exact absurd stage outside
        · obtain ⟨extra, extended, -⟩ :=
            Runtime.loopStep_others step runHere same
          exact ⟨run, _, runDifferent, runs, extended, runStage⟩
      · rcases Runtime.loopStep_shows step _ called with own | sent
        · exact different (by simpa [Runtime.shownBy] using own.1.symm)
        · obtain ⟨channel, envelope, same, -⟩ := sent
          cases same

omit [NeZero workers] in
/-- A handler call that returns frees no worker. -/
theorem handlerReturns
    {handler : Nat}
    (occupied : Occupied pool index)
    (returns : HandlerReturns handler pool after) :
    Occupied after index := by
  refine ⟨returns.stop.trans occupied.unstopped, fun id => ?_⟩
  obtain ⟨other, cell, different, runs, here, stage⟩ := occupied.others id
  rw [returns.scheduler]
  by_cases same : other = handler
  · subst same
    obtain ⟨back, extra, backHere, -, -, top⟩ := returns.own cell here
    refine ⟨other, back, different, runs, backHere, .inr (.inl ?_)⟩
    simp [top, LoopPosition.stage]
  · obtain ⟨extra, extended⟩ := returns.others other cell same here
    exact ⟨other, _, different, runs, extended, stage⟩

/-- While all workers run other loops, no continuation calls the handler. -/
theorem starves
    {log : List (RuntimeEvent Value)}
    (occupied : Occupied pool index)
    (continues : Continues pool log after) :
    Occupied after index ∧
      ∀ message, .called index message ∉ log := by
  induction continues with
  | nil => exact ⟨occupied, by simp⟩
  | step earlier last inductionHypothesis =>
      have stepped := inductionHypothesis.1.service last
      refine ⟨stepped.1, fun message called => ?_⟩
      rcases List.mem_append.mp called with before | now
      · exact inductionHypothesis.2 message before
      · exact stepped.2 message now
  | returns handler earlier last inductionHypothesis =>
      refine ⟨inductionHypothesis.1.handlerReturns last,
        fun message called => ?_⟩
      rcases List.mem_append.mp called with before | now
      · exact inductionHypothesis.2 message before
      · simp at now

end Occupied

/-! ## More actors than workers -/

/-- An actor that ignores its messages. -/
def bystander
    (Value : Type u) {State Frame : Type u}
    [Inhabited State] [Inhabited Frame] : Actor Value State Frame where
  messageType := 0
  handle _ _ := default
  next _ := .returns default

/-- Actors spawned one by one, and as many of them started as there are workers. -/
structure Crowd
    (capacity count : Nat)
    (pool : ActorPool workers Value State Frame) : Prop where
  mailboxCapacity : pool.runtime.mailboxCapacity = capacity
  phaseIdle : pool.runtime.shutdownPhase = .idle
  unblocked : pool.runtime.blocked = []
  unwaited : pool.runtime.writerWaits = false
  unstopped : pool.runtime.stop = false
  length : pool.runtime.cells.length = count
  waiting :
    ∀ cell ∈ pool.runtime.cells,
      cell.position = .queued ∧
        cell.mailbox = [] ∧
        cell.actor.messageType = 0
  workersOn : pool.scheduler.stop = false
  claims : pool.scheduler.claims = []
  numbered : pool.scheduler.nextWorker = count
  taken :
    ∀ id : Fin workers,
      id.val < count → pool.scheduler.positions id = .running id.val
  free :
    ∀ id : Fin workers,
      count ≤ id.val →
      pool.scheduler.positions id = .checkingStop ∧
        pool.scheduler.queues id = []

omit [NeZero workers] in
theorem crowd_withConfig (capacity : Nat) :
    Crowd capacity 0 (withConfig workers Value State Frame capacity) where
  mailboxCapacity := rfl
  phaseIdle := rfl
  unblocked := rfl
  unwaited := rfl
  unstopped := rfl
  length := rfl
  waiting := by simp [withConfig, Runtime.withConfig]
  workersOn := rfl
  claims := rfl
  numbered := rfl
  taken := by simp
  free _ _ := ⟨rfl, rfl⟩

namespace Crowd

variable {pool : ActorPool workers Value State Frame} {capacity count : Nat}

omit [NeZero workers] in
theorem sendersFree
    (crowd : Crowd capacity count pool) :
    pool.runtime.sendersFree = true := by
  have unheld :
      ∀ cell ∈ pool.runtime.cells,
        (!cell.position.holdsSenders) = true := by
    intro cell member
    rw [(crowd.waiting cell member).1]
    rfl
  simpa [Runtime.sendersFree, crowd.unblocked] using unheld

section Spawn

variable [Inhabited State] [Inhabited Frame]

/-- The runtime after one more `spawn`. -/
def spawned
    (pool : ActorPool workers Value State Frame) :
    Runtime Value State Frame :=
  (pool.runtime.spawn (bystander Value) default).1

/-- The scheduler after one more `spawn`, its push included. -/
def pushed
    (pool : ActorPool workers Value State Frame)
    (queue : Fin workers) : Scheduler workers Nat :=
  { pool.scheduler with
    queues :=
      Function.update pool.scheduler.queues queue
        ((pool.scheduler.queues queue).push pool.runtime.cells.length)
    nextWorker := pool.scheduler.nextWorker + 1 }

/-- The pool between the two atomic steps of one more `spawn`. -/
def claimed
    (pool : ActorPool workers Value State Frame) :
    ActorPool workers Value State Frame where
  scheduler :=
    { pool.scheduler with
      nextWorker := pool.scheduler.nextWorker + 1
      claims :=
        [(Fin.ofNat workers pool.scheduler.nextWorker,
          pool.runtime.cells.length)] }
  runtime := spawned pool

/-- One more actor is spawned, and put into a run queue. -/
theorem spawn_run
    (crowd : Crowd capacity count pool) :
    ∃ log,
      Machine.Run (machine workers Value State Frame) pool log
        { scheduler := pushed pool (Fin.ofNat workers count)
          runtime := spawned pool } := by
  have claiming :
      (machine workers Value State Frame).step? pool
          (.spawn (bystander Value) default) =
        some (claimed pool,
          (pool.runtime.spawn (bystander Value) default).2) := by
    simp [machine, inScheduler, Scheduler.machine, inRuntime,
      Runtime.machine, crowd.claims, crowd.phaseIdle, crowd.sendersFree,
      spawned, claimed]
  have pushing :
      (machine workers Value State Frame).step? (claimed pool) (.push 0) =
        some (
          { scheduler := pushed pool (Fin.ofNat workers count)
            runtime := spawned pool }, []) := by
    simp [machine, inScheduler, Scheduler.machine, Scheduler.setQueue,
      Scheduler.dropClaim, claimed, pushed, crowd.claims, crowd.numbered]
  exact ⟨_, .cons _ claiming (.single _ pushing)⟩

omit [NeZero workers] in
/-- The new actor waits like the others, and its id leads to it. -/
theorem spawned_spec
    (crowd : Crowd capacity count pool) :
    (spawned pool).cells.length = count + 1 ∧
      (spawned pool).senders.lookup pool.runtime.nextActorId =
        some count ∧
      ∀ cell ∈ (spawned pool).cells,
        cell.position = .queued ∧
          cell.mailbox = [] ∧
          cell.actor.messageType = 0 := by
  refine ⟨by simp [spawned, Runtime.spawn, crowd.length],
    by simp [spawned, Runtime.spawn, crowd.length], fun cell member => ?_⟩
  simp only [spawned, Runtime.spawn, List.mem_append,
    List.mem_singleton] at member
  rcases member with old | rfl
  · exact crowd.waiting cell old
  · exact ⟨rfl, rfl, rfl⟩

/-- With a free worker left, that worker goes into the new actor's loop. -/
theorem grow_free
    (crowd : Crowd capacity count pool)
    (free : count < workers) :
    ∃ log after,
      Machine.Run (machine workers Value State Frame) pool log after ∧
        Crowd capacity (count + 1) after ∧
        ∃ id, after.runtime.senders.lookup id = some count := by
  obtain ⟨log, run⟩ := crowd.spawn_run
  obtain ⟨length, lookup, waiting⟩ := crowd.spawned_spec
  have own : Fin.ofNat workers count = ⟨count, free⟩ :=
    Fin.ext (Nat.mod_eq_of_lt free)
  rw [own] at run
  obtain ⟨position, queue⟩ := crowd.free ⟨count, free⟩ le_rfl
  have goOn :
      (machine workers Value State Frame).step?
          { scheduler := pushed pool ⟨count, free⟩
            runtime := spawned pool }
          (.worker ⟨count, free⟩) =
        some (
          { scheduler :=
              (pushed pool ⟨count, free⟩).setPosition
                ⟨count, free⟩ .popping
            runtime := spawned pool }, []) :=
    worker_step (.goOn position crowd.workersOn)
  have start :
      (machine workers Value State Frame).step?
          { scheduler :=
              (pushed pool ⟨count, free⟩).setPosition
                ⟨count, free⟩ .popping
            runtime := spawned pool }
          (.worker ⟨count, free⟩) =
        some (
          { scheduler :=
              (((pushed pool ⟨count, free⟩).setPosition
                ⟨count, free⟩ .popping).setQueue
                  ⟨count, free⟩ []).setPosition
                    ⟨count, free⟩ (.running count)
            runtime := spawned pool }, []) :=
    worker_step
      (.start count [] (by simp [Scheduler.setPosition])
        (by simp [Scheduler.setPosition, pushed, queue, crowd.length,
          RunQueue.push]))
  refine ⟨_, _, (run.snoc _ goOn).snoc _ start, ?_, _, lookup⟩
  exact
    { mailboxCapacity := crowd.mailboxCapacity
      phaseIdle := crowd.phaseIdle
      unblocked := crowd.unblocked
      unwaited := rfl
      unstopped := crowd.unstopped
      length := length
      waiting := waiting
      workersOn := crowd.workersOn
      claims := crowd.claims
      numbered := congrArg (· + 1) crowd.numbered
      taken := by
        intro id less
        by_cases same : id.val = count
        · obtain rfl : id = ⟨count, free⟩ := Fin.ext same
          simp [Scheduler.setPosition]
        · have different : id ≠ ⟨count, free⟩ :=
            fun equal => same (congrArg Fin.val equal)
          have earlier := crowd.taken id (by omega)
          simpa [Scheduler.setPosition, Scheduler.setQueue, pushed,
            different] using earlier
      free := by
        intro id beyond
        have different : id ≠ ⟨count, free⟩ := by
          rintro rfl
          simp at beyond
        have earlier := crowd.free id (by omega)
        simpa [Scheduler.setPosition, Scheduler.setQueue, pushed,
          different] using earlier }

/-- Without a free worker, the new actor stays in a run queue. -/
theorem grow_full
    (crowd : Crowd capacity count pool)
    (full : workers ≤ count) :
    ∃ log after,
      Machine.Run (machine workers Value State Frame) pool log after ∧
        Crowd capacity (count + 1) after ∧
        ∃ id, after.runtime.senders.lookup id = some count := by
  obtain ⟨log, run⟩ := crowd.spawn_run
  obtain ⟨length, lookup, waiting⟩ := crowd.spawned_spec
  refine ⟨log, _, run, ?_, _, lookup⟩
  exact
    { mailboxCapacity := crowd.mailboxCapacity
      phaseIdle := crowd.phaseIdle
      unblocked := crowd.unblocked
      unwaited := rfl
      unstopped := crowd.unstopped
      length := length
      waiting := waiting
      workersOn := crowd.workersOn
      claims := crowd.claims
      numbered := congrArg (· + 1) crowd.numbered
      taken := fun id _ => crowd.taken id (id.isLt.trans_le full)
      free := fun id beyond => absurd id.isLt (by omega) }

/-- A crowd of any size can gather. -/
theorem gather
    (workers : Nat) [NeZero workers]
    (Value State Frame : Type u)
    [Inhabited State] [Inhabited Frame]
    (capacity count : Nat) :
    ∃ log after,
      Machine.Run (machine workers Value State Frame)
          (withConfig workers Value State Frame capacity) log after ∧
        Crowd capacity (count + 1) after ∧
        ∃ id, after.runtime.senders.lookup id = some count := by
  have grow
      {pool : ActorPool workers Value State Frame}
      {count : Nat}
      (crowd : Crowd capacity count pool) :
      ∃ log after,
        Machine.Run (machine workers Value State Frame) pool log after ∧
          Crowd capacity (count + 1) after ∧
          ∃ id, after.runtime.senders.lookup id = some count := by
    rcases Nat.lt_or_ge count workers with free | full
    · exact crowd.grow_free free
    · exact crowd.grow_full full
  induction count with
  | zero => exact grow (crowd_withConfig capacity)
  | succ count inductionHypothesis =>
      obtain ⟨log, pool, run, crowd, -⟩ := inductionHypothesis
      obtain ⟨more, after, further, grown, id, lookup⟩ := grow crowd
      exact ⟨_, after, run.append further, grown, id, lookup⟩

end Spawn

/-- One more actor than the workers can run, and it has a message to wait with. -/
theorem starved
    [Inhabited Value]
    (crowd : Crowd capacity (count + 1) pool)
    (full : workers ≤ count)
    (room : 0 < capacity)
    {id : ActorId}
    (lookup : pool.runtime.senders.lookup id = some count) :
    ∃ log after,
      Machine.Run (machine workers Value State Frame) pool log after ∧
        after.runtime.cells.length = count + 1 ∧
        after.Waiting count 0 default ∧
        Occupied after count := by
  obtain ⟨cell, here⟩ : ∃ cell, pool.runtime.cells[count]? = some cell :=
    ⟨_, List.getElem?_eq_getElem (by simp [crowd.length])⟩
  obtain ⟨position, mailbox, messageType⟩ :=
    crowd.waiting cell (List.mem_of_getElem? here)
  have accepted :
      pool.runtime.offer false count (.message ⟨0, default⟩) =
        .accepted (pool.runtime.modifyCell count fun cell =>
          { cell with mailbox := cell.mailbox ++ [.message ⟨0, default⟩] }) := by
    simp [Runtime.offer, here, position, LoopPosition.isEnded,
      Runtime.hasRoom, crowd.mailboxCapacity, mailbox, room,
      Nat.ne_of_gt room]
  have sent :
      (machine workers Value State Frame).step? pool
          (.client (.send id ⟨0, default⟩)) =
        some (
          { pool with
            runtime := pool.runtime.modifyCell count fun cell =>
              { cell with
                mailbox := cell.mailbox ++ [.message ⟨0, default⟩] } },
          [.accepted count (.message ⟨0, default⟩), .answered (.ok ())]) := by
    simp [machine, isClient, inRuntime, Runtime.machine, Runtime.send,
      crowd.unwaited, lookup, accepted]
  refine ⟨_, _, .single _ sent, ?_, ⟨?_, ?_⟩, crowd.unstopped, fun worker => ?_⟩
  · simp [Runtime.modifyCell, crowd.length]
  · simp [crowd.claims]
  · refine ⟨{ cell with mailbox := [.message ⟨0, default⟩] },
      .message ⟨0, default⟩, ?_, ?_, rfl, ?_⟩
    · simp [Runtime.modifyCell_cells, here, mailbox]
    · simp [position, LoopPosition.isRunning]
    · simp [messageType, MessageEnvelope.payload, AnyBox.downcast]
  · have less : worker.val < count := worker.isLt.trans_le full
    obtain ⟨other, there⟩ :
        ∃ other, pool.runtime.cells[worker.val]? = some other :=
      ⟨_, List.getElem?_eq_getElem (by simp [crowd.length]; omega)⟩
    refine ⟨worker.val, other, by omega, crowd.taken worker (by omega),
      ?_, .inl ?_⟩
    · simp [Runtime.modifyCell_cells, there, (Nat.ne_of_lt less).symm]
    · rw [(crowd.waiting other (List.mem_of_getElem? there)).1]
      rfl

end Crowd

/-! ## Starvation in reachable pools -/

/-- What holds of every reachable pool whose stop flag is not set. -/
theorem reachable_live
    {capacity : Nat}
    {pool : ActorPool workers Value State Frame}
    {log : List (RuntimeEvent Value)}
    (run :
      Machine.Run (machine workers Value State Frame)
        (withConfig workers Value State Frame capacity) log pool)
    (unstopped : pool.runtime.stop = false) :
    Live pool ∧ (pool.runtime.cells.length ≤ workers → Housed pool) ∧
      pool.runtime.mailboxCapacity = capacity := by
  refine run.invariant
    (fun pool =>
      pool.runtime.stop = false →
      Live pool ∧ (pool.runtime.cells.length ≤ workers → Housed pool) ∧
        pool.runtime.mailboxCapacity = capacity)
    (fun {before label after events} earlier step unstopped => ?_)
    (fun _ => ⟨live_withConfig capacity, fun _ => housed_withConfig capacity,
      rfl⟩)
    unstopped
  have effect := effect_of_step step
  obtain ⟨live, housed, same⟩ := earlier (effect.stop unstopped)
  obtain ⟨grows, capacityKept⟩ := effect.sizes
  refine ⟨live.step effect unstopped, fun enough => ?_, ?_⟩
  · exact (housed (grows.trans enough)).step live effect enough
  · exact capacityKept.trans same

/-- Every message that waits can be served, in every reachable pool of that
many actors. -/
def NoneStarved
    (workers : Nat) [NeZero workers]
    (Value State Frame : Type u)
    (capacity actors : Nat) : Prop :=
  ∀ log pool,
    Machine.Run (machine workers Value State Frame)
      (withConfig workers Value State Frame capacity) log pool →
    pool.runtime.stop = false →
    pool.runtime.cells.length = actors →
    ∀ index ahead message,
      pool.Waiting index ahead message →
      ∃ later after,
        Continues pool later after ∧ CalledAfter index ahead message later

/-- Every message that waits is served, whatever the handlers on the way do. -/
def AllServed
    (workers : Nat) [NeZero workers]
    (Value State Frame : Type u)
    (capacity actors : Nat) : Prop :=
  ∀ log pool,
    Machine.Run (machine workers Value State Frame)
      (withConfig workers Value State Frame capacity) log pool →
    pool.runtime.stop = false →
    pool.runtime.cells.length = actors →
    ∀ index ahead message,
      pool.Waiting index ahead message →
      Served index message ahead pool

/-- A message is served when there are as many workers as actors, or when the
mailboxes hold nothing. -/
theorem allServed
    {capacity actors : Nat}
    (enough : actors ≤ workers ∨ capacity = 0) :
    AllServed workers Value State Frame capacity actors := by
  intro log pool run unstopped count index ahead message waiting
  obtain ⟨live, housed, same⟩ := reachable_live run unstopped
  rcases enough with enough | unbuffered
  · have within : pool.runtime.cells.length ≤ workers := count ▸ enough
    exact (housed within).served live unstopped within waiting
  · exact live.served_unbuffered unstopped (same.trans unbuffered) waiting

/-- With more actors than workers, and mailboxes that hold anything, some
message waits for ever. -/
theorem not_noneStarved
    [Inhabited Value] [Inhabited State] [Inhabited Frame]
    {capacity actors : Nat}
    (more : workers < actors)
    (room : 0 < capacity) :
    ¬ NoneStarved workers Value State Frame capacity actors := by
  intro none
  obtain ⟨count, rfl⟩ : ∃ count, actors = count + 1 :=
    ⟨actors - 1, by omega⟩
  obtain ⟨log, gathered, run, crowd, id, lookup⟩ :=
    Crowd.gather workers Value State Frame capacity count
  obtain ⟨further, pool, onward, length, waiting, occupied⟩ :=
    crowd.starved (by omega) room lookup
  obtain ⟨later, after, continues, earlier, rest, rfl, -⟩ :=
    none _ pool (run.append onward) occupied.unstopped length count 0 default
      waiting
  exact (occupied.starves continues).2 default (by simp)

/--
No actor is starved exactly when every actor loop has a worker of its own.

With mailboxes that hold nothing, a message waits only for a loop that already
runs on a worker.
-/
theorem noneStarved_iff
    [Inhabited Value] [Inhabited State] [Inhabited Frame]
    (capacity actors : Nat) :
    (NoneStarved workers Value State Frame capacity actors ↔
        actors ≤ workers ∨ capacity = 0) ∧
      (AllServed workers Value State Frame capacity actors ↔
        actors ≤ workers ∨ capacity = 0) := by
  have weaken
      (all : AllServed workers Value State Frame capacity actors) :
      NoneStarved workers Value State Frame capacity actors :=
    fun log pool run unstopped count index ahead message waiting =>
      (all log pool run unstopped count index ahead message waiting).continues
  have needed
      (none : NoneStarved workers Value State Frame capacity actors) :
      actors ≤ workers ∨ capacity = 0 := by
    by_contra neither
    exact not_noneStarved (by omega) (by omega) none
  exact ⟨⟨needed, fun enough => weaken (allServed enough)⟩,
    ⟨fun all => needed (weaken all), allServed⟩⟩

/-- Two workers serve two actors, and starve one of three. -/
theorem noneStarved_iff_twoWorkers :
    NoneStarved 2 Nat Nat Nat 1 2 ∧ ¬ NoneStarved 2 Nat Nat Nat 1 3 :=
  ⟨(noneStarved_iff 1 2).1.mpr (by decide),
    fun none => absurd ((noneStarved_iff 1 3).1.mp none) (by decide)⟩

/-- The only worker is inside the first actor's loop when a message is sent to
the second actor. -/
def secondActor : List (Label 1 Nat Nat Nat) :=
  [.spawn (bystander Nat) 0, .push 0, .worker 0, .worker 0, .loop 0 0,
    .loop 0 0, .spawn (bystander Nat) 0, .push 0, .client (.send ⟨2⟩ ⟨0, 7⟩)]

/-- One worker never calls the handler of the second actor. -/
theorem second_actor_starved :
    ∃ pool log,
      (machine 1 Nat Nat Nat).run? (withConfig 1 Nat Nat Nat 1) secondActor =
          some (pool, log) ∧
        pool.runtime.stop = false ∧
        pool.Waiting 1 0 7 ∧
        ∀ later after,
          Continues pool later after → ¬ CalledAfter 1 0 7 later := by
  obtain ⟨pool, log, first, second, executed, unstopped, returned, here,
      stage, runs, waits⟩ :
      ∃ pool log first second,
        (machine 1 Nat Nat Nat).run? (withConfig 1 Nat Nat Nat 1)
            secondActor = some (pool, log) ∧
          pool.runtime.stop = false ∧
          pool.scheduler.claims = [] ∧
          pool.runtime.cells[0]? = some first ∧
          first.position.stage = .looping ∧
          pool.scheduler.positions 0 = .running 0 ∧
          pool.runtime.cells[1]? = some second ∧
          second.position.isRunning = true ∧
          second.mailbox[0]? = some (.message ⟨0, 7⟩) ∧
          second.actor.messageType = 0 :=
    ⟨_, _, _, _, rfl, rfl, rfl, rfl, rfl, rfl, rfl, rfl, rfl, rfl⟩
  obtain ⟨there, running, mailbox, messageType⟩ := waits
  have waiting : pool.Waiting 1 0 7 :=
    ⟨by simp [returned], second, _, there, running, mailbox,
      by simp [messageType, MessageEnvelope.payload, AnyBox.downcast]⟩
  have occupied : Occupied pool 1 :=
    ⟨unstopped, fun id =>
      ⟨0, first, by decide, by rw [Subsingleton.elim id 0]; exact runs, here,
        .inr (.inl stage)⟩⟩
  refine ⟨pool, log, executed, unstopped, waiting, ?_⟩
  rintro later after continues ⟨earlier, rest, rfl, -⟩
  exact (occupied.starves continues).2 7 (by simp)

end Runact.ActorPool
