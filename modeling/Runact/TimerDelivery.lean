import Runact.TimedRuntime

namespace Runact.TimedRuntime

open TimerService

/-!
# One thread for all timers

All due timers are sent one after the other by the thread of the timer service,
and a send to a full mailbox waits.  So a timer is delivered by the thread's own
steps exactly when each send before it finds room and no writer keeps the thread
out of the senders; one full mailbox holds up every timer behind it, whoever it
is for.
-/

universe u

variable {Value State Frame : Type u}

/-- By the own steps of its thread alone, while everybody else stands still, the
timer service sends the message of the timer into the channel, and begins at
most so many passes until then. -/
inductive Delivers
    (limit id channel : Nat)
    (message : AnyBox Value) :
    Nat → TimedRuntime Value State Frame → Prop where
  | now
      {passes : Nat} {timed after : TimedRuntime Value State Frame}
      {events : List (TimedEvent Value)} :
      timed.ownStep? limit = some (after, events) →
      .service (.delivered id) ∈ events →
      .runtime (.accepted channel (.message message)) ∈ events →
      Delivers limit id channel message passes timed
  | later
      {passes : Nat} {timed after : TimedRuntime Value State Frame}
      {events : List (TimedEvent Value)} :
      timed.ownStep? limit = some (after, events) →
      timed.service.position ≠ .polling →
      Delivers limit id channel message passes after →
      Delivers limit id channel message passes timed
  /-- The clock is read for the next pass. -/
  | pass
      {passes : Nat} {timed after : TimedRuntime Value State Frame}
      {events : List (TimedEvent Value)} :
      timed.ownStep? limit = some (after, events) →
      timed.service.position = .polling →
      Delivers limit id channel message passes after →
      Delivers limit id channel message (passes + 1) timed

/-- The channel takes one more envelope after those that were sent meanwhile, or
its receiver is gone. -/
def RoomAfter
    (runtime : Runtime Value State Frame)
    (sent : List Nat)
    (channel : Nat) : Prop :=
  ∀ cell,
    runtime.cells[channel]? = some cell →
    cell.position.isEnded = false →
    Runtime.hasRoom runtime.mailboxCapacity true cell = true ∧
      cell.mailbox.length + sent.count channel <
        max 1 runtime.mailboxCapacity

/-- One after the other, all the channels take an envelope. -/
def AllFindRoom
    (runtime : Runtime Value State Frame)
    (channels : List Nat) : Prop :=
  ∀ sent channel rest,
    channels = sent ++ channel :: rest → RoomAfter runtime sent channel

/-- The channel a fired message of the entry goes to, if there is one. -/
def channelOf
    (runtime : Runtime Value State Frame)
    (entry : TimerEntry (AnyBox Value)) : List Nat :=
  (runtime.senders.lookup entry.actorId).toList

/-- A periodic entry can be put back into the list. -/
def PutsBack
    (limit : Nat)
    (poisoned : Bool)
    (entry : TimerEntry (AnyBox Value)) : Prop :=
  ∀ interval,
    entry.interval = some interval →
    poisoned = false ∧ entry.scheduledAt + interval ≤ limit

/-- What the thread fires next: the rest of its batch, or the batch of the scan
it is about to make. -/
def upcoming
    {Message : Type u}
    (service : TimerService Message) : List (TimerEntry Message) :=
  match service.position with
  | .scanning pass => service.timers.filter (isDue pass)
  | position => position.unfired

/-- What stays in the list for the pass after that. -/
def remaining
    {Message : Type u}
    (service : TimerService Message) : List (TimerEntry Message) :=
  match service.position with
  | .scanning pass => service.timers.filter fun entry => !isDue pass entry
  | _ => service.timers

/-- The entry the thread is at. -/
def busy
    {Message : Type u}
    (service : TimerService Message) : List (TimerEntry Message) :=
  match service.position with
  | .sending _ entry _ _ => [entry]
  | .rearming _ entry _ _ => [entry]
  | _ => []

/-- The timer is due and not cancelled, and these entries come before it: in the
pass the thread is in, or together with the rest of that in the next one. -/
inductive Ahead
    {Message : Type u}
    (service : TimerService Message)
    (entry : TimerEntry Message) :
    List (TimerEntry Message) → Bool → Prop where
  | current (before after : List (TimerEntry Message)) :
      upcoming service = before ++ entry :: after →
      Ahead service entry before false
  | next (before after : List (TimerEntry Message)) :
      (remaining service).filter (isDue service.now) =
        before ++ entry :: after →
      Ahead service entry (upcoming service ++ before) true

/-- The timer is due and not cancelled: it is extracted and not fired yet, or it
is in the list. -/
def Due
    {Message : Type u}
    (service : TimerService Message)
    (entry : TimerEntry Message) : Prop :=
  entry ∈ service.position.unfired ∨
    entry ∈ service.timers ∧ isDue service.now entry = true

/-- Nothing holds up the timer: the thread is there and goes on to the pass the
timer is in, no writer keeps it out of the senders, every send before finds room
and so does its own, and what fires before can be put back. -/
structure Clear
    (limit : Nat)
    (timed : TimedRuntime Value State Frame)
    (ahead : List (TimerEntry (AnyBox Value)))
    (nextPass : Bool)
    (channel : Nat) : Prop where
  running :
    timed.service.position ≠ .stopped ∧ timed.service.position ≠ .panicked
  unwaited : timed.runtime.writerWaits = false
  room :
    AllFindRoom timed.runtime
      ((inFlight timed.runtime).map BlockedSend.channel ++
        ahead.flatMap (channelOf timed.runtime) ++ [channel])
  putsBack :
    ∀ entry ∈ busy timed.service ++ ahead,
      PutsBack limit timed.service.poisoned entry
  readable :
    nextPass = true ∨ (∃ pass, timed.service.position = .scanning pass) →
      timed.service.poisoned = false
  polls : nextPass = true → timed.service.stop = false

/-! ## Room for one send after the other -/

section Room

variable {runtime : Runtime Value State Frame} {channel : Nat}
  {envelope : MessageEnvelope Value}

/-- The runtime after a blocking send that has returned. -/
def put
    (runtime : Runtime Value State Frame)
    (channel : Nat)
    (envelope : MessageEnvelope Value) : Runtime Value State Frame :=
  match runtime.offer true channel envelope with
  | .accepted after => after
  | _ => runtime

/-- One envelope more is one place less. -/
theorem hasRoom_append
    {capacity count : Nat}
    {cell : ActorCell Value State Frame} :
    Runtime.hasRoom capacity true
          { cell with mailbox := cell.mailbox ++ [envelope] } = true ∧
        (cell.mailbox ++ [envelope]).length + count < max 1 capacity ↔
      Runtime.hasRoom capacity true cell = true ∧
        cell.mailbox.length + (count + 1) < max 1 capacity := by
  by_cases rendezvous : capacity = 0
  · subst rendezvous
    simp [Runtime.hasRoom]
  · simp only [Runtime.hasRoom, rendezvous, ↓reduceIte, decide_eq_true_eq,
      List.length_append, List.length_singleton]
    omega

theorem length_of_hasRoom
    {capacity : Nat}
    {cell : ActorCell Value State Frame}
    (room : Runtime.hasRoom capacity true cell = true) :
    cell.mailbox.length < max 1 capacity := by
  by_cases rendezvous : capacity = 0
  · simp only [Runtime.hasRoom, rendezvous, ↓reduceIte, Bool.and_eq_true,
      List.isEmpty_iff] at room
    simp [room.1, rendezvous]
  · simp only [Runtime.hasRoom, rendezvous, ↓reduceIte, decide_eq_true_eq]
      at room
    omega

/-- A blocking send returns exactly when its channel has room. -/
theorem roomAfter_nil
    (envelope : MessageEnvelope Value) :
    RoomAfter runtime [] channel ↔
      runtime.offer true channel envelope ≠ .full := by
  unfold RoomAfter Runtime.offer
  cases here : runtime.cells[channel]? with
  | none =>
      simp
  | some cell =>
      by_cases ended : cell.position.isEnded = true
      · simp [ended]
      · by_cases room :
            Runtime.hasRoom runtime.mailboxCapacity true cell = true
        · have space := length_of_hasRoom room
          simp only [ended, room, Option.some.injEq, forall_eq',
            List.count_nil, Nat.add_zero, space, and_self, implies_true,
            Bool.false_eq_true, ↓reduceIte, ne_eq, reduceCtorEq,
            not_false_eq_true]
        · simp [ended, room]

/-- After a send there is room where there was room for it and for one more. -/
theorem roomAfter_put
    {sent : List Nat}
    {other : Nat}
    (envelope : MessageEnvelope Value) :
    RoomAfter (put runtime channel envelope) sent other ↔
      RoomAfter runtime (channel :: sent) other := by
  cases here : runtime.cells[channel]? with
  | none =>
      have unchanged : put runtime channel envelope = runtime := by
        simp [put, Runtime.offer, here]
      rw [unchanged]
      refine forall_congr' fun cell => imp_congr_right fun there => ?_
      have different : channel ≠ other := by
        rintro rfl
        simp [here] at there
      rw [List.count_cons_of_ne different]
  | some cell =>
      by_cases ended : cell.position.isEnded = true
      · have unchanged : put runtime channel envelope = runtime := by
          simp [put, Runtime.offer, here, ended]
        rw [unchanged]
        refine forall_congr' fun found => imp_congr_right fun there =>
          imp_congr_right fun opened => ?_
        have different : channel ≠ other := by
          rintro rfl
          obtain rfl : cell = found := by simpa [here] using there
          simp [ended] at opened
        rw [List.count_cons_of_ne different]
      · have opened : cell.position.isEnded = false := by simpa using ended
        by_cases same : channel = other
        · subst same
          by_cases room :
              Runtime.hasRoom runtime.mailboxCapacity true cell = true
          · have grown :
                put runtime channel envelope =
                  runtime.modifyCell channel fun cell =>
                    { cell with mailbox := cell.mailbox ++ [envelope] } := by
              rw [put, Runtime.offer_of_room here opened room]
            have there :
                (put runtime channel envelope).cells[channel]? =
                  some { cell with
                    mailbox := cell.mailbox ++ [envelope] } := by
              rw [grown, Runtime.modifyCell_cells]
              simp [here]
            simp only [RoomAfter, there, here, Option.some.injEq, forall_eq',
              opened, forall_const, List.count_cons_self]
            rw [grown]
            exact hasRoom_append
          · have unchanged : put runtime channel envelope = runtime := by
              simp [put, Runtime.offer, here, opened, room]
            simp [RoomAfter, unchanged, here, opened, room]
        · have elsewhere :
              (put runtime channel envelope).cells[other]? =
                  runtime.cells[other]? ∧
                (put runtime channel envelope).mailboxCapacity =
                  runtime.mailboxCapacity := by
            unfold put
            split
            · rename_i accepted
              obtain ⟨target, -, -, -, rfl⟩ :=
                Runtime.offer_eq_accepted accepted
              exact ⟨by rw [Runtime.modifyCell_cells, if_neg same], rfl⟩
            · exact ⟨rfl, rfl⟩
          rw [RoomAfter, RoomAfter, elsewhere.1, elsewhere.2,
            List.count_cons_of_ne same]

/-- A list of sends finds room when the first one does, and the others after
it. -/
theorem allFindRoom_cons
    {channels : List Nat}
    (envelope : MessageEnvelope Value) :
    AllFindRoom runtime (channel :: channels) ↔
      RoomAfter runtime [] channel ∧
        AllFindRoom (put runtime channel envelope) channels := by
  constructor
  · intro room
    refine ⟨room [] channel channels rfl, fun sent other rest shape => ?_⟩
    rw [roomAfter_put]
    exact room (channel :: sent) other rest (by rw [shape]; rfl)
  · rintro ⟨first, later⟩ sent other rest shape
    cases sent with
    | nil =>
        obtain ⟨rfl, -⟩ := List.cons.inj shape
        exact first
    | cons front sent =>
        obtain ⟨rfl, tail⟩ := List.cons.inj shape
        rw [← roomAfter_put envelope]
        exact later sent other rest tail

theorem allFindRoom_nil : AllFindRoom runtime [] := by
  intro sent other rest shape
  simp at shape

theorem allFindRoom_singleton :
    AllFindRoom runtime [channel] ↔ RoomAfter runtime [] channel := by
  constructor
  · exact fun room => room [] channel [] rfl
  · intro room sent other rest shape
    cases sent with
    | nil =>
        obtain ⟨rfl, -⟩ := List.cons.inj shape
        exact room
    | cons front sent =>
        simp at shape

end Room

/-! ## One own step after the other -/

section Own

variable {limit id channel passes : Nat} {message : AnyBox Value}
  {timed after : TimedRuntime Value State Frame}
  {events : List (TimedEvent Value)}

/-- A step that delivers another timer, or none, leaves the question to the
state behind it. -/
theorem delivers_iff_later
    (step : timed.ownStep? limit = some (after, events))
    (notPolling : timed.service.position ≠ .polling)
    (silent : .service (.delivered id) ∉ events) :
    Delivers limit id channel message passes timed ↔
      Delivers limit id channel message passes after := by
  constructor
  · intro delivers
    cases delivers with
    | now taken shown accepted =>
        obtain ⟨rfl, rfl⟩ :=
          Prod.mk.inj (Option.some.inj (taken.symm.trans step))
        exact (silent shown).elim
    | later taken notPolling delivers =>
        obtain ⟨rfl, rfl⟩ :=
          Prod.mk.inj (Option.some.inj (taken.symm.trans step))
        exact delivers
    | pass taken polling delivers => exact (notPolling polling).elim
  · exact fun delivers => .later step notPolling delivers

/-- A step out of the sleep leaves the question to the state behind it, with
one pass less. -/
theorem delivers_iff_pass
    (step : timed.ownStep? limit = some (after, []))
    (polling : timed.service.position = .polling) :
    Delivers limit id channel message (passes + 1) timed ↔
      Delivers limit id channel message passes after := by
  constructor
  · intro delivers
    cases delivers with
    | now taken shown accepted =>
        obtain ⟨rfl, rfl⟩ :=
          Prod.mk.inj (Option.some.inj (taken.symm.trans step))
        cases shown
    | later taken notPolling delivers => exact (notPolling polling).elim
    | pass taken polling delivers =>
        obtain ⟨rfl, rfl⟩ :=
          Prod.mk.inj (Option.some.inj (taken.symm.trans step))
        exact delivers
  · exact fun delivers => .pass step polling delivers

/-- A thread that cannot take a step delivers nothing. -/
theorem not_delivers_of_stuck
    (stuck : timed.ownStep? limit = none) :
    ¬ Delivers limit id channel message passes timed := by
  intro delivers
  cases delivers with
  | now taken shown accepted => simp [stuck] at taken
  | later taken notPolling delivers => simp [stuck] at taken
  | pass taken polling delivers => simp [stuck] at taken

/-- The thread has ended. -/
theorem not_delivers_of_ended
    (ended :
      timed.service.position = .stopped ∨
        timed.service.position = .panicked) :
    ¬ Delivers limit id channel message passes timed := by
  refine not_delivers_of_stuck ?_
  rcases ended with ended | ended <;>
    simp [ownStep?, ended, keptOut, TimerService.machine, serviceStep?]

/-- A send that returns leaves the writers of the senders where they are. -/
theorem returnSend_writerWaits
    {runtime after : Runtime Value State Frame}
    {shown : List (RuntimeEvent Value)}
    (returned : returnSend? runtime = some (after, shown)) :
    after.writerWaits = runtime.writerWaits := by
  unfold returnSend? at returned
  split at returned
  · cases returned
    rfl
  · unfold Runtime.unblock? at returned
    split at returned
    · cases returned
    · split at returned
      · rename_i accepted
        have same := Runtime.offer_writerWaits accepted
        cases returned
        exact same
      · cases returned
      · cases returned
        rfl

/-- A thread that a writer keeps out of the senders ends what it is at, and
fires nothing more. -/
theorem ownStep_waited
    (waited : timed.runtime.writerWaits = true)
    (step : timed.ownStep? limit = some (after, events)) :
    after.runtime.writerWaits = true ∧
      (∀ other ∈ busy after.service, other ∈ busy timed.service) ∧
      ∀ id, .service (.delivered id) ∈ events →
        ∃ other ∈ busy timed.service, other.id = id := by
  unfold ownStep? at step
  cases position : timed.service.position with
  | sending pass entry fired due =>
      simp only [position, TimerService.machine] at step
      split at step
      · cases step
      · rename_i runtime shown returned
        simp only [Option.map_some, Option.some.injEq, Prod.mk.injEq] at step
        obtain ⟨rfl, rfl⟩ := step
        refine ⟨?_, ?_, fun id member =>
          ⟨entry, by simp [busy, position], ?_⟩⟩
        · rw [returnSend_writerWaits returned]
          exact waited
        · cases periodic : entry.interval <;> simp [busy, position]
        · simpa [eq_comm] using member
  | delivering pass due =>
      cases due with
      | nil =>
          simp only [position, keptOut, TimerService.machine,
            serviceStep?] at step
          cases step
          exact ⟨waited, by simp [busy], by simp⟩
      | cons entry due => simp [position, keptOut, waited] at step
  | rearming pass entry interval due =>
      simp only [position, keptOut, TimerService.machine, serviceStep?] at step
      split at step
      · cases step
      · split at step
        · cases step
          exact ⟨waited, by simp [busy], by simp⟩
        · split at step <;>
          · cases step
            exact ⟨waited, by simp [busy], by simp⟩
  | polling | scanning now =>
      simp only [position, keptOut, TimerService.machine, serviceStep?] at step
      split at step
      · cases step
      · split at step <;>
        · cases step
          exact ⟨waited, by simp [busy], by simp⟩
  | stopped | panicked =>
      simp [position, keptOut, TimerService.machine, serviceStep?] at step

/-- While a writer keeps it out of the senders, the thread delivers no timer but
the one it is inside of the send of. -/
theorem not_delivers_of_waited
    (waited : timed.runtime.writerWaits = true)
    (others : ∀ other ∈ busy timed.service, other.id ≠ id) :
    ¬ Delivers limit id channel message passes timed := by
  intro delivers
  induction delivers with
  | now step shown accepted =>
      obtain ⟨other, member, same⟩ := (ownStep_waited waited step).2.2 id shown
      exact others other member same
  | later step notPolling delivers inductionHypothesis
  | pass step polling delivers inductionHypothesis =>
      obtain ⟨still, fewer, -⟩ := ownStep_waited waited step
      exact inductionHypothesis still fun other member =>
        others other (fewer other member)

/-- What is put back of a periodic entry. -/
def back
    (entry : TimerEntry (AnyBox Value)) : List (TimerEntry (AnyBox Value)) :=
  match entry.interval with
  | none => []
  | some interval =>
      [{ entry with scheduledAt := entry.scheduledAt + interval }]

/-- The thread is done with an entry, and goes on with the rest of its batch. -/
def finished
    (timed : TimedRuntime Value State Frame)
    (pass : Nat)
    (entry : TimerEntry (AnyBox Value))
    (due : List (TimerEntry (AnyBox Value)))
    (runtime : Runtime Value State Frame) :
    TimedRuntime Value State Frame where
  service :=
    { timed.service with
      timers := timed.service.timers ++ back entry
      position := .delivering pass due }
  runtime := runtime

/-- The thread puts an entry back, or ends. -/
theorem delivers_rearming
    {pass interval : Nat}
    {entry : TimerEntry (AnyBox Value)}
    {due : List (TimerEntry (AnyBox Value))}
    (position : timed.service.position = .rearming pass entry interval due)
    (periodic : entry.interval = some interval) :
    Delivers limit id channel message passes timed ↔
      PutsBack limit timed.service.poisoned entry ∧
        Delivers limit id channel message passes
          (finished timed pass entry due timed.runtime) := by
  have notPolling : timed.service.position ≠ .polling := by simp [position]
  have putsBack :
      PutsBack limit timed.service.poisoned entry ↔
        timed.service.poisoned = false ∧
          entry.scheduledAt + interval ≤ limit := by
    simp [PutsBack, periodic]
  rw [putsBack]
  by_cases usable : timed.service.poisoned = false
  · by_cases representable : entry.scheduledAt + interval ≤ limit
    · have same :
          ({ entry with
              scheduledAt := entry.scheduledAt + interval
              interval := some interval } : TimerEntry (AnyBox Value)) =
            { entry with scheduledAt := entry.scheduledAt + interval } := by
        rw [← periodic]
      have step :
          timed.ownStep? limit =
            some (finished timed pass entry due timed.runtime,
              [.service (.rearmed entry.id
                (entry.scheduledAt + interval))]) := by
        simp [ownStep?, position, keptOut, TimerService.machine, serviceStep?,
          usable, addDuration, representable, finished, back, periodic, same]
      rw [delivers_iff_later step notPolling (by simp)]
      simp [usable, representable]
    · have step :
          timed.ownStep? limit =
            some ({ timed with
                service := { timed.service with
                  poisoned := true
                  position := .panicked } },
              [.service (.overflowed entry.id)]) := by
        simp [ownStep?, position, keptOut, TimerService.machine, serviceStep?,
          usable, addDuration, representable]
      rw [delivers_iff_later step notPolling (by simp)]
      simp [representable, not_delivers_of_ended]
  · have poisoned : timed.service.poisoned = true := by simpa using usable
    have step :
        timed.ownStep? limit =
          some ({ timed with
              service := { timed.service with position := .panicked } },
            [.service .foundPoisoned]) := by
      simp [ownStep?, position, keptOut, TimerService.machine, serviceStep?,
        poisoned]
    rw [delivers_iff_later step notPolling (by simp)]
    simp [poisoned, not_delivers_of_ended]

/-- The runtime after the send the timer service is inside of. -/
def released (runtime : Runtime Value State Frame) :
    Runtime Value State Frame :=
  match runtime.blocked.findIdx? (·.fromTimer) with
  | none => runtime
  | some index =>
      match runtime.blocked[index]? with
      | none => runtime
      | some waiting =>
          { put runtime waiting.channel waiting.envelope with
            blocked := runtime.blocked.eraseIdx index }

/-- Without a sender to call, the timer service goes on at once. -/
theorem returnSend_of_idle
    {runtime : Runtime Value State Frame}
    (idle : inFlight runtime = []) :
    returnSend? runtime = some (runtime, []) ∧ released runtime = runtime := by
  have nobody : runtime.blocked.findIdx? (·.fromTimer) = none := by
    rw [List.findIdx?_eq_none_iff]
    simpa [inFlight] using idle
  exact ⟨by simp [returnSend?, nobody], by simp [released, nobody]⟩

/-- Where the send of the timer service is among those that wait. -/
theorem find_of_one
    {runtime : Runtime Value State Frame}
    {waiting : BlockedSend Value}
    (one : inFlight runtime = [waiting]) :
    ∃ index,
      runtime.blocked.findIdx? (·.fromTimer) = some index ∧
        runtime.blocked[index]? = some waiting ∧
        (runtime.blocked.eraseIdx index).filter (·.fromTimer) = [] := by
  have member : waiting ∈ inFlight runtime := by simp [one]
  obtain ⟨waits, fromTimer⟩ := List.mem_filter.mp member
  obtain ⟨index, found⟩ :
      ∃ index, runtime.blocked.findIdx? (·.fromTimer) = some index := by
    rw [← Option.isSome_iff_exists, List.findIdx?_isSome]
    exact List.any_eq_true.mpr ⟨waiting, waits, fromTimer⟩
  exact ⟨index, found, filter_eraseIdx_findIdx one found⟩

/-- Inside of a send, it goes on when the channel takes the envelope, or is
disconnected. -/
theorem returnSend_of_one
    {runtime : Runtime Value State Frame}
    {waiting : BlockedSend Value}
    (one : inFlight runtime = [waiting]) :
    returnSend? runtime =
      match runtime.offer true waiting.channel waiting.envelope with
      | .accepted _ =>
          some (released runtime,
            [.accepted waiting.channel waiting.envelope, .answered (.ok ())])
      | .full => none
      | .disconnected =>
          some (released runtime, [.answered (.error .runtimeStopped)]) := by
  obtain ⟨index, found, there, -⟩ := find_of_one one
  cases offered : runtime.offer true waiting.channel waiting.envelope with
  | accepted sent =>
      have sameBlocked : sent.blocked = runtime.blocked := by
        rw [(Runtime.onlyLoops_of_offer offered).same]
      simp [returnSend?, released, found, there, Runtime.unblock?, offered,
        put, sameBlocked]
  | full =>
      simp [returnSend?, found, there, Runtime.unblock?, offered]
  | disconnected =>
      simp [returnSend?, released, found, there, Runtime.unblock?, offered, put]

/-- The send returns exactly when its channel finds room. -/
theorem returnSend_cases
    {runtime : Runtime Value State Frame}
    (single :
      inFlight runtime = [] ∨ ∃ waiting, inFlight runtime = [waiting]) :
    (AllFindRoom runtime ((inFlight runtime).map BlockedSend.channel) ∧
        ∃ shown, returnSend? runtime = some (released runtime, shown)) ∨
      (¬ AllFindRoom runtime ((inFlight runtime).map BlockedSend.channel) ∧
        returnSend? runtime = none) := by
  obtain idle | ⟨waiting, one⟩ := single
  · obtain ⟨returns, same⟩ := returnSend_of_idle idle
    rw [idle, same]
    exact .inl ⟨allFindRoom_nil, [], returns⟩
  · rw [one, List.map_singleton, allFindRoom_singleton,
      roomAfter_nil waiting.envelope, returnSend_of_one one]
    cases runtime.offer true waiting.channel waiting.envelope with
    | accepted sent => exact .inl ⟨by simp, _, rfl⟩
    | full => exact .inr ⟨by simp, rfl⟩
    | disconnected => exact .inl ⟨by simp, _, rfl⟩

/-- The thread is inside of the send of another timer. -/
theorem delivers_sending
    {pass : Nat}
    {entry : TimerEntry (AnyBox Value)}
    {fired : AnyBox Value}
    {due : List (TimerEntry (AnyBox Value))}
    (position : timed.service.position = .sending pass entry fired due)
    (other : entry.id ≠ id)
    (single :
      inFlight timed.runtime = [] ∨
        ∃ waiting, inFlight timed.runtime = [waiting]) :
    Delivers limit id channel message passes timed ↔
      AllFindRoom timed.runtime
          ((inFlight timed.runtime).map BlockedSend.channel) ∧
        PutsBack limit timed.service.poisoned entry ∧
        Delivers limit id channel message passes
          (finished timed pass entry due (released timed.runtime)) := by
  obtain ⟨room, shown, returns⟩ | ⟨noRoom, waits⟩ := returnSend_cases single
  · have notPolling : timed.service.position ≠ .polling := by simp [position]
    have silent :
        (.service (.delivered id) : TimedEvent Value) ∉
          [TimedEvent.service (.delivered entry.id)] ++
            shown.map TimedEvent.runtime := by
      simp [Ne.symm other]
    cases periodic : entry.interval with
    | none =>
        have step :
            timed.ownStep? limit =
              some (finished timed pass entry due (released timed.runtime),
                [.service (.delivered entry.id)] ++
                  shown.map .runtime) := by
          simp [ownStep?, position, returns, TimerService.machine, periodic,
            finished, back]
        rw [delivers_iff_later step notPolling silent]
        simp [room, PutsBack, periodic]
    | some interval =>
        have step :
            timed.ownStep? limit =
              some ({ service := { timed.service with
                        position := .rearming pass entry interval due }
                      runtime := released timed.runtime },
                [.service (.delivered entry.id)] ++
                  shown.map .runtime) := by
          simp [ownStep?, position, returns, TimerService.machine, periodic]
        rw [delivers_iff_later step notPolling silent,
          delivers_rearming rfl periodic]
        simp only [room, true_and]
        rfl
  · have stuck : timed.ownStep? limit = none := by
      simp [ownStep?, position, waits]
    simp [noRoom, not_delivers_of_stuck stuck]

/-- The runtime after the message of an entry was sent. -/
def putTo
    (runtime : Runtime Value State Frame)
    (entry : TimerEntry (AnyBox Value)) : Runtime Value State Frame :=
  match runtime.senders.lookup entry.actorId, entry.factory.call? with
  | some channel, some (message, _) =>
      put runtime channel (.message message)
  | _, _ => runtime

/-- A send changes the mailboxes only. -/
theorem put_same
    (runtime : Runtime Value State Frame)
    (channel : Nat)
    (envelope : MessageEnvelope Value) :
    (put runtime channel envelope).senders = runtime.senders ∧
      (put runtime channel envelope).blocked = runtime.blocked := by
  unfold put
  split
  · rename_i accepted
    obtain ⟨cell, -, -, -, rfl⟩ := Runtime.offer_eq_accepted accepted
    exact ⟨rfl, rfl⟩
  · exact ⟨rfl, rfl⟩

@[simp] theorem put_writerWaits
    (runtime : Runtime Value State Frame)
    (channel : Nat)
    (envelope : MessageEnvelope Value) :
    (put runtime channel envelope).writerWaits = runtime.writerWaits := by
  unfold put
  split
  · exact Runtime.offer_writerWaits ‹_›
  · rfl

@[simp] theorem putTo_writerWaits
    (runtime : Runtime Value State Frame)
    (entry : TimerEntry (AnyBox Value)) :
    (putTo runtime entry).writerWaits = runtime.writerWaits := by
  unfold putTo
  split <;> simp

@[simp] theorem foldl_putTo_writerWaits
    (done : List (TimerEntry (AnyBox Value)))
    (runtime : Runtime Value State Frame) :
    (done.foldl putTo runtime).writerWaits = runtime.writerWaits := by
  induction done generalizing runtime with
  | nil => rfl
  | cons entry done inductionHypothesis =>
      rw [List.foldl_cons, inductionHypothesis, putTo_writerWaits]

@[simp] theorem released_writerWaits
    (runtime : Runtime Value State Frame) :
    (released runtime).writerWaits = runtime.writerWaits := by
  unfold released
  split
  · rfl
  · split <;> simp

/-- Who else waits makes no difference to a send. -/
theorem put_blocked
    (runtime : Runtime Value State Frame)
    (channel : Nat)
    (envelope : MessageEnvelope Value)
    (blocked : List (BlockedSend Value)) :
    { put { runtime with blocked := blocked } channel envelope with
      blocked := runtime.blocked } = put runtime channel envelope := by
  unfold put Runtime.offer
  cases here : runtime.cells[channel]? with
  | none => rfl
  | some cell =>
      by_cases ended : cell.position.isEnded = true
      · simp [ended]
      · by_cases room :
            Runtime.hasRoom runtime.mailboxCapacity true cell = true <;>
          simp [ended, room, Runtime.modifyCell]

theorem putTo_same
    (runtime : Runtime Value State Frame)
    (entry : TimerEntry (AnyBox Value)) :
    (putTo runtime entry).senders = runtime.senders ∧
      (putTo runtime entry).blocked = runtime.blocked := by
  unfold putTo
  split
  · exact put_same runtime _ _
  · exact ⟨rfl, rfl⟩

/-- The lookup for a fired message, and the runtime after its send. -/
theorem deliverTimer_cases
    {runtime : Runtime Value State Frame}
    {entry : TimerEntry (AnyBox Value)}
    {fired : AnyBox Value}
    {factory : MessageFactory (AnyBox Value)}
    (idle : inFlight runtime = [])
    (called : entry.factory.call? = some (fired, factory)) :
    (inFlight (runtime.deliverTimer entry.actorId fired) = [] ∨
        ∃ waiting,
          inFlight (runtime.deliverTimer entry.actorId fired) = [waiting]) ∧
      (inFlight (runtime.deliverTimer entry.actorId fired)).map
          BlockedSend.channel = channelOf runtime entry ∧
      released (runtime.deliverTimer entry.actorId fired) =
        putTo runtime entry := by
  cases found : runtime.senders.lookup entry.actorId with
  | none =>
      have same : runtime.deliverTimer entry.actorId fired = runtime := by
        simp [Runtime.deliverTimer, found]
      rw [same]
      exact ⟨.inl idle, by simp [idle, channelOf, found],
        by simp [returnSend_of_idle idle, putTo, found]⟩
  | some channel =>
      have one :
          inFlight (runtime.deliverTimer entry.actorId fired) =
            [{ channel := channel
               envelope := .message fired
               fromTimer := true }] := by
        simp only [inFlight] at idle
        simp [inFlight, Runtime.deliverTimer, found, List.filter_append, idle]
      refine ⟨.inr ⟨_, one⟩, by simp [one, channelOf, found], ?_⟩
      have others :
          ∀ waiting ∈ runtime.blocked, waiting.fromTimer = false := by
        simpa [inFlight] using idle
      have last :
          (runtime.deliverTimer entry.actorId fired).blocked.findIdx?
              (·.fromTimer) = some runtime.blocked.length := by
        have nobody : runtime.blocked.findIdx? (·.fromTimer) = none := by
          rw [List.findIdx?_eq_none_iff]
          exact others
        simp [Runtime.deliverTimer, found, List.findIdx?_append, nobody]
      have erased :
          (runtime.deliverTimer entry.actorId fired).blocked.eraseIdx
              runtime.blocked.length = runtime.blocked := by
        simp [Runtime.deliverTimer, found,
          List.eraseIdx_append_of_length_le]
      have there :
          (runtime.deliverTimer entry.actorId fired).blocked[
              runtime.blocked.length]? =
            some { channel := channel
                   envelope := .message fired
                   fromTimer := true } := by
        simp [Runtime.deliverTimer, found]
      simp only [released, last, there, erased]
      simp only [Runtime.deliverTimer, found]
      rw [put_blocked, putTo, found, called]

/-- The thread is about to fire another timer. -/
theorem delivers_other
    {pass : Nat}
    {entry : TimerEntry (AnyBox Value)}
    {due : List (TimerEntry (AnyBox Value))}
    (position : timed.service.position = .delivering pass (entry :: due))
    (fits : Fits entry.factory entry.interval)
    (other : entry.id ≠ id)
    (idle : inFlight timed.runtime = [])
    (unwaited : timed.runtime.writerWaits = false) :
    Delivers limit id channel message passes timed ↔
      AllFindRoom timed.runtime (channelOf timed.runtime entry) ∧
        PutsBack limit timed.service.poisoned entry ∧
        Delivers limit id channel message passes
          (finished timed pass entry due (putTo timed.runtime entry)) := by
  obtain ⟨fired, factory, called, kept⟩ := call?_of_fits fits
  have notPolling : timed.service.position ≠ .polling := by simp [position]
  have step :
      timed.ownStep? limit =
        some ({ service := { timed.service with
                  position :=
                    .sending pass { entry with factory := factory } fired
                      due }
                runtime :=
                  timed.runtime.deliverTimer entry.actorId fired },
          [.service (.fired entry.id entry.scheduledAt entry.interval pass
            timed.service.now)]) := by
    simp [ownStep?, position, keptOut, unwaited, TimerService.machine,
      serviceStep?, called]
  obtain ⟨single, channels, after⟩ := deliverTimer_cases idle called
  have sameBack : back { entry with factory := factory } = back entry := by
    cases periodic : entry.interval with
    | none => simp [back, periodic]
    | some interval =>
        obtain rfl := kept (by simp [periodic])
        simp [back, periodic]
  have sameRoom :
      AllFindRoom (timed.runtime.deliverTimer entry.actorId fired)
          (channelOf timed.runtime entry) ↔
        AllFindRoom timed.runtime (channelOf timed.runtime entry) := by
    unfold Runtime.deliverTimer
    split <;> exact Iff.rfl
  have otherFired :
      ({ entry with factory := factory } : TimerEntry (AnyBox Value)).id ≠
        id := other
  rw [delivers_iff_later step notPolling (by simp),
    delivers_sending rfl otherFired single]
  simp only [channels, after, sameRoom, finished, sameBack]
  exact Iff.rfl

/-- The thread is inside of the send of the timer itself. -/
theorem delivers_inside
    {pass : Nat}
    {entry : TimerEntry (AnyBox Value)}
    {due : List (TimerEntry (AnyBox Value))}
    {cell : ActorCell Value State Frame}
    (position : timed.service.position = .sending pass entry message due)
    (own : entry.id = id)
    (one :
      inFlight timed.runtime =
        [{ channel := channel
           envelope := .message message
           fromTimer := true }])
    (here : timed.runtime.cells[channel]? = some cell)
    (opened : cell.position.isEnded = false) :
    Delivers limit id channel message passes timed ↔
      RoomAfter timed.runtime [] channel := by
  have returns := returnSend_of_one one
  rw [roomAfter_nil (.message message)]
  cases offered : timed.runtime.offer true channel (.message message) with
  | accepted sent =>
      simp only [offered] at returns
      have step :
          timed.ownStep? limit =
            some ({ service := { timed.service with
                      position :=
                        match entry.interval with
                        | none => .delivering pass due
                        | some interval =>
                            .rearming pass entry interval due }
                    runtime := released timed.runtime },
              [.service (.delivered entry.id),
                .runtime (.accepted channel (.message message)),
                .runtime (.answered (.ok ()))]) := by
        simp only [ownStep?, position, returns, TimerService.machine]
        rfl
      exact iff_of_true (.now step (by simp [own]) (by simp)) (by simp)
  | full =>
      simp only [offered] at returns
      have stuck : timed.ownStep? limit = none := by
        simp [ownStep?, position, returns]
      exact iff_of_false (not_delivers_of_stuck stuck) (by simp)
  | disconnected =>
      simp only [Runtime.offer, here, opened, Bool.false_eq_true, ↓reduceIte]
        at offered
      split at offered <;> cases offered

/-- The thread is about to fire the timer itself. -/
theorem delivers_entry
    {pass : Nat}
    {entry : TimerEntry (AnyBox Value)}
    {due : List (TimerEntry (AnyBox Value))}
    {factory : MessageFactory (AnyBox Value)}
    {cell : ActorCell Value State Frame}
    (position : timed.service.position = .delivering pass (entry :: due))
    (called : entry.factory.call? = some (message, factory))
    (idle : inFlight timed.runtime = [])
    (unwaited : timed.runtime.writerWaits = false)
    (registered : timed.runtime.senders.lookup entry.actorId = some channel)
    (here : timed.runtime.cells[channel]? = some cell)
    (opened : cell.position.isEnded = false) :
    Delivers limit entry.id channel message passes timed ↔
      RoomAfter timed.runtime [] channel := by
  have notPolling : timed.service.position ≠ .polling := by simp [position]
  have lookedUp :
      timed.runtime.deliverTimer entry.actorId message =
        { timed.runtime with
          blocked := timed.runtime.blocked ++
            [{ channel := channel
               envelope := .message message
               fromTimer := true }] } := by
    simp [Runtime.deliverTimer, registered]
  have step :
      timed.ownStep? limit =
        some ({ service := { timed.service with
                  position :=
                    .sending pass { entry with factory := factory } message
                      due }
                runtime :=
                  timed.runtime.deliverTimer entry.actorId message },
          [.service (.fired entry.id entry.scheduledAt entry.interval pass
            timed.service.now)]) := by
    simp [ownStep?, position, keptOut, unwaited, TimerService.machine,
      serviceStep?, called]
  have one :
      inFlight (timed.runtime.deliverTimer entry.actorId message) =
        [{ channel := channel
           envelope := .message message
           fromTimer := true }] := by
    simp only [inFlight] at idle
    simp [inFlight, lookedUp, List.filter_append, idle]
  rw [delivers_iff_later step notPolling (by simp)]
  rw [lookedUp] at one ⊢
  exact delivers_inside rfl rfl one here opened

/-- The batch is done: the thread sleeps and comes to the next pass. -/
theorem delivers_sleep
    {pass : Nat}
    (position : timed.service.position = .delivering pass []) :
    Delivers limit id channel message passes timed ↔
      Delivers limit id channel message passes
        { timed with
          service := { timed.service with position := .polling } } := by
  have step :
      timed.ownStep? limit =
        some ({ timed with
            service := { timed.service with position := .polling } }, []) := by
    simp [ownStep?, position, keptOut, TimerService.machine, serviceStep?]
  exact delivers_iff_later step (by simp [position]) (by simp)

/-- The thread begins one more pass, unless it is told to stop. -/
theorem delivers_poll
    (position : timed.service.position = .polling) :
    Delivers limit id channel message (passes + 1) timed ↔
      timed.service.stop = false ∧
        Delivers limit id channel message passes
          { timed with
            service := { timed.service with
              position := .scanning timed.service.now } } := by
  by_cases running : timed.service.stop = false
  · have step :
        timed.ownStep? limit =
          some ({ timed with
              service := { timed.service with
                position := .scanning timed.service.now } }, []) := by
      simp [ownStep?, position, keptOut, TimerService.machine, serviceStep?,
        running]
    rw [delivers_iff_pass step position, and_iff_right running]
  · have told : timed.service.stop = true := by simpa using running
    have step :
        timed.ownStep? limit =
          some ({ timed with
              service := { timed.service with position := .stopped } },
            []) := by
      simp [ownStep?, position, keptOut, TimerService.machine, serviceStep?,
        told]
    rw [delivers_iff_pass step position]
    exact iff_of_false (not_delivers_of_ended (.inl rfl)) fun both =>
      running both.1

/-- The thread extracts what is due, unless the list is poisoned. -/
theorem delivers_scan
    {pass : Nat}
    (position : timed.service.position = .scanning pass) :
    Delivers limit id channel message passes timed ↔
      timed.service.poisoned = false ∧
        Delivers limit id channel message passes
          { timed with
            service := { timed.service with
              timers :=
                timed.service.timers.filter fun entry => !isDue pass entry
              position :=
                .delivering pass
                  (timed.service.timers.filter (isDue pass)) } } := by
  have notPolling : timed.service.position ≠ .polling := by simp [position]
  by_cases usable : timed.service.poisoned = false
  · have step :
        timed.ownStep? limit =
          some ({ timed with
              service := { timed.service with
                timers :=
                  timed.service.timers.filter fun entry => !isDue pass entry
                position :=
                  .delivering pass
                    (timed.service.timers.filter (isDue pass)) } },
            [.service (.extracted
              ((timed.service.timers.filter (isDue pass)).map
                TimerEntry.id))]) := by
      simp [ownStep?, position, keptOut, TimerService.machine, serviceStep?,
        usable, scan_eq]
    rw [delivers_iff_later step notPolling (by simp), and_iff_right usable]
  · have poisoned : timed.service.poisoned = true := by simpa using usable
    have step :
        timed.ownStep? limit =
          some ({ timed with
              service := { timed.service with position := .panicked } },
            [.service .foundPoisoned]) := by
      simp [ownStep?, position, keptOut, TimerService.machine, serviceStep?,
        poisoned]
    rw [delivers_iff_later step notPolling (by simp)]
    simp [poisoned, not_delivers_of_ended]

end Own

/-! ## A whole batch -/

section Batch

variable {limit id channel passes : Nat} {message : AnyBox Value}

/-- The sends of an entry, and of what comes after it. -/
theorem allFindRoom_channelOf
    {runtime : Runtime Value State Frame}
    {entry : TimerEntry (AnyBox Value)}
    {channels : List Nat}
    (fits : Fits entry.factory entry.interval) :
    AllFindRoom runtime (channelOf runtime entry ++ channels) ↔
      AllFindRoom runtime (channelOf runtime entry) ∧
        AllFindRoom (putTo runtime entry) channels := by
  obtain ⟨fired, factory, called, -⟩ := call?_of_fits fits
  unfold channelOf putTo
  cases found : runtime.senders.lookup entry.actorId with
  | none =>
      simp [allFindRoom_nil]
  | some target =>
      simp only [called, Option.toList_some, List.singleton_append]
      rw [allFindRoom_cons (.message fired), allFindRoom_singleton]

/-- Where an entry is sent depends on the senders only. -/
theorem channelOf_of_senders
    {runtime other : Runtime Value State Frame}
    (same : runtime.senders = other.senders) :
    channelOf runtime = channelOf other := by
  funext entry
  rw [channelOf, channelOf, same]

/-- The thread has worked through the first entries of its batch. -/
def worked
    (timed : TimedRuntime Value State Frame)
    (pass : Nat)
    (done due : List (TimerEntry (AnyBox Value))) :
    TimedRuntime Value State Frame where
  service :=
    { timed.service with
      timers := timed.service.timers ++ done.flatMap back
      position := .delivering pass due }
  runtime := done.foldl putTo timed.runtime

/-- The thread works through entries of other timers. -/
theorem delivers_batch
    {pass : Nat}
    {done due : List (TimerEntry (AnyBox Value))}
    {timed : TimedRuntime Value State Frame}
    (position : timed.service.position = .delivering pass (done ++ due))
    (fits : ∀ entry ∈ done, Fits entry.factory entry.interval)
    (others : ∀ entry ∈ done, entry.id ≠ id)
    (idle : inFlight timed.runtime = [])
    (unwaited : timed.runtime.writerWaits = false) :
    Delivers limit id channel message passes timed ↔
      AllFindRoom timed.runtime (done.flatMap (channelOf timed.runtime)) ∧
        (∀ entry ∈ done, PutsBack limit timed.service.poisoned entry) ∧
        Delivers limit id channel message passes
          (worked timed pass done due) := by
  induction done generalizing timed with
  | nil =>
      rw [List.nil_append] at position
      have same : worked timed pass [] due = timed := by
        simp only [worked, List.flatMap_nil, List.append_nil, List.foldl_nil]
        rw [← position]
      simp [same, allFindRoom_nil]
  | cons entry done inductionHypothesis =>
      rw [List.cons_append] at position
      have first := fits entry List.mem_cons_self
      have idleAfter : inFlight (putTo timed.runtime entry) = [] := by
        rw [inFlight, (putTo_same timed.runtime entry).2]
        exact idle
      have unwaitedAfter :
          (finished timed pass entry (done ++ due)
            (putTo timed.runtime entry)).runtime.writerWaits = false :=
        (putTo_writerWaits timed.runtime entry).trans unwaited
      rw [delivers_other position first (others entry List.mem_cons_self) idle
          unwaited,
        inductionHypothesis rfl
          (fun other member => fits other (List.mem_cons_of_mem _ member))
          (fun other member => others other (List.mem_cons_of_mem _ member))
          idleAfter unwaitedAfter]
      have same :
          worked
              (finished timed pass entry (done ++ due)
                (putTo timed.runtime entry)) pass done due =
            worked timed pass (entry :: done) due := by
        simp [worked, finished]
      rw [same, List.flatMap_cons, allFindRoom_channelOf first,
        List.forall_mem_cons]
      simp only [finished,
        channelOf_of_senders (putTo_same timed.runtime entry).1]
      tauto

end Batch

/-! ## What comes before a timer -/

section Identifiers

variable {limit now : Nat} {Message : Type u} {log : List Event}
  {service : TimerService Message}

/-- The entries at hand, those to come and those in the list have identifiers of
their own. -/
theorem run_ids_nodup
    (run :
      Machine.Run (TimerService.machine limit Message)
        (TimerService.new Message now) log service) :
    ((busy service ++ (upcoming service ++ remaining service)).map
      TimerEntry.id).Nodup := by
  refine List.nodup_iff_count_le_one.mpr fun id => ?_
  have account := (run_account run id).2
  have bounded := account.bounded
  have once := account.issuedOnce
  have pendingOnce : pending id service ≤ 1 := by omega
  cases shape : service.position with
  | scanning pass =>
      have parts :
          (service.timers.filter (isDue pass) ++
              service.timers.filter fun entry => !isDue pass entry).Perm
            service.timers :=
        List.filter_append_perm _ _
      simp only [busy, upcoming, remaining, shape, List.nil_append]
      rw [(parts.map TimerEntry.id).count_eq]
      simpa [pending, shape, ServicePosition.held] using pendingOnce
  | sending pass entry fired due =>
      simp only [busy, upcoming, remaining, shape, ServicePosition.unfired,
        List.singleton_append, List.map_cons, List.map_append,
        List.count_cons, List.count_append]
      cases periodic : entry.interval with
      | some interval =>
          simp only [pending, shape, ServicePosition.held, periodic,
            Option.isSome_some, ↓reduceIte, List.map_append, List.map_cons,
            List.count_append, List.count_cons] at pendingOnce
          omega
      | none =>
          have fired := run_sendingFired run shape periodic
          simp only [pending, shape, ServicePosition.held, periodic,
            Option.isSome_none, Bool.false_eq_true, ↓reduceIte,
            List.map_append, List.count_append] at bounded
          by_cases same : entry.id = id
          · subst same
            simp only [beq_self_eq_true, ↓reduceIte]
            omega
          · simp only [beq_iff_eq, same, ↓reduceIte]
            omega
  | rearming pass entry interval due =>
      simp only [busy, upcoming, remaining, shape, ServicePosition.unfired,
        List.singleton_append, List.map_cons, List.map_append,
        List.count_cons, List.count_append]
      simp only [pending, shape, ServicePosition.held, List.map_append,
        List.map_cons, List.count_append, List.count_cons] at pendingOnce
      omega
  | delivering pass due =>
      simp only [busy, upcoming, remaining, shape, ServicePosition.unfired,
        List.nil_append, List.map_append, List.count_append]
      simp only [pending, shape, ServicePosition.held, List.map_append,
        List.count_append] at pendingOnce
      omega
  | _ =>
      simpa [busy, upcoming, remaining, pending, shape,
        ServicePosition.unfired, ServicePosition.held] using pendingOnce

/-- What is due has its place. -/
theorem ahead_of_due
    {entry : TimerEntry Message}
    (due : Due service entry) :
    ∃ ahead nextPass, Ahead service entry ahead nextPass := by
  by_cases soon : entry ∈ upcoming service
  · obtain ⟨before, after, shape⟩ := List.append_of_mem soon
    exact ⟨before, false, .current before after shape⟩
  · have later :
        entry ∈ (remaining service).filter (isDue service.now) := by
      unfold upcoming at soon
      unfold remaining
      rw [List.mem_filter]
      obtain extracted | ⟨listed, isDue⟩ := due
      · split at soon
        · rename_i pass scanning
          rw [scanning] at extracted
          cases extracted
        · exact (soon extracted).elim
      · refine ⟨?_, isDue⟩
        split
        · rename_i pass scanning
          simp only [scanning, List.mem_filter, not_and,
            Bool.not_eq_true] at soon
          simp [listed, soon listed]
        · exact listed
    obtain ⟨before, after, shape⟩ := List.append_of_mem later
    exact ⟨upcoming service ++ before, true, .next before after shape⟩

/-- Nothing that comes before a timer is of the timer itself. -/
theorem Ahead.others
    {entry : TimerEntry Message}
    {ahead : List (TimerEntry Message)}
    {nextPass : Bool}
    (place : Ahead service entry ahead nextPass)
    (distinct :
      ((busy service ++ (upcoming service ++ remaining service)).map
        TimerEntry.id).Nodup) :
    ∀ other ∈ busy service ++ ahead, other.id ≠ entry.id := by
  have parts :
      (busy service ++ ahead ++ [entry]).Sublist
        (busy service ++ (upcoming service ++ remaining service)) := by
    rw [List.append_assoc]
    refine (List.Sublist.refl _).append ?_
    cases place with
    | current _ after shape =>
        have front : (ahead ++ [entry]).Sublist (upcoming service) := by
          rw [shape]
          exact (List.Sublist.refl ahead).append (by simp)
        exact front.trans (List.sublist_append_left _ _)
    | next before after shape =>
        rw [List.append_assoc]
        have front :
            (before ++ [entry]).Sublist
              ((remaining service).filter (isDue service.now)) := by
          rw [shape]
          exact (List.Sublist.refl before).append (by simp)
        exact (List.Sublist.refl _).append
          (front.trans List.filter_sublist)
  have apart := (parts.map TimerEntry.id).nodup distinct
  rw [List.map_append, List.nodup_append] at apart
  intro other member same
  exact apart.2.2 other.id (List.mem_map_of_mem member) entry.id (by simp)
    same

/-- What comes next fires and can be fired. -/
theorem fits_upcoming
    (sound : Sound service) :
    ∀ entry ∈ upcoming service, Fits entry.factory entry.interval := by
  intro entry member
  have position := sound.position
  cases shape : service.position with
  | scanning pass =>
      simp only [upcoming, shape] at member
      exact sound.entries entry (List.mem_filter.mp member).1
  | delivering pass due =>
      rw [shape] at position
      simp only [upcoming, shape, ServicePosition.unfired] at member
      exact (position.2 entry member).1
  | sending pass sent fired due =>
      rw [shape] at position
      simp only [upcoming, shape, ServicePosition.unfired] at member
      exact (position.1.2 entry member).1
  | rearming pass sent interval due =>
      rw [shape] at position
      simp only [upcoming, shape, ServicePosition.unfired] at member
      exact (position.1.2 entry member).1
  | _ =>
      simp [upcoming, shape, ServicePosition.unfired] at member

theorem fits_remaining
    (sound : Sound service) :
    ∀ entry ∈ remaining service, Fits entry.factory entry.interval := by
  intro entry member
  unfold remaining at member
  split at member
  · exact sound.entries entry (List.mem_filter.mp member).1
  · exact sound.entries entry member

/-- What is due can be fired. -/
theorem Ahead.fits
    {entry : TimerEntry Message}
    {ahead : List (TimerEntry Message)}
    {nextPass : Bool}
    (place : Ahead service entry ahead nextPass)
    (sound : Sound service) :
    Fits entry.factory entry.interval := by
  cases place with
  | current _ behind upcomes =>
      exact fits_upcoming sound entry (by rw [upcomes]; simp)
  | next before behind listed =>
      have due : entry ∈ (remaining service).filter (isDue service.now) := by
        rw [listed]
        simp
      exact fits_remaining sound entry (List.mem_filter.mp due).1

end Identifiers

/-! ## From where the thread is to the timer -/

section Whole

variable {runtime : Runtime Value State Frame} {channels : List Nat}

/-- The receiver of the channel is there. -/
def Alive
    (runtime : Runtime Value State Frame)
    (channel : Nat) : Prop :=
  ∃ cell,
    runtime.cells[channel]? = some cell ∧ cell.position.isEnded = false

theorem Alive.put
    {channel target : Nat}
    {envelope : MessageEnvelope Value}
    (alive : Alive runtime channel) :
    Alive (put runtime target envelope) channel := by
  obtain ⟨cell, here, opened⟩ := alive
  unfold TimedRuntime.put
  split
  · rename_i accepted
    obtain ⟨-, -, -, -, rfl⟩ := Runtime.offer_eq_accepted accepted
    rw [Alive, Runtime.modifyCell_cells]
    split
    · rw [here, Option.map_some]
      exact ⟨_, rfl, opened⟩
    · exact ⟨cell, here, opened⟩
  · exact ⟨cell, here, opened⟩

/-- After the sends of a batch its receivers are where they were. -/
theorem foldl_putTo
    (done : List (TimerEntry (AnyBox Value)))
    (runtime : Runtime Value State Frame) :
    (done.foldl putTo runtime).senders = runtime.senders ∧
      (done.foldl putTo runtime).blocked = runtime.blocked ∧
      ∀ channel,
        Alive runtime channel → Alive (done.foldl putTo runtime) channel := by
  induction done generalizing runtime with
  | nil => exact ⟨rfl, rfl, fun _ alive => alive⟩
  | cons entry done inductionHypothesis =>
      obtain ⟨senders, blocked, alive⟩ :=
        inductionHypothesis (putTo runtime entry)
      obtain ⟨sameSenders, sameBlocked⟩ := putTo_same runtime entry
      refine ⟨senders.trans sameSenders, blocked.trans sameBlocked,
        fun channel there => alive channel ?_⟩
      unfold putTo
      split
      · exact there.put
      · exact there

/-- The sends of a batch, and of what comes after it. -/
theorem allFindRoom_batch
    {done : List (TimerEntry (AnyBox Value))}
    (fits : ∀ entry ∈ done, Fits entry.factory entry.interval) :
    AllFindRoom runtime (done.flatMap (channelOf runtime) ++ channels) ↔
      AllFindRoom runtime (done.flatMap (channelOf runtime)) ∧
        AllFindRoom (done.foldl putTo runtime) channels := by
  induction done generalizing runtime with
  | nil =>
      simp [allFindRoom_nil]
  | cons entry done inductionHypothesis =>
      have first := fits entry List.mem_cons_self
      have later :
          AllFindRoom (putTo runtime entry)
              (done.flatMap (channelOf (putTo runtime entry)) ++ channels) ↔
            AllFindRoom (putTo runtime entry)
                (done.flatMap (channelOf (putTo runtime entry))) ∧
              AllFindRoom (done.foldl putTo (putTo runtime entry)) channels :=
        inductionHypothesis fun other member =>
          fits other (List.mem_cons_of_mem _ member)
      rw [channelOf_of_senders (putTo_same runtime entry).1] at later
      rw [List.flatMap_cons, List.append_assoc, allFindRoom_channelOf first,
        later, allFindRoom_channelOf first, List.foldl_cons, and_assoc]

/-- What the send in flight leaves behind. -/
theorem released_spec
    (channels : List Nat)
    (single :
      inFlight runtime = [] ∨ ∃ waiting, inFlight runtime = [waiting]) :
    (released runtime).senders = runtime.senders ∧
      inFlight (released runtime) = [] ∧
      (∀ channel, Alive runtime channel → Alive (released runtime) channel) ∧
      (AllFindRoom runtime
          ((inFlight runtime).map BlockedSend.channel ++ channels) ↔
        AllFindRoom runtime ((inFlight runtime).map BlockedSend.channel) ∧
          AllFindRoom (released runtime) channels) := by
  obtain idle | ⟨waiting, one⟩ := single
  · rw [(returnSend_of_idle idle).2, idle]
    exact ⟨rfl, rfl, fun _ alive => alive, by simp [allFindRoom_nil]⟩
  · obtain ⟨index, found, there, emptied⟩ := find_of_one one
    have shape :
        released runtime =
          { put runtime waiting.channel waiting.envelope with
            blocked := runtime.blocked.eraseIdx index } := by
      simp [released, found, there]
    rw [shape, one, List.map_singleton, List.singleton_append,
      allFindRoom_cons waiting.envelope, allFindRoom_singleton]
    exact ⟨(put_same runtime waiting.channel waiting.envelope).1, emptied,
      fun channel alive => alive.put, Iff.rfl⟩

section Entry

variable {limit channel pass passes : Nat} {message : AnyBox Value}
  {timed : TimedRuntime Value State Frame}
  {entry : TimerEntry (AnyBox Value)}
  {ahead behind : List (TimerEntry (AnyBox Value))}
  {factory : MessageFactory (AnyBox Value)}

/-- In its batch, the timer waits for the sends of the entries before it, and
for its own. -/
theorem delivers_behind
    (position :
      timed.service.position = .delivering pass (ahead ++ entry :: behind))
    (fits : ∀ other ∈ ahead, Fits other.factory other.interval)
    (others : ∀ other ∈ ahead, other.id ≠ entry.id)
    (idle : inFlight timed.runtime = [])
    (unwaited : timed.runtime.writerWaits = false)
    (called : entry.factory.call? = some (message, factory))
    (registered : timed.runtime.senders.lookup entry.actorId = some channel)
    (alive : Alive timed.runtime channel) :
    Delivers limit entry.id channel message passes timed ↔
      AllFindRoom timed.runtime
          (ahead.flatMap (channelOf timed.runtime) ++ [channel]) ∧
        ∀ other ∈ ahead, PutsBack limit timed.service.poisoned other := by
  obtain ⟨sameSenders, sameBlocked, stays⟩ :=
    foldl_putTo ahead timed.runtime
  obtain ⟨cell, here, opened⟩ := stays channel alive
  have idleAfter : inFlight (ahead.foldl putTo timed.runtime) = [] := by
    rw [inFlight, sameBlocked]
    exact idle
  have stillRegistered :
      (ahead.foldl putTo timed.runtime).senders.lookup entry.actorId =
        some channel := by
    rw [sameSenders]
    exact registered
  have unwaitedAfter :
      (worked timed pass ahead (entry :: behind)).runtime.writerWaits =
        false :=
    (foldl_putTo_writerWaits ahead timed.runtime).trans unwaited
  rw [delivers_batch position fits others idle unwaited,
    allFindRoom_batch fits, allFindRoom_singleton,
    delivers_entry rfl called idleAfter unwaitedAfter stillRegistered here
      opened]
  simp only [worked]
  tauto

/-- In the list, the timer waits for one more pass. -/
theorem delivers_listed
    (position : timed.service.position = .polling)
    (listed :
      timed.service.timers.filter (isDue timed.service.now) =
        ahead ++ entry :: behind)
    (fits : ∀ other ∈ ahead, Fits other.factory other.interval)
    (others : ∀ other ∈ ahead, other.id ≠ entry.id)
    (idle : inFlight timed.runtime = [])
    (unwaited : timed.runtime.writerWaits = false)
    (called : entry.factory.call? = some (message, factory))
    (registered : timed.runtime.senders.lookup entry.actorId = some channel)
    (alive : Alive timed.runtime channel) :
    Delivers limit entry.id channel message (passes + 1) timed ↔
      timed.service.stop = false ∧
        timed.service.poisoned = false ∧
        AllFindRoom timed.runtime
          (ahead.flatMap (channelOf timed.runtime) ++ [channel]) ∧
        ∀ other ∈ ahead, PutsBack limit timed.service.poisoned other := by
  rw [delivers_poll position, delivers_scan rfl, listed]
  exact and_congr_right fun _ => and_congr_right fun _ =>
    delivers_behind rfl fits others idle unwaited called registered alive

end Entry

/-- The thread is done with the entry it is at, and has the next batch. -/
def settled
    (timed : TimedRuntime Value State Frame)
    (pass : Nat) : TimedRuntime Value State Frame where
  service :=
    { timed.service with
      timers :=
        remaining timed.service ++ (busy timed.service).flatMap back
      position := .delivering pass (upcoming timed.service) }
  runtime := released timed.runtime

/-- The timer service is inside of one send or of none. -/
theorem single_of_sendsFired
    {timed : TimedRuntime Value State Frame}
    (sends : SendsFired timed) :
    inFlight timed.runtime = [] ∨
      ∃ waiting, inFlight timed.runtime = [waiting] := by
  refine sends.imp_right ?_
  rintro ⟨pass, entry, fired, due, target, -, one⟩
  exact ⟨_, one⟩

/-- A thread that has not ended and is not asleep comes to its next batch, if
its send returns, its entry can be put back and its list can be read. -/
theorem delivers_settled
    (limit id channel passes : Nat)
    (message : AnyBox Value)
    {timed : TimedRuntime Value State Frame}
    (sound : Sound timed.service)
    (sends : SendsFired timed)
    (others : ∀ other ∈ busy timed.service, other.id ≠ id)
    (running :
      timed.service.position ≠ .stopped ∧
        timed.service.position ≠ .panicked)
    (notPolling : timed.service.position ≠ .polling) :
    ∃ pass,
      Delivers limit id channel message passes timed ↔
        AllFindRoom timed.runtime
            ((inFlight timed.runtime).map BlockedSend.channel) ∧
          (∀ other ∈ busy timed.service,
            PutsBack limit timed.service.poisoned other) ∧
          ((∃ pass, timed.service.position = .scanning pass) →
            timed.service.poisoned = false) ∧
          Delivers limit id channel message passes (settled timed pass) := by
  have idle
      (notSending :
        ∀ pass entry message due,
          timed.service.position ≠ .sending pass entry message due) :
      inFlight timed.runtime = [] := by
    obtain idle | ⟨pass, entry, message, due, -, sending, -⟩ := sends
    · exact idle
    · exact (notSending pass entry message due sending).elim
  cases position : timed.service.position with
  | polling => exact (notPolling position).elim
  | stopped => exact (running.1 position).elim
  | panicked => exact (running.2 position).elim
  | delivering pass due =>
      have idle := idle (by simp [position])
      refine ⟨pass, ?_⟩
      have same : settled timed pass = timed := by
        simp only [settled, remaining, busy, upcoming, position,
          ServicePosition.unfired, List.flatMap_nil, List.append_nil,
          (returnSend_of_idle idle).2]
        rw [← position]
      simp [same, idle, allFindRoom_nil, busy, position]
  | scanning pass =>
      have idle := idle (by simp [position])
      refine ⟨pass, ?_⟩
      rw [delivers_scan position]
      simp [settled, remaining, busy, upcoming, position, idle,
        allFindRoom_nil, (returnSend_of_idle idle).2]
  | sending pass entry fired due =>
      have other := others entry (by simp [busy, position])
      refine ⟨pass, ?_⟩
      rw [delivers_sending position other (single_of_sendsFired sends)]
      simp [settled, remaining, busy, upcoming, position, finished,
        ServicePosition.unfired]
  | rearming pass entry interval due =>
      have idle := idle (by simp [position])
      have periodic := sound.position
      rw [position] at periodic
      refine ⟨pass, ?_⟩
      rw [delivers_rearming position periodic.2.1]
      simp [settled, remaining, busy, upcoming, position, finished,
        ServicePosition.unfired, idle, allFindRoom_nil,
        (returnSend_of_idle idle).2]

end Whole

section Timer

variable {limit mailboxCapacity now channel : Nat}
  {log : List (TimedEvent Value)} {timed : TimedRuntime Value State Frame}
  {entry : TimerEntry (AnyBox Value)}
  {message : AnyBox Value} {factory : MessageFactory (AnyBox Value)}

/-- Everything of the timer service that is under way is over. -/
theorem clear_iff
    {ahead : List (TimerEntry (AnyBox Value))}
    {nextPass : Bool}
    (single :
      inFlight timed.runtime = [] ∨
        ∃ waiting, inFlight timed.runtime = [waiting]) :
    Clear limit timed ahead nextPass channel ↔
      (timed.service.position ≠ .stopped ∧
          timed.service.position ≠ .panicked) ∧
        timed.runtime.writerWaits = false ∧
        AllFindRoom timed.runtime
          ((inFlight timed.runtime).map BlockedSend.channel) ∧
        AllFindRoom (released timed.runtime)
          (ahead.flatMap (channelOf (released timed.runtime)) ++ [channel]) ∧
        (∀ entry ∈ busy timed.service,
          PutsBack limit timed.service.poisoned entry) ∧
        (∀ entry ∈ ahead, PutsBack limit timed.service.poisoned entry) ∧
        (nextPass = true ∨ (∃ pass, timed.service.position = .scanning pass) →
          timed.service.poisoned = false) ∧
        (nextPass = true → timed.service.stop = false) := by
  have sends :=
    (released_spec (ahead.flatMap (channelOf timed.runtime) ++ [channel])
      single).2.2.2
  rw [channelOf_of_senders (released_spec [] single).1]
  constructor
  · intro clear
    have room := clear.room
    rw [List.append_assoc, sends] at room
    obtain ⟨busyBack, aheadBack⟩ := List.forall_mem_append.mp clear.putsBack
    exact ⟨clear.running, clear.unwaited, room.1, room.2, busyBack, aheadBack,
      clear.readable, clear.polls⟩
  · rintro ⟨running, unwaited, inside, room, busyBack, aheadBack, readable,
      polls⟩
    refine ⟨running, unwaited, ?_,
      List.forall_mem_append.mpr ⟨busyBack, aheadBack⟩, readable, polls⟩
    rw [List.append_assoc, sends]
    exact ⟨inside, room⟩

/-- The timer is in the pass the thread is in. -/
theorem delivers_current
    {ahead behind : List (TimerEntry (AnyBox Value))}
    (sound : Sound timed.service)
    (sends : SendsFired timed)
    (unwaited : timed.runtime.writerWaits = false)
    (upcomes : upcoming timed.service = ahead ++ entry :: behind)
    (others : ∀ other ∈ busy timed.service ++ ahead, other.id ≠ entry.id)
    (called : entry.factory.call? = some (message, factory))
    (registered : timed.runtime.senders.lookup entry.actorId = some channel)
    (alive : Alive timed.runtime channel) :
    Delivers limit entry.id channel message 1 timed ↔
      Clear limit timed ahead false channel := by
  have single := single_of_sendsFired sends
  obtain ⟨sameSenders, idle, stays, -⟩ := released_spec [] single
  obtain ⟨othersBusy, othersAhead⟩ := List.forall_mem_append.mp others
  have working :
      timed.service.position ≠ .stopped ∧
        timed.service.position ≠ .panicked ∧
        timed.service.position ≠ .polling := by
    refine ⟨?_, ?_, ?_⟩ <;> intro position <;>
      simp [upcoming, position, ServicePosition.unfired] at upcomes
  obtain ⟨notStopped, notPanicked, notPolling⟩ := working
  have fits : ∀ other ∈ ahead, Fits other.factory other.interval :=
    fun other member => fits_upcoming sound other (by simp [upcomes, member])
  obtain ⟨pass, comes⟩ :=
    delivers_settled limit entry.id channel 1 message sound sends othersBusy
      ⟨notStopped, notPanicked⟩ notPolling
  have fires :
      (settled timed pass).service.position =
        .delivering pass (ahead ++ entry :: behind) := by
    rw [← upcomes]
    rfl
  have stillRegistered :
      (settled timed pass).runtime.senders.lookup entry.actorId =
        some channel := by
    rw [← registered, ← sameSenders]
    rfl
  rw [comes, clear_iff single,
    delivers_behind fires fits othersAhead idle
      ((released_writerWaits timed.runtime).trans unwaited) called
      stillRegistered (stays channel alive)]
  constructor
  · rintro ⟨inside, busyBack, readable, room, aheadBack⟩
    exact ⟨⟨notStopped, notPanicked⟩, unwaited, inside, room, busyBack,
      aheadBack,
      fun scans => readable (scans.resolve_left Bool.false_ne_true),
      fun impossible => (Bool.false_ne_true impossible).elim⟩
  · rintro ⟨-, -, inside, room, busyBack, aheadBack, readable, -⟩
    exact ⟨inside, busyBack, fun scans => readable (.inr scans), room,
      aheadBack⟩

/-- The timer is in the list, and in the pass after the one the thread is
in. -/
theorem delivers_next
    {before behind : List (TimerEntry (AnyBox Value))}
    (sound : Sound timed.service)
    (sends : SendsFired timed)
    (unwaited : timed.runtime.writerWaits = false)
    (listed :
      (remaining timed.service).filter (isDue timed.service.now) =
        before ++ entry :: behind)
    (others :
      ∀ other ∈ busy timed.service ++ (upcoming timed.service ++ before),
        other.id ≠ entry.id)
    (called : entry.factory.call? = some (message, factory))
    (registered : timed.runtime.senders.lookup entry.actorId = some channel)
    (alive : Alive timed.runtime channel) :
    Delivers limit entry.id channel message 1 timed ↔
      Clear limit timed (upcoming timed.service ++ before) true channel := by
  have single := single_of_sendsFired sends
  obtain ⟨sameSenders, idle, stays, -⟩ := released_spec [] single
  obtain ⟨othersBusy, othersAhead⟩ := List.forall_mem_append.mp others
  obtain ⟨othersUpcoming, othersBefore⟩ :=
    List.forall_mem_append.mp othersAhead
  have fits : ∀ other ∈ before, Fits other.factory other.interval := by
    intro other member
    have due :
        other ∈ (remaining timed.service).filter (isDue timed.service.now) :=
      by simp [listed, member]
    exact fits_remaining sound other (List.mem_filter.mp due).1
  by_cases ended :
      timed.service.position = .stopped ∨ timed.service.position = .panicked
  · refine iff_of_false (not_delivers_of_ended ended) fun clear => ?_
    exact ended.elim clear.running.1 clear.running.2
  · have running := not_or.mp ended
    by_cases polling : timed.service.position = .polling
    · have nothing : inFlight timed.runtime = [] := by
        obtain nothing | ⟨pass, sent, fired, due, target, sending, -⟩ := sends
        · exact nothing
        · rw [polling] at sending
          cases sending
      have here :
          upcoming timed.service = [] ∧ busy timed.service = [] ∧
            remaining timed.service = timed.service.timers := by
        simp [upcoming, busy, remaining, polling, ServicePosition.unfired]
      obtain ⟨noneUpcoming, noneBusy, allRemain⟩ := here
      rw [allRemain] at listed
      rw [clear_iff single, noneUpcoming, noneBusy, nothing,
        (returnSend_of_idle nothing).2, List.nil_append,
        delivers_listed polling listed fits othersBefore nothing unwaited
          called registered alive]
      simp only [List.map_nil, allFindRoom_nil, polling, unwaited]
      simp
      tauto
    · obtain ⟨pass, comes⟩ :=
        delivers_settled limit entry.id channel 1 message sound sends
          othersBusy running polling
      obtain ⟨afterSenders, afterBlocked, afterAlive⟩ :=
        foldl_putTo (upcoming timed.service) (released timed.runtime)
      have fires :
          (settled timed pass).service.position =
            .delivering pass (upcoming timed.service ++ []) := by
        rw [List.append_nil]
        rfl
      have idleAfter :
          inFlight
              ((upcoming timed.service).foldl putTo
                (released timed.runtime)) = [] := by
        rw [inFlight, afterBlocked]
        exact idle
      have unwaitedAfter :
          ((upcoming timed.service).foldl putTo
              (released timed.runtime)).writerWaits = false := by
        simpa using unwaited
      have stillRegistered :
          ((upcoming timed.service).foldl putTo
                (released timed.runtime)).senders.lookup entry.actorId =
            some channel := by
        rw [afterSenders, sameSenders]
        exact registered
      have stillListed :
          (remaining timed.service ++ (busy timed.service).flatMap back ++
                (upcoming timed.service).flatMap back).filter
              (isDue timed.service.now) =
            before ++ entry ::
              (behind ++
                ((busy timed.service).flatMap back ++
                  (upcoming timed.service).flatMap back).filter
                    (isDue timed.service.now)) := by
        rw [List.append_assoc, List.filter_append, listed, List.append_assoc]
        rfl
      rw [comes, clear_iff single,
        delivers_batch fires (fits_upcoming sound) othersUpcoming idle
          ((released_writerWaits timed.runtime).trans unwaited),
        delivers_sleep rfl,
        delivers_listed rfl stillListed fits othersBefore idleAfter
          unwaitedAfter called stillRegistered
          (afterAlive channel (stays channel alive))]
      simp only [settled, worked, channelOf_of_senders afterSenders,
        List.flatMap_append, List.append_assoc,
        allFindRoom_batch (fits_upcoming sound), List.forall_mem_append]
      constructor
      · rintro ⟨inside, busyBack, -, firstRoom, firstBack, polls, readable,
          room, beforeBack⟩
        exact ⟨running, unwaited, inside, ⟨firstRoom, room⟩, busyBack,
          ⟨firstBack, beforeBack⟩, fun _ => readable, fun _ => polls⟩
      · rintro ⟨-, -, inside, ⟨firstRoom, room⟩, busyBack,
          ⟨firstBack, beforeBack⟩, readable, polls⟩
        exact ⟨inside, busyBack, fun _ => readable (.inl trivial), firstRoom,
          firstBack, polls trivial, readable (.inl trivial), room, beforeBack⟩

/--
The own steps of the thread deliver a due timer, in the current or the next
pass, exactly when nothing holds it up: each send before it finds room, and no
writer keeps the thread out of the senders.
-/
theorem timer_delivered_iff
    (run :
      Machine.Run (machine limit Value State Frame)
        (new Value State Frame mailboxCapacity now) log timed) :
    (∀ entry,
      Due timed.service entry →
      ∃ ahead nextPass, Ahead timed.service entry ahead nextPass) ∧
    (∀ entry ahead nextPass channel,
      Ahead timed.service entry ahead nextPass →
      timed.runtime.senders.lookup entry.actorId = some channel →
      Alive timed.runtime channel →
      ∃ message factory,
        entry.factory.call? = some (message, factory) ∧
          (Delivers limit entry.id channel message 1 timed ↔
            Clear limit timed ahead nextPass channel)) ∧
    ∀ pass entry message due waiting,
      timed.service.position = .sending pass entry message due →
      inFlight timed.runtime = [waiting] →
      Alive timed.runtime waiting.channel →
      (Delivers limit entry.id waiting.channel message 1 timed ↔
        RoomAfter timed.runtime [] waiting.channel) := by
  have sound := (run_account (run_service run) 0).1
  have sends := run_sendsFired run
  refine ⟨fun entry due => ahead_of_due due,
    fun entry ahead nextPass channel place registered alive => ?_,
    fun pass entry message due waiting position one alive => ?_⟩
  · have others := place.others (run_ids_nodup (run_service run))
    obtain ⟨message, factory, called, -⟩ := call?_of_fits (place.fits sound)
    refine ⟨message, factory, called, ?_⟩
    cases waits : timed.runtime.writerWaits with
    | true =>
        have othersBusy := (List.forall_mem_append.mp others).1
        refine iff_of_false (not_delivers_of_waited waits othersBusy)
          fun clear => ?_
        rw [clear.unwaited] at waits
        cases waits
    | false =>
        cases place with
        | current _ behind upcomes =>
            exact delivers_current sound sends waits upcomes others called
              registered alive
        | next before behind listed =>
            exact delivers_next sound sends waits listed others called
              registered alive
  · obtain ⟨cell, here, opened⟩ := alive
    obtain idle | ⟨_, _, _, _, channel, same, inside⟩ := sends
    · rw [idle] at one
      cases one
    · rw [position] at same
      obtain ⟨rfl, rfl, rfl, rfl⟩ := ServicePosition.sending.inj same
      obtain rfl := List.singleton_inj.mp (one.symm.trans inside)
      exact delivers_inside position rfl inside here opened

end Timer

/-- An actor that ignores its messages. -/
def quiet : Actor Nat Unit Unit where
  messageType := 0
  handle := fun _ _ => ()
  next := fun _ => .returns ()

/-- Two actors, and a timer for each, of which the first was set first. -/
def twoTimers : List (TimedLabel Nat Unit Unit) :=
  [.runtime (.spawn quiet ()), .runtime (.spawn quiet ()),
    .service (.newId (.serviceTimer 0 ⟨1⟩ ⟨0, 5⟩)), .service (.insert 0),
    .service (.newId (.serviceTimer 0 ⟨2⟩ ⟨0, 6⟩)), .service (.insert 0)]

/-- With both mailboxes empty, the second timer is delivered. -/
theorem timer_delivered_iff_twoTimers :
    ∃ timed log entry message,
      (machine 100 Nat Unit Unit).run? (new Nat Unit Unit 1 0) twoTimers =
          some (timed, log) ∧
        entry.actorId = ⟨2⟩ ∧
        Due timed.service entry ∧
        Delivers 100 entry.id 1 message 1 timed := by
  obtain ⟨timed, log, entry, first, executed, target, place, registered, alive,
      due, clear⟩ :
      ∃ timed log entry first,
        (machine 100 Nat Unit Unit).run? (new Nat Unit Unit 1 0) twoTimers =
            some (timed, log) ∧
          entry.actorId = ⟨2⟩ ∧
          Ahead timed.service entry [first] true ∧
          timed.runtime.senders.lookup entry.actorId = some 1 ∧
          Alive timed.runtime 1 ∧
          Due timed.service entry ∧
          Clear 100 timed [first] true 1 := by
    refine ⟨_, _, _, _, rfl, rfl, .next [_] [] rfl, rfl, ⟨_, rfl, rfl⟩,
      .inr ⟨.tail _ (.head _), rfl⟩, ⟨⟨nofun, nofun⟩, rfl, ?_, ?_, ?_, ?_⟩⟩
    · change AllFindRoom _ [0, 1]
      rw [allFindRoom_cons (.message ⟨0, 5⟩), allFindRoom_singleton,
        roomAfter_nil (.message ⟨0, 5⟩), roomAfter_nil (.message ⟨0, 6⟩)]
      exact ⟨nofun, nofun⟩
    · intro entry member interval periodic
      obtain rfl := List.mem_singleton.mp member
      cases periodic
    · exact fun _ => rfl
    · exact fun _ => rfl
  obtain ⟨message, factory, -, delivers⟩ :=
    (timer_delivered_iff (Machine.run?_sound _ executed)).2.1 entry [first]
      true 1 place registered alive
  exact ⟨timed, log, entry, message, executed, target, due, delivers.mpr clear⟩

/-- The mailbox of the first actor is full, and its timer fires first: the
second timer is not delivered, although there is room for it. -/
theorem timer_held_up :
    ∃ timed log entry,
      (machine 100 Nat Unit Unit).run? (new Nat Unit Unit 1 0)
          (twoTimers ++ [.runtime (.send ⟨1⟩ ⟨0, 1⟩), .own, .own, .own]) =
          some (timed, log) ∧
        timed.runtime.senders.lookup ⟨1⟩ = some 0 ∧
        ¬ RoomAfter timed.runtime [] 0 ∧
        entry.actorId = ⟨2⟩ ∧
        Due timed.service entry ∧
        timed.runtime.senders.lookup ⟨2⟩ = some 1 ∧
        Alive timed.runtime 1 ∧
        RoomAfter timed.runtime [] 1 ∧
        ∀ message passes,
          ¬ Delivers 100 entry.id 1 message passes timed := by
  refine ⟨_, _, _, rfl, rfl, ?_, rfl, .inl (.head _), rfl, ⟨_, rfl, rfl⟩, ?_,
    fun message passes => not_delivers_of_stuck rfl⟩
  · rw [roomAfter_nil (.message ⟨0, 5⟩)]
    exact fun room => room rfl
  · rw [roomAfter_nil (.message ⟨0, 6⟩)]
    exact nofun

end Runact.TimedRuntime
