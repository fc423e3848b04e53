import Runact.TimerLifecycle

namespace Runact.TimerService

/-!
# Cancelling a timer

`cancel` removes the entry from the shared list.  A periodic entry that the
service thread has extracted is not in the list at that moment, and comes back
after its delivery.  This module decides from the state in which `cancel` runs
whether the cancellation is permanent.
-/

universe u

variable {Message : Type u}

/-- How many entries of a list belong to one timer. -/
def entriesOf (id : Nat) (entries : List (TimerEntry Message)) : Nat :=
  entries.countP (·.id = id)

/-- How often a message of the timer was delivered. -/
def deliveries (id : Nat) (log : List Event) : Nat :=
  log.count (.delivered id)

/--
Cancelled for good: whatever happens next, the list never holds the timer
again, and at most the firing that is already extracted takes place.
-/
def Permanent
    (limit : Nat)
    (id : Nat)
    (cancelled : TimerService Message) : Prop :=
  ∀ {log later},
    Machine.Run (machine limit Message) cancelled log later →
    (∀ entry ∈ later.timers, entry.id ≠ id) ∧
      firings id log ≤ 1 ∧
      deliveries id log ≤ 1 ∧
      deliveries id log ≤ entriesOf id cancelled.position.undelivered

/--
The service thread is going to put an entry of the timer back: working through
the entries it holds, it reaches a periodic one of this timer before a deadline
overflows.
-/
def rearms
    (limit : Nat)
    (id : Nat) :
    List (TimerEntry Message) → Bool
  | [] => false
  | entry :: rest =>
      match entry.interval with
      | none => rearms limit id rest
      | some interval =>
          decide (entry.scheduledAt + interval ≤ limit) &&
            (decide (entry.id = id) || rearms limit id rest)

@[simp] theorem rearms_nil (limit id : Nat) :
    rearms limit id ([] : List (TimerEntry Message)) = false :=
  rfl

theorem rearms_cons_oneShot
    {limit id : Nat}
    {entry : TimerEntry Message}
    (oneShot : entry.interval = none)
    (rest : List (TimerEntry Message)) :
    rearms limit id (entry :: rest) = rearms limit id rest := by
  simp [rearms, oneShot]

theorem rearms_cons_periodic
    {limit id interval : Nat}
    {entry : TimerEntry Message}
    (periodic : entry.interval = some interval)
    (rest : List (TimerEntry Message)) :
    rearms limit id (entry :: rest) = true ↔
      entry.scheduledAt + interval ≤ limit ∧
        (entry.id = id ∨ rearms limit id rest = true) := by
  simp [rearms, periodic]

/-- A list without entries of the timer puts none back. -/
theorem rearms_of_absent
    {limit id : Nat}
    {entries : List (TimerEntry Message)}
    (absent : ∀ entry ∈ entries, entry.id ≠ id) :
    rearms limit id entries = false := by
  induction entries with
  | nil =>
      rfl
  | cons entry rest inductionHypothesis =>
      have restAbsent :=
        inductionHypothesis fun other member =>
          absent other (List.mem_cons_of_mem entry member)
      have different := absent entry List.mem_cons_self
      cases interval : entry.interval <;>
        simp [rearms, interval, restAbsent, different]

/-- The timer is neither listed, nor on its way back, nor still to come. -/
structure Gone
    (limit : Nat)
    (id : Nat)
    (service : TimerService Message) : Prop where
  sound : Sound service
  unlisted : ∀ entry ∈ service.timers, entry.id ≠ id
  notBack : rearms limit id service.position.held = false
  issued : ¬ Unissued service id

/-- Every step keeps a gone timer away. -/
theorem Gone.step
    {limit id : Nat}
    {service after : TimerService Message}
    {label : Label Message}
    {events : List Event}
    (gone : Gone limit id service)
    (step :
      (machine limit Message).step? service label = some (after, events)) :
    Gone limit id after := by
  have position := gone.sound.position
  have notBack := gone.notBack
  have sound := sound_step gone.sound step
  have issued : ¬ Unissued after id := fun unissued =>
    gone.issued (unissued_mono step unissued)
  suffices moved :
      (∀ entry ∈ after.timers, entry.id ≠ id) ∧
        rearms limit id after.position.held = false from
    ⟨sound, moved.1, moved.2, issued⟩
  cases outcome_of_step step with
  | inserted index other pushed claimed usable =>
      have different : other ≠ id := by
        rintro rfl
        exact gone.issued (inFlight_issues gone.sound claimed).1
      refine ⟨fun entry member => ?_, notBack⟩
      rcases List.mem_append.mp member with listed | inserted
      · exact gone.unlisted entry listed
      · obtain rfl := List.mem_singleton.mp inserted
        exact different
  | cancelled timerId usable =>
      exact ⟨fun entry member =>
        gone.unlisted entry (List.mem_of_mem_filter member), notBack⟩
  | scanned pass shape usable =>
      exact ⟨fun entry member =>
          gone.unlisted entry (List.mem_of_mem_filter member),
        rearms_of_absent fun entry member =>
          gone.unlisted entry (List.mem_of_mem_filter member)⟩
  | fired pass entry due message factory shape called =>
      refine ⟨gone.unlisted, ?_⟩
      rw [shape] at notBack
      change rearms limit id (entry :: due) = false at notBack
      cases interval : entry.interval with
      | none =>
          rw [rearms_cons_oneShot interval] at notBack
          simpa [ServicePosition.held, interval] using notBack
      | some period =>
          simpa [ServicePosition.held, interval, rearms] using notBack
  | sendReturned pass entry message due shape =>
      refine ⟨gone.unlisted, ?_⟩
      rw [shape] at notBack
      cases interval : entry.interval <;>
        simpa [ServicePosition.held, interval] using notBack
  | rearmed pass entry interval due shape usable fitting =>
      rw [shape] at position notBack
      obtain ⟨batch, periodic, fits⟩ := position
      change rearms limit id (entry :: due) = false at notBack
      have away := mt (rearms_cons_periodic periodic due).mpr
        (Bool.eq_false_iff.mp notBack)
      simp only [fitting, true_and, not_or, Bool.not_eq_true] at away
      refine ⟨fun other member => ?_, away.2⟩
      rcases List.mem_append.mp member with listed | rearmed
      · exact gone.unlisted other listed
      · obtain rfl := List.mem_singleton.mp rearmed
        exact away.1
  | clock | newId | insertPoisoned | insertOverflowed | cancelPoisoned
  | setStop => exact ⟨gone.unlisted, notBack⟩
  | _ => exact ⟨gone.unlisted, rfl⟩

@[simp] theorem entriesOf_nil (id : Nat) :
    entriesOf id ([] : List (TimerEntry Message)) = 0 :=
  rfl

@[simp] theorem entriesOf_cons
    (id : Nat)
    (entry : TimerEntry Message)
    (rest : List (TimerEntry Message)) :
    entriesOf id (entry :: rest) =
      entriesOf id rest + if entry.id = id then 1 else 0 := by
  simp [entriesOf, List.countP_cons]

/-- Every step fires and delivers only what is extracted. -/
theorem Gone.counts_step
    {limit id : Nat}
    {service after : TimerService Message}
    {label : Label Message}
    {events : List Event}
    (gone : Gone limit id service)
    (step :
      (machine limit Message).step? service label = some (after, events)) :
    firings id events + entriesOf id after.position.unfired ≤
        entriesOf id service.position.unfired ∧
      deliveries id events + entriesOf id after.position.undelivered ≤
        entriesOf id service.position.undelivered := by
  have noneDue
      (now : Nat) :
      entriesOf id (service.timers.filter (isDue now)) = 0 := by
    refine List.countP_eq_zero.mpr fun entry member => ?_
    simpa using gone.unlisted entry (List.mem_of_mem_filter member)
  cases outcome_of_step step with
  | scanned pass shape usable =>
      simp [ServicePosition.unfired, ServicePosition.undelivered,
        firings, deliveries, Event.fires, noneDue]
  | fired pass entry due message factory shape called =>
      rw [shape]
      simp [ServicePosition.unfired, ServicePosition.undelivered,
        firings, deliveries, Event.fires, List.countP_cons, Nat.add_comm]
  | sendReturned pass entry message due shape =>
      rw [shape]
      cases interval : entry.interval <;>
        simp [ServicePosition.unfired, ServicePosition.undelivered,
          firings, deliveries, Event.fires, List.count_cons, Nat.add_comm]
  | rearmed pass entry interval due shape usable fitting =>
      rw [shape]
      simp [ServicePosition.unfired, ServicePosition.undelivered,
        firings, deliveries, Event.fires]
  | _ =>
      simp [ServicePosition.unfired, ServicePosition.undelivered,
        firings, deliveries, Event.fires]

/-- From a gone timer on, what is extracted bounds firings and deliveries. -/
theorem Gone.run
    {limit id : Nat}
    {service later : TimerService Message}
    {log : List Event}
    (gone : Gone limit id service)
    (run : Machine.Run (machine limit Message) service log later) :
    Gone limit id later ∧
      firings id log + entriesOf id later.position.unfired ≤
        entriesOf id service.position.unfired ∧
      deliveries id log + entriesOf id later.position.undelivered ≤
        entriesOf id service.position.undelivered := by
  refine run.history
    (fun log later =>
      Gone limit id later ∧
        firings id log + entriesOf id later.position.unfired ≤
          entriesOf id service.position.unfired ∧
        deliveries id log + entriesOf id later.position.undelivered ≤
          entriesOf id service.position.undelivered)
    (fun {log before label after events} ⟨goneBefore, fewer⟩ step => ?_)
    ⟨gone, by simp [firings, deliveries]⟩
  have counts := goneBefore.counts_step step
  refine ⟨goneBefore.step step, ?_⟩
  simp only [firings, deliveries, List.countP_append, List.count_append]
    at fewer counts ⊢
  omega

/-- A one-shot entry whose message is being sent has used up its firing. -/
theorem run_sendingFired
    {limit now : Nat}
    {log : List Event}
    {service : TimerService Message}
    (run :
      Machine.Run (machine limit Message) (new Message now) log service) :
    ∀ {pass entry message due},
      service.position = .sending pass entry message due →
      entry.interval = none →
      0 < log.countP (Event.firesOnce entry.id) := by
  refine run.history
    (fun log service => ∀ {pass entry message due},
      service.position = .sending pass entry message due →
      entry.interval = none →
      0 < log.countP (Event.firesOnce entry.id))
    (fun {log before label after events} fired step => ?_)
    (by simp [new])
  intro pass entry message due shape oneShot
  rw [List.countP_append]
  have earlier
      (already : before.position = .sending pass entry message due) :
      0 < log.countP (Event.firesOnce entry.id) +
        events.countP (Event.firesOnce entry.id) :=
    Nat.add_pos_left (fired already oneShot) _
  cases outcome_of_step step with
  | fired pass sent due message factory delivering called =>
      obtain ⟨rfl, rfl, rfl, rfl⟩ := ServicePosition.sending.inj shape
      have once : sent.interval = none := oneShot
      simp [Event.firesOnce, once]
  | sendReturned pass sent message due sending =>
      dsimp only at shape
      split at shape <;> cases shape
  | clock | newId | insertPoisoned | insertOverflowed | inserted
  | cancelPoisoned | cancelled | setStop => exact earlier shape
  | _ => cases shape

/-- What the service thread still has to finish with is pending. -/
theorem entriesOf_held_le
    (id : Nat)
    (service : TimerService Message) :
    entriesOf id service.position.held ≤ pending id service := by
  have sameCount :
      entriesOf id service.position.held =
        (service.position.held.map TimerEntry.id).count id := by
    rw [entriesOf, List.count_eq_countP, List.countP_map]
    exact List.countP_congr (by simp)
  rw [sameCount, pending, List.map_append, List.count_append]
  exact Nat.le_add_left _ _

/-- Never are two firings of one timer extracted at the same time. -/
theorem run_undelivered_le_one
    {limit now : Nat}
    {log : List Event}
    {service : TimerService Message}
    (run :
      Machine.Run (machine limit Message) (new Message now) log service)
    (id : Nat) :
    entriesOf id service.position.undelivered ≤ 1 := by
  have account := (run_account run id).2
  have bounded := account.bounded
  have once := account.issuedOnce
  have pendingHeld := entriesOf_held_le id service
  cases shape : service.position with
  | delivering pass due =>
      rw [shape] at pendingHeld
      exact pendingHeld.trans (by omega)
  | sending pass entry message due =>
      rw [shape] at pendingHeld
      cases interval : entry.interval with
      | some period =>
          simp only [ServicePosition.held, interval] at pendingHeld
          exact pendingHeld.trans (by omega)
      | none =>
          have fired := run_sendingFired run shape interval
          simp only [ServicePosition.held, interval] at pendingHeld
          simp only [ServicePosition.undelivered, entriesOf_cons]
          by_cases same : entry.id = id
          · subst id
            simp at pendingHeld ⊢
            omega
          · simp [same] at pendingHeld ⊢
            omega
  | rearming pass entry interval due =>
      rw [shape] at pendingHeld
      simp only [ServicePosition.held, entriesOf_cons] at pendingHeld
      simp only [ServicePosition.undelivered]
      omega
  | _ =>
      simp [ServicePosition.undelivered]

/-- At most what is undelivered is unfired. -/
theorem entriesOf_unfired_le
    (id : Nat)
    (position : ServicePosition Message) :
    entriesOf id position.unfired ≤ entriesOf id position.undelivered := by
  cases position <;>
    simp [ServicePosition.unfired, ServicePosition.undelivered]

/-- The timer can get back into the list. -/
def ComesBack
    (limit : Nat)
    (id : Nat)
    (service : TimerService Message) : Prop :=
  ∃ log later,
    Machine.Run (machine limit Message) service log later ∧
      ∃ entry ∈ later.timers, entry.id = id

theorem ComesBack.cons
    {limit id : Nat}
    {service after : TimerService Message}
    {label : Label Message}
    {events : List Event}
    (step :
      (machine limit Message).step? service label = some (after, events))
    (back : ComesBack limit id after) :
    ComesBack limit id service := by
  obtain ⟨log, later, run, listed⟩ := back
  exact ⟨events ++ log, later, run.cons label step, listed⟩

/-- About to put a periodic entry back: this one, or a later one, returns. -/
theorem comesBack_rearming
    {limit id pass interval : Nat}
    {service : TimerService Message}
    {entry : TimerEntry Message}
    {due : List (TimerEntry Message)}
    (usable : service.poisoned = false)
    (shape : service.position = .rearming pass entry interval due)
    (fits : entry.scheduledAt + interval ≤ limit)
    (back :
      entry.id = id ∨
        ∀ {after : TimerService Message},
          after.poisoned = false →
          after.position = .delivering pass due →
          ComesBack limit id after) :
    ComesBack limit id service := by
  have step :
      (machine limit Message).step? service .service =
        some ({ service with
            timers := service.timers ++
              [{ entry with
                scheduledAt := entry.scheduledAt + interval
                interval := some interval }]
            position := .delivering pass due },
          [.rearmed entry.id (entry.scheduledAt + interval)]) := by
    simp [machine, serviceStep?, shape, usable, addDuration, fits]
  rcases back with same | rest
  · exact ⟨_, _, Machine.Run.single .service step, _,
      List.mem_append_right _ (List.mem_singleton_self _), same⟩
  · exact .cons step (rest usable rfl)

/-- Inside a send: the entry, or a later one of the batch, returns. -/
theorem comesBack_sending
    {limit id pass : Nat}
    {service : TimerService Message}
    {entry : TimerEntry Message}
    {message : Message}
    {due : List (TimerEntry Message)}
    (usable : service.poisoned = false)
    (shape : service.position = .sending pass entry message due)
    (returning : rearms limit id (entry :: due) = true)
    (rest :
      rearms limit id due = true →
        ∀ {after : TimerService Message},
          after.poisoned = false →
          after.position = .delivering pass due →
          ComesBack limit id after) :
    ComesBack limit id service := by
  cases periodic : entry.interval with
  | none =>
      have step :
          (machine limit Message).step? service .sendReturns =
            some ({ service with position := .delivering pass due },
              [.delivered entry.id]) := by
        simp [machine, shape, periodic]
      rw [rearms_cons_oneShot periodic] at returning
      exact .cons step (rest returning usable rfl)
  | some interval =>
      have step :
          (machine limit Message).step? service .sendReturns =
            some ({ service with
                position := .rearming pass entry interval due },
              [.delivered entry.id]) := by
        simp [machine, shape, periodic]
      obtain ⟨fits, back⟩ := (rearms_cons_periodic periodic due).mp returning
      exact .cons step
        (comesBack_rearming usable rfl fits
          (back.imp_right fun later => rest later))

/-- Working through a batch with a returning entry puts the timer back. -/
theorem comesBack_delivering
    {limit id pass : Nat}
    {due : List (TimerEntry Message)}
    (fitting : ∀ entry ∈ due, Fits entry.factory entry.interval)
    (returning : rearms limit id due = true)
    {service : TimerService Message}
    (usable : service.poisoned = false)
    (shape : service.position = .delivering pass due) :
    ComesBack limit id service := by
  induction due generalizing service with
  | nil =>
      simp at returning
  | cons entry rest inductionHypothesis =>
      obtain ⟨message, factory, called, kept⟩ :=
        call?_of_fits (fitting entry List.mem_cons_self)
      have step :
          (machine limit Message).step? service .service =
            some ({ service with
                position :=
                  .sending pass { entry with factory := factory }
                    message rest },
              [.fired entry.id entry.scheduledAt entry.interval pass
                service.now]) := by
        simp [machine, serviceStep?, shape, called]
      have sameAnswer :
          rearms limit id ({ entry with factory := factory } :: rest) =
            rearms limit id (entry :: rest) := rfl
      refine .cons step (comesBack_sending usable rfl
        (sameAnswer.trans returning) fun later {after} usableAfter at' => ?_)
      exact inductionHypothesis
        (fun other member => fitting other (List.mem_cons_of_mem entry member))
        later usableAfter at'

/-- A timer the service thread is going to put back comes back. -/
theorem comesBack_of_rearms
    {limit id : Nat}
    {service : TimerService Message}
    (sound : Sound service)
    (usable : service.poisoned = false)
    (returning : rearms limit id service.position.held = true) :
    ComesBack limit id service := by
  have position := sound.position
  cases shape : service.position with
  | delivering pass due =>
      rw [shape] at position returning
      exact comesBack_delivering (fun entry member =>
        (position.2 entry member).1) returning usable shape
  | sending pass entry message due =>
      rw [shape] at position returning
      refine comesBack_sending usable shape ?_
        fun later {after} usableAfter at' =>
          comesBack_delivering (fun other member =>
            (position.1.2 other member).1) later usableAfter at'
      cases interval : entry.interval with
      | none =>
          rw [rearms_cons_oneShot interval]
          simpa [ServicePosition.held, interval] using returning
      | some period =>
          simpa [ServicePosition.held, interval] using returning
  | rearming pass entry interval due =>
      rw [shape] at position returning
      obtain ⟨batch, periodic, fits⟩ := position
      obtain ⟨fitting, back⟩ := (rearms_cons_periodic periodic due).mp returning
      exact comesBack_rearming usable shape fitting
        (back.imp_right fun later {after} usableAfter at' =>
          comesBack_delivering (fun other member =>
            (batch.2 other member).1) later usableAfter at')
  | _ =>
      rw [shape] at returning
      simp [ServicePosition.held] at returning

/-- A timer that was scheduled is no longer to come. -/
theorem run_issued
    {limit now id deadline : Nat}
    {interval : Option Nat}
    {log : List Event}
    {service : TimerService Message}
    (run :
      Machine.Run (machine limit Message) (new Message now) log service)
    (scheduled : .scheduled id deadline interval ∈ log) :
    ¬ Unissued service id := by
  intro unissued
  have account := (run_account run id).2
  have once := account.schedules_eq_one scheduled
  have never := account.unissued unissued
  omega

/--
A cancellation is permanent exactly when the service thread does not hold an
entry of the timer that it is going to put back.
-/
theorem cancel_permanent_iff
    {limit now id deadline : Nat}
    {interval : Option Nat}
    {log : List Event}
    {service cancelled : TimerService Message}
    (run :
      Machine.Run (machine limit Message) (new Message now) log service)
    (scheduled : .scheduled id deadline interval ∈ log)
    (cancel :
      (machine limit Message).step? service (.cancel id) =
        some (cancelled, [.cancelled id])) :
    Permanent limit id cancelled ↔
      rearms limit id service.position.held = false := by
  have sound := (run_account run id).1
  have soundAfter := sound_step sound cancel
  have issued : ¬ Unissued cancelled id := fun unissued =>
    run_issued run scheduled (unissued_mono cancel unissued)
  have atMostOne :
      entriesOf id cancelled.position.undelivered ≤ 1 :=
    run_undelivered_le_one (.snoc (.cancel id) run cancel) id
  simp only [machine] at cancel
  split at cancel
  · simp at cancel
  · rename_i usable
    simp only [Option.some.injEq, Prod.mk.injEq, and_true] at cancel
    obtain rfl := cancel
    constructor
    · intro permanent
      by_contra returning
      obtain ⟨later, final, laterRun, entry, member, same⟩ :=
        comesBack_of_rearms soundAfter (Bool.eq_false_iff.mpr usable)
          (Bool.eq_true_of_not_eq_false returning)
      exact (permanent laterRun).1 entry member same
    · intro notBack later final laterRun
      have gone :
          Gone limit id
            { service with timers := retain id service.timers } := {
        sound := soundAfter
        unlisted := fun entry member => by
          simpa using (List.mem_filter.mp member).2
        notBack := notBack
        issued := issued
      }
      obtain ⟨goneLater, fewerFirings, fewerDeliveries⟩ := gone.run laterRun
      have unfired := entriesOf_unfired_le id service.position
      dsimp only at atMostOne fewerFirings fewerDeliveries
      have bounded :
          deliveries id later ≤
            entriesOf id service.position.undelivered := by
        omega
      exact ⟨goneLater.unlisted, by omega, by omega, bounded⟩

/-- A periodic timer is cancelled while its entry is in the list. -/
def cancelledWhileListed : List (Label String) :=
  [.newId (.handleInterval 5 ⟨1⟩ "tick"), .insert 0, .clock 10]

theorem cancel_permanent_iff_listed :
    ∃ service cancelled,
      (machine 1000 String).run? (new String 0) cancelledWhileListed =
          some (service, [.scheduled 0 5 (some 5)]) ∧
        service.timers.map TimerEntry.id = [0] ∧
        (machine 1000 String).step? service (.cancel 0) =
          some (cancelled, [.cancelled 0]) ∧
        (Permanent 1000 0 cancelled ↔
          rearms 1000 0 service.position.held = false) ∧
        rearms 1000 0 service.position.held = false := by
  obtain ⟨service, cancelled, executed, listed, cancel, notBack⟩ :
      ∃ service cancelled,
        (machine 1000 String).run? (new String 0) cancelledWhileListed =
            some (service, [.scheduled 0 5 (some 5)]) ∧
          service.timers.map TimerEntry.id = [0] ∧
          (machine 1000 String).step? service (.cancel 0) =
            some (cancelled, [.cancelled 0]) ∧
          rearms 1000 0 service.position.held = false :=
    ⟨_, _, rfl, rfl, rfl, rfl⟩
  exact ⟨service, cancelled, executed, listed, cancel,
    cancel_permanent_iff (Machine.run?_sound _ executed)
      (List.mem_singleton_self _) cancel,
    notBack⟩

/-- A periodic timer is extracted, and the service thread is about to fire it. -/
def extractedTick : List (Label String) :=
  [.newId (.handleInterval 5 ⟨1⟩ "tick"), .insert 0, .clock 10,
    .service, .service]

/-- The pass goes on after the cancellation, and so does the next one. -/
def afterCancel : List (Label String) :=
  [.service, .sendReturns, .service, .service, .service, .service,
    .service, .sendReturns]

/--
The cancellation returns; afterwards the timer is put back into the list, and
fires and delivers a second time.
-/
theorem cancel_not_permanent :
    ∃ service cancelled later,
      (machine 1000 String).run? (new String 0) extractedTick =
          some (service, [.scheduled 0 5 (some 5), .extracted [0]]) ∧
        (machine 1000 String).step? service (.cancel 0) =
          some (cancelled, [.cancelled 0]) ∧
        (machine 1000 String).run? cancelled afterCancel =
          some (later,
            [.fired 0 5 (some 5) 10 10, .delivered 0, .rearmed 0 10,
              .extracted [0], .fired 0 10 (some 5) 10 10, .delivered 0]) ∧
        ¬ Permanent 1000 0 cancelled := by
  obtain ⟨service, cancelled, later, executed, cancel, continued⟩ :
      ∃ service cancelled later,
        (machine 1000 String).run? (new String 0) extractedTick =
            some (service, [.scheduled 0 5 (some 5), .extracted [0]]) ∧
          (machine 1000 String).step? service (.cancel 0) =
            some (cancelled, [.cancelled 0]) ∧
          (machine 1000 String).run? cancelled afterCancel =
            some (later,
              [.fired 0 5 (some 5) 10 10, .delivered 0, .rearmed 0 10,
                .extracted [0], .fired 0 10 (some 5) 10 10,
                .delivered 0]) :=
    ⟨_, _, _, rfl, rfl, rfl⟩
  refine ⟨service, cancelled, later, executed, cancel, continued, ?_⟩
  intro permanent
  have fewer := (permanent (Machine.run?_sound _ continued)).2.1
  simp [firings, Event.fires] at fewer

end Runact.TimerService
