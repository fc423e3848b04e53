import Runact.PeriodicTimers
import Runact.Progress
import Runact.SendTo
import Runact.TimerDelivery

namespace Runact.TimerService

/-!
# One pass of the timer service

A pass first scans the list by index, removing what is due, and then works
through what it has removed.  The scan is seen here one iteration at a time.  In
the delivery loop it is the batch that is worked through: what is put back goes
into the list, so an entry that is due again at once waits for the next pass.
The loop waits at every send, and ends where all of them return.
-/

universe u

variable {Message : Type u}

/-! ## The scan -/

/-- The variables of the extraction loop. -/
structure ScanState (Message : Type u) where
  timers : List (TimerEntry Message)
  i : Nat
  dueTimers : List (TimerEntry Message)

/-- At the head of the loop, before the first iteration. -/
def ScanState.start
    (timers : List (TimerEntry Message)) : ScanState Message where
  timers := timers
  i := 0
  dueTimers := []

/-- One iteration of `while i < timers.len()`, which shows the entry it looks
at; the loop ends where there is none. -/
def scanMachine
    (now : Nat) (Message : Type u) :
    Machine (ScanState Message) Unit (TimerEntry Message) where
  step? state _ :=
    match state.timers[state.i]? with
    | none => none
    | some timer =>
        if now ≥ timer.scheduledAt then
          some ({ state with
              timers := state.timers.eraseIdx state.i
              dueTimers := state.dueTimers ++ [timer] }, [timer])
        else
          some ({ state with i := state.i + 1 }, [timer])

/-- The entries of a list that a pass leaves in it. -/
def notDue
    (now : Nat)
    (timers : List (TimerEntry Message)) : List (TimerEntry Message) :=
  timers.filter fun entry => !isDue now entry

/-- The entries were looked at and the others are still to come: those that are
due are removed, and the index stands behind those that are not. -/
structure Scanned
    (now : Nat)
    (timers visited rest : List (TimerEntry Message))
    (state : ScanState Message) : Prop where
  split : timers = visited ++ rest
  left : state.timers = notDue now visited ++ rest
  index : state.i = (notDue now visited).length
  taken : state.dueTimers = visited.filter (isDue now)

namespace Scanned

variable {now : Nat} {timers visited rest : List (TimerEntry Message)}
  {state : ScanState Message}

/-- The next iteration looks at the first entry that is still to come. -/
theorem next
    (scanned : Scanned now timers visited rest state) :
    state.timers[state.i]? = rest.head? := by
  rw [scanned.left, scanned.index, List.getElem?_append_right le_rfl,
    Nat.sub_self, List.head?_eq_getElem?]

/-- An iteration moves on by one entry, in either branch. -/
theorem step
    {entry : TimerEntry Message}
    (scanned : Scanned now timers visited (entry :: rest) state) :
    ∃ after,
      (scanMachine now Message).step? state () = some (after, [entry]) ∧
        Scanned now timers (visited ++ [entry]) rest after := by
  have found : state.timers[state.i]? = some entry := scanned.next
  have split : timers = visited ++ [entry] ++ rest := by
    rw [List.append_assoc]
    exact scanned.split
  by_cases due : entry.scheduledAt ≤ now
  · have isIn : isDue now entry = true := by simpa [isDue] using due
    refine ⟨{ state with
        timers := state.timers.eraseIdx state.i
        dueTimers := state.dueTimers ++ [entry] },
      by simp [scanMachine, found, due], ?_⟩
    have sameLeft : notDue now (visited ++ [entry]) = notDue now visited := by
      simp [notDue, isIn]
    constructor
    · exact split
    · rw [sameLeft, scanned.left, scanned.index,
        List.eraseIdx_append_of_length_le le_rfl, Nat.sub_self]
      rfl
    · rw [sameLeft]
      exact scanned.index
    · simp [scanned.taken, isIn]
  · have isOut : isDue now entry = false := by simpa [isDue] using due
    refine ⟨{ state with i := state.i + 1 },
      by simp [scanMachine, found, due], ?_⟩
    have oneMore :
        notDue now (visited ++ [entry]) = notDue now visited ++ [entry] := by
      simp [notDue, isOut]
    constructor
    · exact split
    · rw [oneMore, List.append_assoc]
      exact scanned.left
    · rw [oneMore, List.length_append, List.length_singleton,
        scanned.index]
    · simp [scanned.taken, isOut]

/-- Where nothing is still to come, the loop has ended. -/
theorem stuck_iff
    (scanned : Scanned now timers visited rest state) :
    (scanMachine now Message).step? state () = none ↔ rest = [] := by
  cases rest with
  | nil =>
      have found : state.timers[state.i]? = none := scanned.next
      simp [scanMachine, found]
  | cons entry rest =>
      obtain ⟨after, step, -⟩ := scanned.step
      simp [step]

end Scanned

/-- Over every run of the loop, what was looked at is an initial part of the
list. -/
theorem run_scanned
    {now : Nat}
    {timers visited : List (TimerEntry Message)}
    {state : ScanState Message}
    (run :
      Machine.Run (scanMachine now Message) (.start timers) visited state) :
    ∃ rest, Scanned now timers visited rest state := by
  induction run with
  | nil => exact ⟨timers, rfl, rfl, rfl, rfl⟩
  | snoc label earlier last inductionHypothesis =>
      obtain ⟨rest, scanned⟩ := inductionHypothesis
      cases rest with
      | nil =>
          rw [scanned.stuck_iff.mpr rfl] at last
          cases last
      | cons entry rest =>
          obtain ⟨after, step, next⟩ := scanned.step
          obtain ⟨rfl, rfl⟩ :=
            Prod.mk.inj (Option.some.inj (last.symm.trans step))
          exact ⟨rest, next⟩

/-- The loop goes through all that is still to come. -/
theorem scanned_finish
    {now : Nat}
    {timers visited rest : List (TimerEntry Message)}
    {state : ScanState Message}
    (scanned : Scanned now timers visited rest state) :
    ∃ final,
      Machine.Run (scanMachine now Message) state rest final ∧
        Scanned now timers timers [] final := by
  induction rest generalizing visited state with
  | nil =>
      have all : timers = visited := by simpa using scanned.split
      subst all
      exact ⟨state, .nil, scanned⟩
  | cons entry rest inductionHypothesis =>
      obtain ⟨after, step, next⟩ := scanned.step
      obtain ⟨final, run, done⟩ := inductionHypothesis next
      exact ⟨final, .cons () step run, done⟩

/-- The scan of a list ends, after one look at each entry, and splits the list
into what is due and what is not. -/
structure ScanRight
    (now : Nat)
    (timers : List (TimerEntry Message)) : Prop where
  /-- At any time, an initial part of the list has been looked at. -/
  inOrder :
    ∀ visited state,
      Machine.Run (scanMachine now Message) (.start timers) visited state →
      visited <+: timers
  ends :
    ∃ state,
      Machine.Run (scanMachine now Message) (.start timers) timers state
  /-- It ends nowhere else, and leaves and takes what it should. -/
  result :
    ∀ visited state,
      Machine.Run (scanMachine now Message) (.start timers) visited state →
      ((scanMachine now Message).step? state () = none ↔ visited = timers) ∧
        (visited = timers →
          state.timers = notDue now timers ∧
            state.dueTimers = timers.filter (isDue now) ∧
            scan now timers = (state.timers, state.dueTimers))

theorem scan_right
    (now : Nat)
    (timers : List (TimerEntry Message)) :
    ScanRight now timers := by
  constructor
  · intro visited state run
    obtain ⟨rest, scanned⟩ := run_scanned run
    exact ⟨rest, scanned.split.symm⟩
  · obtain ⟨final, run, -⟩ :=
      scanned_finish (show
        Scanned now timers [] timers (.start timers) from ⟨rfl, rfl, rfl, rfl⟩)
    exact ⟨final, run⟩
  · intro visited state run
    obtain ⟨rest, scanned⟩ := run_scanned run
    have ended : rest = [] ↔ visited = timers := by
      rw [scanned.split]
      simp
    refine ⟨scanned.stuck_iff.trans ended, ?_⟩
    rintro rfl
    obtain rfl := ended.mpr rfl
    have left : state.timers = notDue now visited := by
      simpa using scanned.left
    exact ⟨left, scanned.taken, by rw [scan_eq, left, scanned.taken]; rfl⟩

/-! ## The delivery loop -/

/-- The steps of the service thread, the returns of its sends among them. -/
def isOwn : Label Message → Bool
  | .service => true
  | .sendReturns => true
  | _ => false

/-- The service thread alone, with sends that return. -/
def ownMachine
    (limit : Nat) (Message : Type u) :
    Machine (TimerService Message) (Label Message) Event :=
  (machine limit Message).restrict fun _ label => isOwn label

/-- The timer an event fires. -/
def firedId? : Event → Option Nat
  | .fired id _ _ _ _ => some id
  | _ => none

/-- The fired timers, in order. -/
def firedIds (log : List Event) : List Nat :=
  log.filterMap firedId?

/-- What is put back of a periodic entry. -/
def rearmed? (entry : TimerEntry Message) : Option (TimerEntry Message) :=
  entry.interval.map fun interval =>
    { entry with scheduledAt := entry.scheduledAt + interval }

/-- What the thread is going to put back. -/
def comingBack
    (position : ServicePosition Message) : List (TimerEntry Message) :=
  position.held.filterMap rearmed?

/-- At most so many steps of the thread are left until it extracts again. -/
def stepsLeft : ServicePosition Message → Nat
  | .polling => 2
  | .scanning _ => 1
  | .delivering _ due => 3 * due.length + 3
  | .sending _ _ _ due => 3 * due.length + 5
  | .rearming _ _ _ due => 3 * due.length + 4
  | .stopped => 0
  | .panicked => 0

/-- The deadlines of the periodic entries can be moved on. -/
def Rearmable
    (limit : Nat)
    (entries : List (TimerEntry Message)) : Prop :=
  ∀ entry ∈ entries, ∀ interval,
    entry.interval = some interval → entry.scheduledAt + interval ≤ limit

/-- An own step that extracts nothing leaves fewer steps. -/
theorem stepsLeft_own
    {limit : Nat}
    {service after : TimerService Message}
    {events : List Event}
    (unscanned : passes events = 0)
    (step : serviceStep? limit service = some (after, events)) :
    stepsLeft after.position < stepsLeft service.position := by
  cases position : service.position with
  | polling =>
      simp only [serviceStep?, position] at step
      split at step <;>
        obtain ⟨rfl, -⟩ := Prod.mk.inj (Option.some.inj step) <;>
        simp [stepsLeft]
  | scanning pass =>
      simp only [serviceStep?, position] at step
      split at step <;>
        obtain ⟨rfl, rfl⟩ := Prod.mk.inj (Option.some.inj step)
      · simp [stepsLeft]
      · simp [passes] at unscanned
  | delivering pass due =>
      cases due with
      | nil =>
          simp only [serviceStep?, position] at step
          obtain ⟨rfl, -⟩ := Prod.mk.inj (Option.some.inj step)
          simp [stepsLeft]
      | cons entry due =>
          simp only [serviceStep?, position] at step
          split at step <;>
            obtain ⟨rfl, -⟩ := Prod.mk.inj (Option.some.inj step)
          · simp [stepsLeft]
          · simp only [stepsLeft, List.length_cons]
            omega
  | rearming pass entry interval due =>
      simp only [serviceStep?, position] at step
      split at step
      · obtain ⟨rfl, -⟩ := Prod.mk.inj (Option.some.inj step)
        simp [stepsLeft]
      · split at step <;>
          obtain ⟨rfl, -⟩ := Prod.mk.inj (Option.some.inj step) <;>
          simp [stepsLeft]
  | _ =>
      simp [serviceStep?, position] at step

/-- The others leave the thread where it is. -/
theorem position_of_other
    {limit : Nat}
    {service after : TimerService Message}
    {label : Label Message}
    {events : List Event}
    (other : isOwn label = false)
    (step :
      (machine limit Message).step? service label = some (after, events)) :
    after.position = service.position := by
  cases label with
  | service | sendReturns => cases other
  | insert index =>
      simp only [machine, insertStep] at step
      grind
  | _ =>
      simp only [machine] at step
      grind

/-- Until the next extraction, every own step leaves fewer steps, and the others
leave as many. -/
theorem stepsLeft_step
    {limit : Nat}
    {service after : TimerService Message}
    {label : Label Message}
    {events : List Event}
    (unscanned : passes events = 0)
    (step :
      (machine limit Message).step? service label = some (after, events)) :
    (if isOwn label then 1 else 0) + stepsLeft after.position ≤
      stepsLeft service.position := by
  by_cases own : isOwn label = true
  · have fewer : stepsLeft after.position < stepsLeft service.position := by
      cases label with
      | service => exact stepsLeft_own unscanned step
      | sendReturns =>
          simp only [machine] at step
          split at step
          · rename_i pass entry message due sending
            obtain ⟨rfl, -⟩ := Prod.mk.inj (Option.some.inj step)
            rw [sending]
            cases entry.interval <;> simp [stepsLeft]
          · cases step
      | _ => cases own
    rw [if_pos own]
    omega
  · rw [if_neg own, position_of_other (by simpa using own) step, Nat.zero_add]

/-- Over every run without another extraction, whoever else is at work, the
thread takes no more steps than were left. -/
theorem trace_stepsLeft
    {limit : Nat}
    {service after : TimerService Message}
    {steps : List (TimerService Message × Label Message)}
    {log : List Event}
    (trace : Machine.Trace (machine limit Message) service steps log after)
    (unscanned : passes log = 0) :
    (steps.countP fun step => isOwn step.2) + stepsLeft after.position ≤
      stepsLeft service.position := by
  induction trace with
  | nil => simp
  | snoc label earlier last inductionHypothesis =>
      rw [passes, List.countP_append, Nat.add_eq_zero_iff] at unscanned
      have before := inductionHypothesis unscanned.1
      have moved := stepsLeft_step unscanned.2 last
      rw [List.countP_append, List.countP_singleton]
      dsimp only
      omega

/-- Over every run without another extraction, whoever else is at work, the
thread fires its batch, one entry after the other. -/
theorem run_firedIds
    {limit pass : Nat}
    {due : List (TimerEntry Message)}
    {service after : TimerService Message}
    {log : List Event}
    (delivering : service.position = .delivering pass due)
    (run : Machine.Run (machine limit Message) service log after)
    (unscanned : passes log = 0) :
    firedIds log <+: due.map TimerEntry.id ∧
      (after.position ≠ .panicked →
        firedIds log ++ after.position.unfired.map TimerEntry.id =
          due.map TimerEntry.id) := by
  induction run with
  | nil => simp [firedIds, delivering, ServicePosition.unfired]
  | @snoc log events middle after label earlier last inductionHypothesis =>
      rw [passes, List.countP_append, Nat.add_eq_zero_iff] at unscanned
      obtain ⟨initial, batch⟩ := inductionHypothesis unscanned.1
      have appended :
          firedIds (log ++ events) = firedIds log ++ firedIds events :=
        List.filterMap_append
      have quiet (silent : firedIds events = []) :
          firedIds (log ++ events) = firedIds log := by
        rw [appended, silent, List.append_nil]
      cases outcome_of_step last with
      | scanned pass position usable => simp at unscanned
      | fired pass entry rest message factory position called =>
          have whole := batch (by simp [position])
          rw [position] at whole
          have one :
              firedIds
                  [.fired entry.id entry.scheduledAt entry.interval pass
                    middle.now] =
                [entry.id] :=
            rfl
          rw [appended, one, ← whole]
          simp [ServicePosition.unfired]
      | stopped position | polled position | passOver pass position
      | rearmed pass entry interval rest position =>
          have whole := batch (by simp [position])
          rw [position] at whole
          rw [quiet rfl]
          exact ⟨initial, fun _ => whole⟩
      | sendReturned pass entry message rest position =>
          have whole := batch (by simp [position])
          rw [position] at whole
          rw [quiet rfl]
          refine ⟨initial, fun _ => ?_⟩
          cases entry.interval <;> exact whole
      | scanPoisoned | firedTwice | rearmPoisoned | rearmOverflowed =>
          rw [quiet rfl]
          exact ⟨initial, fun alive => absurd rfl alive⟩
      | _ =>
          rw [quiet rfl]
          exact ⟨initial, batch⟩

/-- The thread is in its delivery loop. -/
def inLoop : ServicePosition Message → Bool
  | .delivering _ _ => true
  | .sending _ _ _ _ => true
  | .rearming _ _ _ _ => true
  | _ => false

/-- The thread is about to put an entry back, into a list that is poisoned or
with a deadline that cannot be represented. -/
def PutBackPanics
    (limit : Nat)
    (service : TimerService Message) : Prop :=
  ∃ pass entry interval due,
    service.position = .rearming pass entry interval due ∧
      (service.poisoned = true ∨ limit < entry.scheduledAt + interval)

/-- Nobody extracts while the thread is in its loop, and it leaves the loop for
the next pass or by a panic of putting back. -/
theorem step_inLoop
    {limit : Nat}
    {service after : TimerService Message}
    {label : Label Message}
    {events : List Event}
    (sound : Sound service)
    (inside : inLoop service.position = true)
    (step :
      (machine limit Message).step? service label = some (after, events)) :
    passes events = 0 ∧
      (inLoop after.position = true ∨ after.position = .polling ∨
        after.position = .panicked ∧ PutBackPanics limit service) := by
  cases outcome_of_step step with
  | scanned pass position usable =>
      rw [position] at inside
      cases inside
  | sendReturned pass entry message due position =>
      cases entry.interval <;> simp [passes, inLoop]
  | firedTwice pass entry due position used =>
      have known := sound.position
      rw [position] at known
      obtain ⟨message, factory, called, -⟩ :=
        call?_of_fits (known.2 entry List.mem_cons_self).1
      simp [used] at called
  | rearmPoisoned pass entry interval due position poisoned =>
      exact ⟨rfl, .inr (.inr
        ⟨rfl, pass, entry, interval, due, position, .inl poisoned⟩)⟩
  | rearmOverflowed pass entry interval due position usable overflows =>
      exact ⟨rfl, .inr (.inr
        ⟨rfl, pass, entry, interval, due, position, .inr overflows⟩)⟩
  | _ => simp_all [passes, inLoop]

/-- The thread has its batch to put back, and nothing stands in its way. -/
structure Settles
    (limit : Nat)
    (total : List (TimerEntry Message))
    (service : TimerService Message) : Prop where
  sound : Sound service
  usable : service.poisoned = false
  fits : Rearmable limit service.position.held
  going : service.position ≠ .panicked
  total : service.timers ++ comingBack service.position = total

theorem comingBack_delivering
    (pass : Nat)
    (due : List (TimerEntry Message)) :
    comingBack (.delivering pass due) = due.filterMap rearmed? :=
  rfl

theorem comingBack_cons
    (pass : Nat)
    (entry : TimerEntry Message)
    (due : List (TimerEntry Message)) :
    comingBack (.delivering pass (entry :: due)) =
      (rearmed? entry).toList ++ due.filterMap rearmed? := by
  rw [comingBack_delivering, List.filterMap_cons]
  cases rearmed? entry <;> rfl

theorem comingBack_sending
    (pass : Nat)
    (entry : TimerEntry Message)
    (message : Message)
    (due : List (TimerEntry Message)) :
    comingBack (.sending pass entry message due) =
      (rearmed? entry).toList ++ due.filterMap rearmed? := by
  cases interval : entry.interval <;>
    simp [comingBack, ServicePosition.held, rearmed?, interval]

theorem comingBack_rearming
    {pass interval : Nat}
    {entry : TimerEntry Message}
    (periodic : entry.interval = some interval)
    (due : List (TimerEntry Message)) :
    comingBack (.rearming pass entry interval due) =
      { entry with
        scheduledAt := entry.scheduledAt + interval
        interval := some interval } :: due.filterMap rearmed? := by
  simp [comingBack, ServicePosition.held, rearmed?, periodic]

/-- A call of its factory leaves what is put back of an entry as it was. -/
theorem rearmed?_called
    {entry : TimerEntry Message}
    {message : Message}
    {factory : MessageFactory Message}
    (fits : Fits entry.factory entry.interval)
    (called : entry.factory.call? = some (message, factory)) :
    rearmed? { entry with factory := factory } = rearmed? entry := by
  obtain ⟨_, _, again, same⟩ := call?_of_fits fits
  obtain ⟨-, rfl⟩ :=
    Prod.mk.inj (Option.some.inj (again.symm.trans called))
  by_cases periodic : entry.interval.isSome = true
  · rw [same periodic]
  · have oneShot : entry.interval = none := by simpa using periodic
    simp [rearmed?, oneShot]

/-- Every own step leaves, in the list and with the thread, what is there in the
end. -/
theorem Settles.step
    {limit : Nat}
    {total : List (TimerEntry Message)}
    {service after : TimerService Message}
    {label : Label Message}
    {events : List Event}
    (settles : Settles limit total service)
    (own : isOwn label = true)
    (unscanned : passes events = 0)
    (step :
      (machine limit Message).step? service label = some (after, events)) :
    Settles limit total after := by
  have sound := sound_step settles.sound step
  have known := settles.sound.position
  have fits := settles.fits
  have whole := settles.total
  cases label with
  | service =>
      have ownStep : serviceStep? limit service = some (after, events) := step
      cases position : service.position with
      | polling =>
          simp only [serviceStep?, position] at ownStep
          rw [position] at whole
          split at ownStep <;>
            obtain ⟨rfl, -⟩ := Prod.mk.inj (Option.some.inj ownStep) <;>
            exact ⟨sound, settles.usable, List.forall_mem_nil _, by simp, whole⟩
      | scanning pass =>
          simp only [serviceStep?, position, settles.usable,
            Bool.false_eq_true, ↓reduceIte] at ownStep
          obtain ⟨-, rfl⟩ := Prod.mk.inj (Option.some.inj ownStep)
          simp [passes] at unscanned
      | delivering pass due =>
          rw [position] at known fits whole
          cases due with
          | nil =>
              simp only [serviceStep?, position] at ownStep
              obtain ⟨rfl, -⟩ := Prod.mk.inj (Option.some.inj ownStep)
              exact
                ⟨sound, settles.usable, List.forall_mem_nil _, by simp, whole⟩
          | cons entry rest =>
              obtain ⟨fitting, -⟩ := known.2 entry List.mem_cons_self
              obtain ⟨message, factory, called, -⟩ := call?_of_fits fitting
              simp only [serviceStep?, position, called] at ownStep
              obtain ⟨rfl, -⟩ := Prod.mk.inj (Option.some.inj ownStep)
              refine ⟨sound, settles.usable, ?_, by simp, ?_⟩
              · simp only [ServicePosition.held]
                split
                · intro other member
                  rcases List.mem_cons.mp member with rfl | later
                  · exact fits entry List.mem_cons_self
                  · exact fits other (List.mem_cons_of_mem entry later)
                · exact fun other later =>
                    fits other (List.mem_cons_of_mem entry later)
              · rw [comingBack_sending, rearmed?_called fitting called]
                rwa [comingBack_cons] at whole
      | rearming pass entry interval rest =>
          rw [position] at known fits whole
          obtain ⟨-, periodic, -⟩ := known
          have room : entry.scheduledAt + interval ≤ limit :=
            fits entry List.mem_cons_self interval periodic
          simp only [serviceStep?, position, settles.usable, addDuration, room,
            Bool.false_eq_true, ↓reduceIte] at ownStep
          obtain ⟨rfl, -⟩ := Prod.mk.inj (Option.some.inj ownStep)
          refine ⟨sound, rfl, ?_, by simp, ?_⟩
          · exact fun other later =>
              fits other (List.mem_cons_of_mem entry later)
          · rw [comingBack_delivering, List.append_assoc,
              List.singleton_append]
            rwa [comingBack_rearming periodic] at whole
      | _ =>
          simp [serviceStep?, position] at ownStep
  | sendReturns =>
      simp only [machine] at step
      split at step
      · rename_i pass entry message rest position
        obtain ⟨rfl, -⟩ := Prod.mk.inj (Option.some.inj step)
        rw [position] at fits whole
        rw [comingBack_sending] at whole
        cases periodic : entry.interval with
        | none =>
            simp only [ServicePosition.held, periodic] at fits
            refine ⟨by simpa [periodic] using sound, settles.usable, fits,
              by simp, ?_⟩
            simpa [rearmed?, periodic, comingBack_delivering] using whole
        | some interval =>
            simp only [ServicePosition.held, periodic] at fits
            refine ⟨by simpa [periodic] using sound, settles.usable, fits,
              by simp, ?_⟩
            rw [comingBack_rearming periodic]
            simpa [rearmed?, periodic] using whole
      · cases step
  | _ => cases own

/-- Over every run of the thread alone, until the next extraction. -/
theorem run_settles
    {limit : Nat}
    {total : List (TimerEntry Message)}
    {service after : TimerService Message}
    {log : List Event}
    (settles : Settles limit total service)
    (run : Machine.Run (ownMachine limit Message) service log after)
    (unscanned : passes log = 0) :
    Settles limit total after := by
  induction run with
  | nil => exact settles
  | snoc label earlier last inductionHypothesis =>
      rw [passes, List.countP_append, Nat.add_eq_zero_iff] at unscanned
      obtain ⟨own, step⟩ := Machine.restrict_step_iff.mp last
      exact (inductionHypothesis unscanned.1).step own unscanned.2 step

/-- The thread works through its batch and fires each entry of it once, whatever
it puts back. -/
structure DeliveryRight
    (limit : Nat)
    (due : List (TimerEntry Message))
    (service : TimerService Message) : Prop where
  /-- Whoever else is at work: the batch is fired in order, and all of it unless
  the thread panics. -/
  fires :
    ∀ log after,
      Machine.Run (machine limit Message) service log after →
      passes log = 0 →
      firedIds log <+: due.map TimerEntry.id ∧
        (after.position ≠ .panicked →
          firedIds log ++ after.position.unfired.map TimerEntry.id =
            due.map TimerEntry.id)
  /-- Whoever else is at work: the steps of the thread are limited. -/
  bounded :
    ∀ steps log after,
      Machine.Trace (machine limit Message) service steps log after →
      passes log = 0 →
      steps.countP (fun step => isOwn step.2) ≤ 3 * due.length + 3
  /-- Undisturbed, it is done well: no panic, one firing for each entry, and the
  periodic entries at the end of the list. -/
  undisturbed :
    service.poisoned = false →
    Rearmable limit due →
    ∀ log after,
      Machine.Run (ownMachine limit Message) service log after →
      passes log = 0 →
      after.position ≠ .panicked ∧
        (after.position = .polling →
          firedIds log = due.map TimerEntry.id ∧
            after.timers = service.timers ++ due.filterMap rearmed?)

theorem delivery_right
    {limit pass : Nat}
    {due : List (TimerEntry Message)}
    {service : TimerService Message}
    (sound : Sound service)
    (delivering : service.position = .delivering pass due) :
    DeliveryRight limit due service where
  fires _ _ run unscanned := run_firedIds delivering run unscanned
  bounded steps log after trace unscanned := by
    have left := trace_stepsLeft trace unscanned
    rw [delivering] at left
    exact (Nat.le_add_right _ _).trans left
  undisturbed usable fits log after run unscanned := by
    have settles :
        Settles limit (service.timers ++ due.filterMap rearmed?) service :=
      { sound := sound
        usable := usable
        fits := by rwa [delivering]
        going := by simp [delivering]
        total := by rw [delivering, comingBack_delivering] }
    have settled := run_settles settles run unscanned
    refine ⟨settled.going, fun polling => ?_⟩
    have fired :=
      (run_firedIds delivering run.of_restrict unscanned).2 settled.going
    have listed := settled.total
    rw [polling] at fired listed
    exact ⟨by simpa [ServicePosition.unfired] using fired,
      by simpa [comingBack, ServicePosition.held] using listed⟩

/-- A pass that begins now, with the list as it is. -/
structure PassRight
    (limit now : Nat)
    (service : TimerService Message) : Prop where
  scan : ScanRight now service.timers
  extracts :
    service.poisoned = false →
    ∃ scanned,
      (machine limit Message).step? service .service =
          some (scanned,
            [.extracted
              ((service.timers.filter (isDue now)).map TimerEntry.id)]) ∧
        scanned.poisoned = false ∧
        scanned.timers = notDue now service.timers ∧
        DeliveryRight limit (service.timers.filter (isDue now)) scanned

theorem pass_right
    {limit now : Nat}
    {service : TimerService Message}
    (sound : Sound service)
    (scanning : service.position = .scanning now) :
    PassRight limit now service := by
  refine ⟨scan_right now service.timers, fun usable => ?_⟩
  have extract :
      (machine limit Message).step? service .service =
        some ({ service with
            timers := notDue now service.timers
            position :=
              .delivering now (service.timers.filter (isDue now)) },
          [.extracted
            ((service.timers.filter (isDue now)).map TimerEntry.id)]) := by
    simp [machine, serviceStep?, scanning, usable, scan_eq, notDue]
  exact ⟨_, extract, usable, rfl,
    delivery_right (sound_step sound extract) rfl⟩

end Runact.TimerService

namespace Runact

open TimerService

/-! ## The sends of a pass -/

universe u

variable {Value State Frame : Type u}

/-- A step of the thread of the timer service. -/
def TimedLabel.isOwn : TimedLabel Value State Frame → Bool
  | .own => true
  | _ => false

namespace TimedRuntime

/-- The thread has come to a send, or is inside of it. -/
def atSend (timed : TimedRuntime Value State Frame) : Bool :=
  match timed.service.position with
  | .delivering _ (_ :: _) => true
  | .sending _ _ _ _ => true
  | _ => false

section Loop

variable {limit : Nat}

/-- Every send the thread comes to lets it in and returns. -/
def SendsReturn
    (execution : Machine.Execution (machine limit Value State Frame)) :
    Prop :=
  ∀ time,
    atSend (execution.states time) = true →
    ∃ later, time ≤ later ∧ (execution.labels later).isOwn = true

/-- What the service knows about its entries is kept by every step. -/
theorem step_sound
    {before after : TimedRuntime Value State Frame}
    {label : TimedLabel Value State Frame}
    {events : List (TimedEvent Value)}
    (sound : Sound before.service)
    (step :
      (machine limit Value State Frame).step? before label =
        some (after, events)) :
    Sound after.service := by
  obtain ⟨same, -⟩ | ⟨label, taken⟩ := service_of_step step
  · rw [same]
    exact sound
  · exact sound_step sound taken

/-- The thread stays where it is in the steps of others. -/
theorem position_of_not_own
    {before after : TimedRuntime Value State Frame}
    {label : TimedLabel Value State Frame}
    {events : List (TimedEvent Value)}
    (step :
      (machine limit Value State Frame).step? before label =
        some (after, events))
    (other : label.isOwn = false) :
    after.service.position = before.service.position := by
  cases label with
  | own => cases other
  | service label =>
      simp only [machine] at step
      split at step
      · rename_i call
        obtain ⟨⟨service, own⟩, taken, shape⟩ := Option.map_eq_some_iff.mp step
        obtain ⟨rfl, rfl⟩ := Prod.mk.inj shape
        exact position_of_call call taken
      · cases step
  | runtime label =>
      simp only [machine] at step
      split at step
      · obtain ⟨outcome, -, shape⟩ := Option.map_eq_some_iff.mp step
        obtain ⟨rfl, rfl⟩ := Prod.mk.inj shape
        rfl
      · cases step

/-- In its loop the thread gets closer to the next pass by each of its steps,
and leaves the loop for the next pass or by a panic of putting back. -/
theorem step_loop
    {before after : TimedRuntime Value State Frame}
    {label : TimedLabel Value State Frame}
    {events : List (TimedEvent Value)}
    (sound : Sound before.service)
    (inside : inLoop before.service.position = true)
    (step :
      (machine limit Value State Frame).step? before label =
        some (after, events)) :
    passes (events.flatMap serviceEvent) = 0 ∧
      (inLoop after.service.position = true ∨
        after.service.position = .polling ∨
        after.service.position = .panicked ∧
          PutBackPanics limit before.service) ∧
      (label.isOwn = true →
        stepsLeft after.service.position <
          stepsLeft before.service.position) := by
  cases label with
  | own =>
      obtain ⟨moved, own, taken⟩ := service_of_ownStep step
      obtain ⟨unscanned, goesOn⟩ := step_inLoop sound inside taken
      have paid := stepsLeft_step unscanned taken
      have isOwn : TimerService.isOwn moved = true := by
        cases moved <;> simp_all [isCall, TimerService.isOwn]
      rw [if_pos isOwn] at paid
      exact ⟨unscanned, goesOn, fun _ => by omega⟩
  | service label =>
      simp only [machine] at step
      split at step
      · obtain ⟨⟨service, own⟩, taken, shape⟩ := Option.map_eq_some_iff.mp step
        obtain ⟨rfl, rfl⟩ := Prod.mk.inj shape
        rw [flatMap_service]
        obtain ⟨unscanned, goesOn⟩ := step_inLoop sound inside taken
        exact ⟨unscanned, goesOn, nofun⟩
      · cases step
  | runtime label =>
      simp only [machine] at step
      split at step
      · obtain ⟨⟨runtime, own⟩, taken, shape⟩ := Option.map_eq_some_iff.mp step
        obtain ⟨rfl, rfl⟩ := Prod.mk.inj shape
        rw [flatMap_runtime]
        exact ⟨rfl, .inl inside, nofun⟩
      · cases step

/-- In its loop and outside of sends the thread can take a step. -/
theorem own_enabled
    {timed : TimedRuntime Value State Frame}
    (inside : inLoop timed.service.position = true)
    (outside : atSend timed = false) :
    (machine limit Value State Frame).Enabled timed TimedLabel.isOwn := by
  suffices moves : ∃ outcome, timed.ownStep? limit = some outcome by
    obtain ⟨⟨after, events⟩, step⟩ := moves
    exact ⟨.own, after, events, rfl, step⟩
  cases position : timed.service.position with
  | delivering pass due =>
      cases due with
      | nil =>
          simp [ownStep?, keptOut, position, TimerService.machine,
            serviceStep?]
      | cons entry due => simp [atSend, position] at outside
  | sending pass entry message due => simp [atSend, position] at outside
  | rearming pass entry interval due =>
      simp only [ownStep?, keptOut, position, TimerService.machine,
        serviceStep?, Bool.false_eq_true, ↓reduceIte]
      cases timed.service.poisoned with
      | true => exact ⟨_, rfl⟩
      | false =>
          cases addDuration limit entry.scheduledAt interval with
          | none => exact ⟨_, rfl⟩
          | some deadline => exact ⟨_, rfl⟩
  | _ =>
      rw [position] at inside
      cases inside

/-- A thread in its loop takes another step, if its sends return. -/
theorem thread_goes_on
    (execution : Machine.Execution (machine limit Value State Frame))
    (fair : execution.Fair TimedLabel.isOwn)
    (returns : SendsReturn execution)
    {time : Nat}
    (inside : inLoop (execution.states time).service.position = true) :
    ∃ later, time ≤ later ∧ (execution.labels later).isOwn = true := by
  cases outside : atSend (execution.states time) with
  | true => exact returns time outside
  | false =>
      by_contra never
      -- a thread that takes no step stays where it can take one
      have stays (later : Nat) (notBefore : time ≤ later) :
          (execution.states later).service.position =
            (execution.states time).service.position := by
        exact Machine.Execution.kept_until
          (fun timed =>
            timed.service.position =
              (execution.states time).service.position)
          (fun same step other => (position_of_not_own step other).trans same)
          notBefore rfl fun moment since _ =>
            Bool.eq_false_iff.mpr fun own => never ⟨moment, since, own⟩
      obtain ⟨later, since, own⟩ := fair time fun later notBefore =>
        own_enabled (by rw [stays later notBefore]; exact inside)
          (by rw [atSend, stays later notBefore]; exact outside)
      exact never ⟨later, since, own⟩

/--
The delivery loop ends, if each of its sends returns: the thread comes to the
next pass, with every entry of its batch fired once, or putting an entry back
panics.
-/
theorem delivery_ends
    {pass : Nat}
    {due : List (TimerEntry (AnyBox Value))}
    (execution : Machine.Execution (machine limit Value State Frame))
    (fair : execution.Fair TimedLabel.isOwn)
    (returns : SendsReturn execution)
    (sound : Sound (execution.states 0).service)
    (delivering :
      (execution.states 0).service.position = .delivering pass due) :
    ∃ count,
      passes ((execution.log 0 count).flatMap serviceEvent) = 0 ∧
        (PutBackPanics limit (execution.states count).service ∧
            (execution.states (count + 1)).service.position = .panicked ∨
          (execution.states count).service.position = .polling ∧
            firedIds ((execution.log 0 count).flatMap serviceEvent) =
              due.map TimerEntry.id) := by
  have inside : inLoop (execution.states 0).service.position = true := by
    rw [delivering]
    rfl
  have soundAt (moment : Nat) : Sound (execution.states moment).service :=
    execution.invariant (fun timed => Sound timed.service)
      (fun sound step => step_sound sound step) (Nat.zero_le moment) sound
  have moves (moment : Nat) (_ : 0 ≤ moment)
      (stillInside :
        inLoop (execution.states moment).service.position = true) :
      ((execution.labels moment).isOwn = true ∧
          inLoop (execution.states (moment + 1)).service.position = false) ∨
        inLoop (execution.states (moment + 1)).service.position = true ∧
          stepsLeft (execution.states (moment + 1)).service.position ≤
            stepsLeft (execution.states moment).service.position ∧
          ((execution.labels moment).isOwn = true →
            stepsLeft (execution.states (moment + 1)).service.position <
              stepsLeft (execution.states moment).service.position) := by
    have valid := execution.valid moment
    cases own : (execution.labels moment).isOwn with
    | false =>
        rw [position_of_not_own valid own]
        exact .inr ⟨stillInside, le_refl _, nofun⟩
    | true =>
        have closer := (step_loop (soundAt moment) stillInside valid).2.2 own
        cases onward :
            inLoop (execution.states (moment + 1)).service.position with
        | false => exact .inl ⟨rfl, rfl⟩
        | true => exact .inr ⟨rfl, closer.le, fun _ => closer⟩
  obtain ⟨later, -, ⟨-, left⟩, -, before⟩ :=
    execution.reaches (fun timed => inLoop timed.service.position = true)
      _ (fun timed => stepsLeft timed.service.position) moves
      (fun moment _ waits =>
        thread_goes_on execution fair returns (waits moment (le_refl moment)))
      inside
  have unscannedNext
      {moment : Nat}
      (unscanned :
        passes ((execution.log 0 moment).flatMap serviceEvent) = 0)
      (quiet : passes ((execution.events moment).flatMap serviceEvent) = 0) :
      passes ((execution.log 0 (moment + 1)).flatMap serviceEvent) = 0 := by
    rw [Machine.Execution.log, Nat.zero_add, List.flatMap_append, passes,
      List.countP_append, ← passes, ← passes, unscanned, quiet]
  -- up to the step out of the loop the thread is in it
  have stays (moment : Nat) (notAfter : moment ≤ later) :
      inLoop (execution.states moment).service.position = true ∧
        passes ((execution.log 0 moment).flatMap serviceEvent) = 0 := by
    induction moment with
    | zero => exact ⟨inside, rfl⟩
    | succ moment inductionHypothesis =>
        have earlier : moment < later := notAfter
        have valid := execution.valid moment
        obtain ⟨stillInside, unscanned⟩ := inductionHypothesis earlier.le
        obtain ⟨quiet, -⟩ := step_loop (soundAt moment) stillInside valid
        refine ⟨?_, unscannedNext unscanned quiet⟩
        by_contra outside
        have goal := before moment (Nat.zero_le moment) earlier
        cases own : (execution.labels moment).isOwn with
        | false =>
            exact outside (by
              rw [position_of_not_own valid own]
              exact stillInside)
        | true => exact goal ⟨own, by simpa using outside⟩
  obtain ⟨stillInside, unscanned⟩ := stays later (le_refl later)
  obtain ⟨quiet, goesOn, -⟩ :=
    step_loop (soundAt later) stillInside (execution.valid later)
  rcases goesOn with onward | polling | ⟨panicked, putsBack⟩
  · rw [left] at onward
    cases onward
  · have whole := unscannedNext unscanned quiet
    have run := run_service (execution.run 0 (later + 1))
    have batch := (run_firedIds delivering run whole).2
    rw [Nat.zero_add, polling] at batch
    exact ⟨later + 1, whole, .inr ⟨polling, by
      simpa [ServicePosition.unfired] using batch (by simp)⟩⟩
  · exact ⟨later, unscanned, .inl ⟨putsBack, panicked⟩⟩

end Loop

/--
One pass is a correct partition: the scan of any list at any time, and in every
reachable state the extraction and the batch that is worked through after it.
The delivery loop ends, if each of its sends returns: with the whole batch
fired, or by a panic of putting an entry back.
-/
theorem timer_pass_right
    {limit mailboxCapacity start : Nat}
    {log : List (TimedEvent Value)}
    {timed : TimedRuntime Value State Frame}
    (run :
      Machine.Run (machine limit Value State Frame)
        (new Value State Frame mailboxCapacity start) log timed) :
    (∀ now (timers : List (TimerEntry (AnyBox Value))),
        ScanRight now timers) ∧
      (∀ now,
        timed.service.position = .scanning now →
        PassRight limit now timed.service) ∧
      ∀ pass due (execution :
          Machine.Execution (machine limit Value State Frame)),
        execution.states 0 = timed →
        timed.service.position = .delivering pass due →
        execution.Fair TimedLabel.isOwn →
        SendsReturn execution →
        ∃ count,
          passes ((execution.log 0 count).flatMap serviceEvent) = 0 ∧
            (PutBackPanics limit (execution.states count).service ∧
                (execution.states (count + 1)).service.position = .panicked ∨
              (execution.states count).service.position = .polling ∧
                firedIds ((execution.log 0 count).flatMap serviceEvent) =
                  due.map TimerEntry.id) := by
  have sound := (run_account (run_service run) 0).1
  refine ⟨scan_right, fun now scanning => pass_right sound scanning,
    fun pass due execution starts delivering fair returns => ?_⟩
  subst starts
  exact delivery_ends execution fair returns sound delivering

/-- An actor and its timers: a one-shot timer that is due, one that is not, and
a periodic timer that is due again whenever it is put back. -/
def mixedTimers : List (TimedLabel Nat Unit Unit) :=
  [.runtime (.spawn quiet ()),
    .service (.newId (.handleTimer 3 ⟨1⟩ ⟨0, 1⟩)), .service (.insert 0),
    .service (.newId (.handleTimer 9 ⟨1⟩ ⟨0, 2⟩)), .service (.insert 0),
    .service (.newId (.handleInterval 0 ⟨1⟩ ⟨0, 3⟩)), .service (.insert 0),
    .service (.clock 5), .own]

/-- The thread works through its batch; then it is told to stop, and ends. -/
def lastBatch : List (TimedLabel Nat Unit Unit) :=
  [.own, .own, .own, .own, .own, .own, .service .setStop, .own]

/-- The thread has ended by a panic. -/
def hasPanicked {Message : Type u} : ServicePosition Message → Bool
  | .panicked => true
  | _ => false

/-- The pass fires two timers, once each, although one of them is due again
before the pass is over. -/
theorem timer_pass_right_mixedTimers :
    ∃ (timed : _) (log : _)
      (execution : Machine.Execution (machine 100 Nat Unit Unit)) (count : _),
      (machine 100 Nat Unit Unit).run? (new Nat Unit Unit 5 0) mixedTimers =
          some (timed, log) ∧
        PassRight 100 5 timed.service ∧
        (machine 100 Nat Unit Unit).step? timed .own =
          some (execution.states 0, [.service (.extracted [0, 2])]) ∧
        (execution.states count).service.position = .polling ∧
        firedIds ((execution.log 0 count).flatMap serviceEvent) = [0, 2] := by
  obtain ⟨timed, log, extracted, final, later, executed, scanning, extracts,
      delivering, onward, round, ended, unpanicked, released⟩ :
      ∃ timed log extracted final later,
        (machine 100 Nat Unit Unit).run? (new Nat Unit Unit 5 0)
            mixedTimers = some (timed, log) ∧
          timed.service.position = .scanning 5 ∧
          (machine 100 Nat Unit Unit).step? timed .own =
            some (extracted, [.service (.extracted [0, 2])]) ∧
          (∃ due,
            extracted.service.position = .delivering 5 due ∧
              due.map TimerEntry.id = [0, 2]) ∧
          (machine 100 Nat Unit Unit).run? extracted lastBatch =
            some (final, later) ∧
          (machine 100 Nat Unit Unit).run? final [.service .setStop] =
            some (final, []) ∧
          final.ownStep? 100 = none ∧
          (∀ step ∈
            (machine 100 Nat Unit Unit).taken extracted lastBatch ++
              (machine 100 Nat Unit Unit).taken final [.service .setStop],
            hasPanicked step.1.service.position = false) ∧
          ∀ step ∈
            (machine 100 Nat Unit Unit).taken extracted lastBatch ++
              (machine 100 Nat Unit Unit).taken final [.service .setStop],
            atSend step.1 = true → step.2.isOwn = true :=
    ⟨_, _, _, _, _, rfl, rfl, rfl, ⟨_, rfl, rfl⟩, rfl, rfl, rfl, by decide,
      by decide⟩
  obtain ⟨execution, rfl, rfl, among, fair⟩ :=
    Machine.Execution.exists_of_lasso lastBatch onward [.service .setStop]
      (List.cons_ne_nil _ _) round
  have fairly : execution.Fair TimedLabel.isOwn := by
    refine (fair _ _ (.inr ?_)).fair
    rintro ⟨-, label, after, events, own, step⟩
    cases label with
    | own =>
        have moved : TimedRuntime.ownStep? 100 _ = some (after, events) := step
        rw [ended] at moved
        cases moved
    | _ => cases own
  have returns : SendsReturn execution := fun time inside =>
    ⟨time, le_refl time, released _ (among time) inside⟩
  obtain ⟨due, delivers, ids⟩ := delivering
  have run := Machine.run?_sound _ executed
  obtain ⟨count, -, ⟨-, panicked⟩ | ⟨polling, fired⟩⟩ :=
    (timer_pass_right (.snoc .own run extracts)).2.2 5 due execution rfl
      delivers fairly returns
  · have calm := unpanicked _ (among (count + 1))
    rw [panicked] at calm
    cases calm
  · exact ⟨timed, log, execution, count, executed,
      (timer_pass_right run).2.1 5 scanning, extracts, polling,
      fired.trans ids⟩

/-! ### A send that never returns -/

/-- The thread is inside of a send to one of the actors that wait for each
other. -/
structure HeldUp
    (waiting : Nat → Prop)
    (timed : TimedRuntime Value State Frame) : Prop where
  sending :
    ∃ pass entry message due,
      timed.service.position = .sending pass entry message due
  target :
    ∃ blocked, inFlight timed.runtime = [blocked] ∧ waiting blocked.channel
  positive : 0 < timed.runtime.mailboxCapacity
  wait : timed.runtime.WaitEachOther waiting

namespace HeldUp

variable {limit : Nat} {waiting : Nat → Prop}
  {before after : TimedRuntime Value State Frame}

/-- Nobody gets the thread out of its send. -/
theorem step
    {label : TimedLabel Value State Frame}
    {events : List (TimedEvent Value)}
    (held : HeldUp waiting before)
    (step :
      (machine limit Value State Frame).step? before label =
        some (after, events)) :
    HeldUp waiting after := by
  obtain ⟨pass, entry, message, due, sending⟩ := held.sending
  obtain ⟨blocked, one, member⟩ := held.target
  cases label with
  | own =>
      have waits : returnSend? before.runtime = none := by
        rw [returnSend_of_one one,
          held.wait.offer_full held.positive member]
      simp [machine, ownStep?, sending, waits] at step
  | service label =>
      simp only [machine] at step
      split at step
      · rename_i call
        obtain ⟨⟨service, own⟩, taken, shape⟩ := Option.map_eq_some_iff.mp step
        obtain ⟨rfl, rfl⟩ := Prod.mk.inj shape
        exact
          { sending :=
              ⟨pass, entry, message, due,
                (position_of_call call taken).trans sending⟩
            target := held.target
            positive := held.positive
            wait := held.wait }
      · cases step
  | runtime label =>
      simp only [machine] at step
      split at step
      · rename_i other
        obtain ⟨⟨runtime, own⟩, taken, shape⟩ := Option.map_eq_some_iff.mp step
        obtain ⟨rfl, rfl⟩ := Prod.mk.inj shape
        refine
          { sending := held.sending
            target := ⟨blocked, ?_, member⟩
            positive := ?_
            wait := held.wait.step held.positive taken }
        · rw [inFlight_of_other other taken]
          exact one
        · rw [Runtime.step_mailboxCapacity taken]
          exact held.positive
      · cases step

end HeldUp

/-- An actor that waits for itself, and a timer for it that is due. -/
def timerOfStuck :
    List (TimedLabel Nat Unit (List (ActorId × AnyBox Nat))) :=
  Runtime.secondSend.map .runtime ++
    [.runtime (.loop 0 0),
      .service (.newId (.serviceTimer 0 ⟨1⟩ ⟨0, 5⟩)), .service (.insert 0),
      .own, .own, .own]

/-- The pass never ends, whatever anyone does: its only send is to the full
mailbox of an actor that is stuck for ever. -/
theorem pass_never_ends :
    ∃ timed log,
      (machine 100 _ _ _).run? (new _ _ _ 1 0) timerOfStuck =
          some (timed, log) ∧
        passes (log.flatMap serviceEvent) = 1 ∧
        inLoop timed.service.position = true ∧
        ∀ {later continuation},
          Machine.Run (machine 100 _ _ _) timed continuation later →
          inLoop later.service.position = true := by
  obtain ⟨timed, log, cell, executed, extracted, sending, one, here, shape,
      full, capacity⟩ :
      ∃ timed log cell,
        (machine 100 _ _ _).run? (new _ _ _ 1 0) timerOfStuck =
            some (timed, log) ∧
          passes (log.flatMap serviceEvent) = 1 ∧
          (∃ pass entry message due,
            timed.service.position = .sending pass entry message due) ∧
          inFlight timed.runtime =
            [{ channel := 0, envelope := .message ⟨0, 5⟩, fromTimer := true }] ∧
          timed.runtime.cells[0]? = some cell ∧
          cell.position =
            .sending false 0 (.message ⟨0, 2⟩) (fun _ => []) ∧
          cell.mailbox.length = 1 ∧
          timed.runtime.mailboxCapacity = 1 :=
    ⟨_, _, _, rfl, rfl, ⟨_, _, _, _, rfl⟩, rfl, rfl, rfl, rfl, rfl⟩
  have held : HeldUp (· = 0) timed :=
    { sending := sending
      target := ⟨_, one, rfl⟩
      positive := by omega
      wait := by
        rintro index rfl
        exact ⟨cell, _, _, _, _, here, shape, rfl, by omega⟩ }
  have inside
      {state : TimedRuntime Nat Unit (List (ActorId × AnyBox Nat))}
      (held : HeldUp (· = 0) state) :
      inLoop state.service.position = true := by
    obtain ⟨pass, entry, message, due, sending⟩ := held.sending
    rw [sending]
    rfl
  exact ⟨timed, log, executed, extracted, inside held, fun run =>
    inside (run.invariant (HeldUp (· = 0)) (fun held step => held.step step)
      held)⟩

end TimedRuntime

end Runact
