import Runact.TimerCancellation

namespace Runact

/-!
# Periodic timers keep their schedule

A tick is due at a nominal time, and the entry is put back for the nominal time
one interval later, whatever the clock reads by then.  Seen as a table of
nominal times, putting an entry back changes nothing: only firing a tick moves
its timer on.
-/

universe u

namespace ServicePosition

variable {Message : Type u}

/-- The clock reading of the pass that is being made. -/
def pass? : ServicePosition Message → Option Nat
  | .scanning now => some now
  | .delivering pass _ => some pass
  | .sending pass _ _ _ => some pass
  | .rearming pass _ _ _ => some pass
  | _ => none

/-- The periodic timer that has fired and is not back yet, with its next
nominal time. -/
def returning : ServicePosition Message → List (Nat × Nat)
  | .sending _ entry _ _ =>
      match entry.interval with
      | none => []
      | some interval => [(entry.id, entry.scheduledAt + interval)]
  | .rearming _ entry interval _ =>
      [(entry.id, entry.scheduledAt + interval)]
  | _ => []

end ServicePosition

namespace TimerService

variable {Message : Type u}

/-- The timers and nominal times of some entries. -/
def nominalTimes
    (entries : List (TimerEntry Message)) : List (Nat × Nat) :=
  entries.map fun entry => (entry.id, entry.scheduledAt)

/-- Every timer with the nominal time for which it fires next. -/
def timetable
    (service : TimerService Message) : List (Nat × Nat) :=
  nominalTimes (service.timers ++ service.position.unfired) ++
    service.position.returning

/-- The nominal time of a tick of the timer, and the pass it is fired in. -/
def tick? (id : Nat) : Event → Option (Nat × Nat)
  | .fired other deadline _ pass _ =>
      if other = id then some (deadline, pass) else none
  | _ => none

/-- The ticks of a timer, in order. -/
def ticks (id : Nat) (log : List Event) : List (Nat × Nat) :=
  log.filterMap (tick? id)

/-- How many passes were begun. -/
def passes (log : List Event) : Nat :=
  log.countP fun event =>
    match event with
    | .extracted _ => true
    | _ => false

theorem length_ticks
    (id : Nat)
    (log : List Event) :
    (ticks id log).length = firings id log := by
  rw [ticks, List.length_filterMap_eq_countP, firings]
  refine List.countP_congr fun event _ => ?_
  cases event with
  | fired other deadline interval pass clock =>
      by_cases same : other = id <;> simp [tick?, Event.fires, same]
  | _ => simp [tick?, Event.fires]

theorem ticks_append
    (id : Nat)
    (log later : List Event) :
    ticks id (log ++ later) = ticks id log ++ ticks id later :=
  List.filterMap_append

/-- What a step does to the timetable. -/
inductive TimetableEffect
    (before after : TimerService Message) : List Event → Prop where
  /-- Nothing is fired or scheduled. -/
  | kept {events : List Event} :
      (∀ entry ∈ timetable after, entry ∈ timetable before) →
      (∀ event ∈ events, ∀ id,
        tick? id event = none ∧ Event.schedules id event = false) →
      TimetableEffect before after events
  | scheduled (id deadline : Nat) (interval : Option Nat) :
      (∀ entry ∈ timetable after,
        entry ∈ timetable before ∨ entry = (id, deadline)) →
      TimetableEffect before after [.scheduled id deadline interval]
  /-- A tick moves its timer on by one interval. -/
  | fired (entry : TimerEntry Message) (pass : Nat) :
      before.position.pass? = some pass →
      (entry.id, entry.scheduledAt) ∈ timetable before →
      entry.scheduledAt ≤ pass →
      (∀ moved ∈ timetable after,
        moved.1 ≠ entry.id ∧ moved ∈ timetable before ∨
          ∃ interval, entry.interval = some interval ∧
            moved = (entry.id, entry.scheduledAt + interval)) →
      TimetableEffect before after
        [.fired entry.id entry.scheduledAt entry.interval pass before.now]

theorem TimetableEffect.unchanged
    {before after : TimerService Message}
    {events : List Event}
    (same : timetable after = timetable before)
    (silent :
      ∀ event ∈ events, ∀ id,
        tick? id event = none ∧ Event.schedules id event = false) :
    TimetableEffect before after events :=
  .kept (fun _ member => same ▸ member) silent

/-- The timetable lists the timers that are pending. -/
theorem timetable_ids
    (service : TimerService Message) :
    ((timetable service).map Prod.fst).Perm
      ((service.timers ++ service.position.held).map TimerEntry.id) := by
  have entries (listed : List (TimerEntry Message)) :
      (nominalTimes listed).map Prod.fst = listed.map TimerEntry.id := by
    simp [nominalTimes]
  rw [timetable, List.map_append, entries, List.map_append, List.map_append,
    List.append_assoc]
  refine List.Perm.append_left _ ?_
  cases shape : service.position with
  | delivering pass due =>
      simp [ServicePosition.unfired, ServicePosition.returning,
        ServicePosition.held]
  | sending pass entry message due =>
      cases interval : entry.interval with
      | none =>
          simp [ServicePosition.unfired, ServicePosition.returning,
            ServicePosition.held, interval]
      | some period =>
          simp [ServicePosition.unfired, ServicePosition.returning,
            ServicePosition.held, interval]
  | rearming pass entry interval due =>
      simp [ServicePosition.unfired, ServicePosition.returning,
        ServicePosition.held]
  | _ =>
      simp [ServicePosition.unfired, ServicePosition.returning,
        ServicePosition.held]

/-- What a step does to the timetable. -/
theorem step_timetable
    {limit : Nat}
    {service after : TimerService Message}
    {label : Label Message}
    {events : List Event}
    (sound : Sound service)
    (distinct : ((timetable service).map Prod.fst).Nodup)
    (step :
      (machine limit Message).step? service label = some (after, events)) :
    TimetableEffect service after events := by
  have position := sound.position
  cases outcome_of_step step with
  | inserted index id pushed claimed usable =>
      refine .scheduled id _ _ ?_
      simp only [timetable, nominalTimes]
      grind
  | cancelled timerId usable =>
      refine .kept ?_ (by simp [tick?, Event.schedules])
      simp only [timetable, nominalTimes, retain]
      grind
  | stopped shape | polled shape | passOver pass shape
  | scanPoisoned pass shape =>
      refine .kept ?_ (by simp [tick?, Event.schedules])
      simp +contextual [timetable, shape, ServicePosition.unfired,
        ServicePosition.returning]
  | scanned pass shape usable =>
      refine .kept ?_ (by simp [tick?, Event.schedules])
      simp only [timetable, shape, ServicePosition.unfired,
        ServicePosition.returning, List.append_nil, nominalTimes]
      grind
  | fired pass entry due message factory shape called =>
      rw [shape] at position
      refine .fired entry pass (by simp [shape, ServicePosition.pass?]) ?_
        (position.2 entry (by simp)).2 ?_
      · simp [timetable, shape, ServicePosition.unfired, nominalTimes]
      · simp only [timetable, shape, ServicePosition.unfired,
          ServicePosition.returning, List.append_nil, nominalTimes,
          List.map_append, List.map_cons] at distinct ⊢
        intro moved member
        grind
  | sendReturned pass entry message due shape =>
      refine .kept ?_ (by simp [tick?, Event.schedules])
      cases interval : entry.interval <;>
        simp [timetable, shape, ServicePosition.unfired,
          ServicePosition.returning, interval]
  | firedTwice pass entry due shape
  | rearmPoisoned pass entry interval due shape
  | rearmOverflowed pass entry interval due shape
  | rearmed pass entry interval due shape =>
      refine .kept ?_ (by simp [tick?, Event.schedules])
      simp only [timetable, shape, ServicePosition.unfired,
        ServicePosition.returning, nominalTimes]
      grind
  | _ => exact .unchanged rfl (by simp [tick?, Event.schedules])

/-- Over every run, each timer is in the timetable at most once. -/
theorem run_timetable_distinct
    {limit now : Nat}
    {log : List Event}
    {service : TimerService Message}
    (run :
      Machine.Run (machine limit Message) (new Message now) log service) :
    ((timetable service).map Prod.fst).Nodup := by
  rw [(timetable_ids service).nodup_iff]
  refine List.nodup_iff_count_le_one.mpr fun id => ?_
  have account := (run_account run id).2
  have bounded := account.bounded
  have once := account.issuedOnce
  unfold pending at bounded
  omega

/-- The clock does not go back, and a pass begins with a reading of it. -/
theorem step_pass
    {limit : Nat}
    {service after : TimerService Message}
    {label : Label Message}
    {events : List Event}
    (step :
      (machine limit Message).step? service label = some (after, events)) :
    service.now ≤ after.now ∧
      ∀ pass, after.position.pass? = some pass →
        service.position.pass? = some pass ∨ pass = service.now := by
  cases outcome_of_step step with
  | clock later forward => exact ⟨forward, fun pass same => .inl same⟩
  | polled shape =>
      exact ⟨le_rfl, fun pass same => .inr (Option.some.inj same).symm⟩
  | scanned pass shape | rearmed _ _ _ _ shape | fired _ _ _ _ _ shape =>
      exact ⟨le_rfl, fun pass same => .inl (by rw [shape]; exact same)⟩
  | sendReturned pass entry message due shape =>
      refine ⟨le_rfl, fun pass same => .inl ?_⟩
      rw [shape, ← same]
      cases entry.interval <;> rfl
  | stopped | passOver | scanPoisoned | firedTwice | rearmPoisoned
  | rearmOverflowed => exact ⟨le_rfl, nofun⟩
  | _ => exact ⟨le_rfl, fun pass same => .inl same⟩

/-- What the log of a run says about the ticks of a periodic timer. -/
structure OnSchedule
    (id created interval : Nat)
    (log : List Event)
    (service : TimerService Message) : Prop where
  next :
    ∀ deadline, (id, deadline) ∈ timetable service →
      deadline = created + (firings id log + 1) * interval
  ticks :
    ∀ k deadline pass, (ticks id log)[k]? = some (deadline, pass) →
      deadline = created + (k + 1) * interval ∧ deadline ≤ pass
  passed :
    ∀ deadline pass, (deadline, pass) ∈ TimerService.ticks id log →
      pass ≤ service.now ∧
        ∀ current, service.position.pass? = some current → pass ≤ current

/-- Before its scheduling a timer is nowhere, and has no ticks. -/
theorem absent_of_unscheduled
    {id : Nat}
    {log : List Event}
    {service : TimerService Message}
    (account : Account id log service)
    (unscheduled : log.countP (Event.schedules id) = 0) :
    (∀ deadline, (id, deadline) ∉ timetable service) ∧ ticks id log = [] := by
  constructor
  · intro deadline member
    have listed : id ∈ (timetable service).map Prod.fst :=
      List.mem_map_of_mem member
    rw [(timetable_ids service).mem_iff] at listed
    have positive : 0 < pending id service := List.count_pos_iff.mpr listed
    have bounded := account.bounded
    omega
  · rw [ticks, List.filterMap_eq_nil_iff]
    intro event member
    cases event with
    | fired other deadline interval pass clock =>
        obtain ⟨-, -, scheduledAt, scheduled, -⟩ :=
          account.firedScheduled member
        have different : other ≠ id := by
          rintro rfl
          have once := account.schedules_eq_one scheduled
          omega
        simp [tick?, different]
    | _ => rfl

namespace OnSchedule

variable {id created interval : Nat} {log : List Event}
  {before after : TimerService Message} {events : List Event}

/-- The first nominal time is one interval after the creation. -/
theorem scheduled
    (absent : ∀ deadline, (id, deadline) ∉ timetable before)
    (unfired : TimerService.ticks id log = [])
    (listed :
      ∀ entry ∈ timetable after,
        entry ∈ timetable before ∨ entry = (id, created + interval)) :
    OnSchedule id created interval
      (log ++ [.scheduled id (created + interval) (some interval)]) after := by
  have still :
      TimerService.ticks id
          (log ++ [.scheduled id (created + interval) (some interval)]) =
        [] := by
    rw [ticks_append, unfired]
    rfl
  constructor
  · intro deadline member
    have same : deadline = created + interval := by
      simpa [absent] using listed _ member
    rw [← length_ticks, still, same]
    simp
  · intro k deadline pass found
    simp [still] at found
  · intro deadline pass member
    simp [still] at member

/-- Steps without a tick of the timer. -/
theorem others
    (onSchedule : OnSchedule id created interval log before)
    (silent : TimerService.ticks id events = [])
    (listed :
      ∀ deadline, (id, deadline) ∈ timetable after →
        (id, deadline) ∈ timetable before)
    (forward : before.now ≤ after.now)
    (passing :
      ∀ pass, after.position.pass? = some pass →
        before.position.pass? = some pass ∨ pass = before.now) :
    OnSchedule id created interval (log ++ events) after := by
  have same :
      TimerService.ticks id (log ++ events) = TimerService.ticks id log := by
    rw [ticks_append, silent, List.append_nil]
  constructor
  · intro deadline member
    rw [← length_ticks, same, length_ticks]
    exact onSchedule.next deadline (listed deadline member)
  · rw [same]
    exact onSchedule.ticks
  · rw [same]
    intro deadline pass member
    obtain ⟨past, upTo⟩ := onSchedule.passed deadline pass member
    refine ⟨past.trans forward, fun current shown => ?_⟩
    rcases passing current shown with older | rfl
    · exact upTo current older
    · exact past

/-- A tick of the timer. -/
theorem fired
    {deadline pass clock : Nat}
    (onSchedule : OnSchedule id created interval log before)
    (nominal : (id, deadline) ∈ timetable before)
    (due : deadline ≤ pass)
    (during : before.position.pass? = some pass)
    (past : pass ≤ before.now)
    (listed :
      ∀ moved, (id, moved) ∈ timetable after → moved = deadline + interval)
    (forward : before.now ≤ after.now)
    (passing :
      ∀ pass, after.position.pass? = some pass →
        before.position.pass? = some pass ∨ pass = before.now) :
    OnSchedule id created interval
      (log ++ [.fired id deadline (some interval) pass clock]) after := by
  have atNext := onSchedule.next deadline nominal
  have more :
      TimerService.ticks id
          (log ++ [.fired id deadline (some interval) pass clock]) =
        TimerService.ticks id log ++ [(deadline, pass)] := by
    rw [ticks_append]
    simp [TimerService.ticks, tick?]
  constructor
  · intro moved member
    rw [listed moved member, ← length_ticks, more, List.length_append,
      length_ticks, atNext, List.length_singleton]
    ring
  · intro k shown during found
    rw [more] at found
    rcases Nat.lt_trichotomy k (TimerService.ticks id log).length with
      less | rfl | beyond
    · rw [List.getElem?_append_left less] at found
      exact onSchedule.ticks k shown during found
    · simp only [List.getElem?_concat_length, Option.some.injEq,
        Prod.mk.injEq] at found
      obtain ⟨rfl, rfl⟩ := found
      exact ⟨by rw [length_ticks]; exact atNext, due⟩
    · rw [List.getElem?_eq_none (by simpa using beyond)] at found
      cases found
  · intro shown earlier member
    rw [more] at member
    have bounded :
        earlier ≤ before.now ∧
          ∀ current, before.position.pass? = some current →
            earlier ≤ current := by
      rcases List.mem_append.mp member with older | newest
      · exact onSchedule.passed shown earlier older
      · obtain ⟨rfl, rfl⟩ := Prod.mk.inj (List.mem_singleton.mp newest)
        refine ⟨past, fun current same => ?_⟩
        rw [during, Option.some.injEq] at same
        exact same.le
    refine ⟨bounded.1.trans forward, fun current same => ?_⟩
    rcases passing current same with older | rfl
    · exact bounded.2 current older
    · exact bounded.1

end OnSchedule

/-- Over every run, a periodic timer is on schedule once it is created. -/
theorem run_onSchedule
    {limit start id created interval : Nat}
    {log : List Event}
    {service : TimerService Message}
    (run :
      Machine.Run (machine limit Message) (new Message start) log service)
    (scheduled : .scheduled id (created + interval) (some interval) ∈ log) :
    OnSchedule id created interval log service := by
  induction run with
  | nil => simp at scheduled
  | @snoc log events before after label earlier last inductionHypothesis =>
      obtain ⟨sound, account⟩ := run_account earlier id
      have accountAfter := (run_account (earlier.snoc label last) id).2
      obtain ⟨forward, passing⟩ := step_pass last
      cases step_timetable sound (run_timetable_distinct earlier) last with
      | kept listed silent =>
          rcases List.mem_append.mp scheduled with older | newest
          · have unfired : ticks id events = [] :=
              List.filterMap_eq_nil_iff.mpr fun event member =>
                (silent event member id).1
            exact (inductionHypothesis older).others unfired
              (fun deadline => listed _) forward passing
          · simpa [Event.schedules] using (silent _ newest id).2
      | scheduled other deadline period listed =>
          rcases List.mem_append.mp scheduled with older | newest
          · have different : other ≠ id := by
              rintro rfl
              have once := accountAfter.issuedOnce
              have before := account.schedules_eq_one older
              simp [Event.schedules, before] at once
            refine (inductionHypothesis older).others rfl ?_ forward passing
            intro deadline member
            rcases listed _ member with here | new
            · exact here
            · exact absurd (Prod.mk.inj new).1.symm different
          · simp only [List.mem_singleton, Event.scheduled.injEq] at newest
            obtain ⟨rfl, rfl, rfl⟩ := newest
            have unscheduled : log.countP (Event.schedules id) = 0 := by
              have once := accountAfter.issuedOnce
              rw [List.countP_append, List.countP_singleton] at once
              simp only [Event.schedules, decide_true, if_true] at once
              omega
            obtain ⟨absent, unfired⟩ :=
              absent_of_unscheduled account unscheduled
            exact OnSchedule.scheduled absent unfired listed
      | fired entry pass during nominal due listed =>
          have older : .scheduled id (created + interval) (some interval) ∈ log :=
            by simpa using scheduled
          have onSchedule := inductionHypothesis older
          by_cases same : entry.id = id
          · subst id
            obtain ⟨-, past, scheduledAt, member, -⟩ :=
              accountAfter.firedScheduled
                (List.mem_append_right log (List.mem_singleton_self _))
            have periodic : entry.interval = some interval :=
              (accountAfter.scheduled_unique member scheduled).2
            rw [periodic]
            refine onSchedule.fired nominal due during past ?_ forward passing
            intro moved member
            rcases listed _ member with ⟨different, -⟩ | ⟨period, shape, next⟩
            · exact absurd rfl different
            · rw [periodic, Option.some.injEq] at shape
              rw [shape]
              exact (Prod.mk.inj next).2
          · refine onSchedule.others (by simp [ticks, tick?, same]) ?_
              forward passing
            intro deadline member
            rcases listed _ member with ⟨-, here⟩ | ⟨period, -, next⟩
            · exact here
            · exact absurd (Prod.mk.inj next).1.symm same

/-- So many ticks fit between the creation of a timer and a clock reading. -/
theorem OnSchedule.firings_le
    {id created interval reading : Nat}
    {log : List Event}
    {service : TimerService Message}
    (onSchedule : OnSchedule id created interval log service)
    (positive : 0 < interval)
    (latest :
      ∀ deadline pass, (deadline, pass) ∈ TimerService.ticks id log →
        pass ≤ reading) :
    firings id log ≤ (reading - created) / interval := by
  rw [Nat.le_div_iff_mul_le positive, ← length_ticks]
  cases count : (TimerService.ticks id log).length with
  | zero => simp
  | succ k =>
      have inside : k < (TimerService.ticks id log).length := by omega
      have found := List.getElem?_eq_getElem inside
      obtain ⟨nominal, due⟩ := onSchedule.ticks k _ _ found
      have past := latest _ _ (List.getElem_mem inside)
      omega

/-- A step shows at most one event. -/
theorem step_events_le_one
    {limit : Nat}
    {service after : TimerService Message}
    {label : Label Message}
    {events : List Event}
    (step :
      (machine limit Message).step? service label = some (after, events)) :
    events.length ≤ 1 := by
  cases outcome_of_step step <;> simp

/-- What a step does to the extracted entries that are not fired yet. -/
inductive UnfiredEffect
    (before after : TimerService Message) : List Event → Prop where
  | scanned (pass : Nat) :
      before.position = .scanning pass →
      after.position.unfired = before.timers.filter (isDue pass) →
      UnfiredEffect before after
        [.extracted ((before.timers.filter (isDue pass)).map TimerEntry.id)]
  | kept {events : List Event} :
      passes events = 0 →
      (∀ id, firings id events + entriesOf id after.position.unfired =
        entriesOf id before.position.unfired) →
      UnfiredEffect before after events
  /-- The service thread panics. -/
  | lost {events : List Event} :
      passes events = 0 →
      (∀ id, firings id events = 0) →
      after.position.unfired = [] →
      before.poisoned = true ∨ (∃ id, .overflowed id ∈ events) →
      UnfiredEffect before after events

theorem step_unfired
    {limit : Nat}
    {service after : TimerService Message}
    {label : Label Message}
    {events : List Event}
    (sound : Sound service)
    (step :
      (machine limit Message).step? service label = some (after, events)) :
    UnfiredEffect service after events := by
  have position := sound.position
  cases outcome_of_step step with
  | stopped shape | polled shape | passOver pass shape =>
      exact .kept rfl (by simp [shape, firings, ServicePosition.unfired])
  | scanPoisoned pass shape poisoned
  | rearmPoisoned pass entry interval due shape poisoned =>
      exact .lost rfl (fun _ => rfl) rfl (.inl poisoned)
  | scanned pass shape usable => exact .scanned pass shape rfl
  | firedTwice pass entry due shape used =>
      rw [shape] at position
      obtain ⟨message, factory, called, -⟩ :=
        call?_of_fits (position.2 entry (by simp)).1
      simp [used] at called
  | fired pass entry due message factory shape called =>
      refine .kept rfl fun id => ?_
      by_cases same : entry.id = id <;>
        simp [shape, firings, Event.fires, ServicePosition.unfired, entriesOf,
          same, Nat.add_comm]
  | sendReturned pass entry message due shape =>
      refine .kept rfl fun id => ?_
      cases entry.interval <;>
        simp [shape, firings, Event.fires, ServicePosition.unfired]
  | rearmOverflowed pass entry interval due shape usable =>
      exact .lost rfl (fun _ => rfl) rfl (.inr ⟨entry.id, by simp⟩)
  | rearmed pass entry interval due shape usable fitting =>
      refine .kept rfl fun id => ?_
      simp [shape, firings, Event.fires, ServicePosition.unfired]
  | _ => exact .kept rfl fun id => by simp [firings, Event.fires]

/-- Since the last scan, a timer has ticked once or is going to tick once. -/
theorem run_tickPerPass
    {limit start : Nat}
    {log : List Event}
    {service : TimerService Message}
    (run :
      Machine.Run (machine limit Message) (new Message start) log service)
    (id : Nat) :
    ∀ earlier current, log = earlier ++ current → passes current = 0 →
      firings id current + entriesOf id service.position.unfired ≤ 1 := by
  induction run with
  | nil =>
      intro earlier current shape _
      obtain ⟨rfl, rfl⟩ := List.nil_eq_append_iff.mp shape
      simp [firings, entriesOf, new, ServicePosition.unfired]
  | @snoc log events before after label previous last inductionHypothesis =>
      intro earlier current shape unscanned
      have atMostOne :=
        (entriesOf_unfired_le id after.position).trans
          (run_undelivered_le_one (previous.snoc label last) id)
      rcases List.append_eq_append_iff.mp shape with
        ⟨middle, rfl, split⟩ | ⟨front, rfl, rfl⟩
      · -- the stretch lies within the events of the last step
        have single := step_events_le_one last
        cases middle with
        | nil =>
            obtain rfl : events = current := split
            have before := inductionHypothesis log [] (by simp) rfl
            cases step_unfired (run_account previous id).1 last with
            | scanned pass position found => simp [passes] at unscanned
            | kept _ balance =>
                have here := balance id
                simp only [firings, List.countP_nil] at before here ⊢
                omega
            | lost _ unfired none _ => simp [unfired, none, entriesOf]
        | cons first rest =>
            have nothing : current = [] := by
              rw [split, List.length_append, List.length_cons] at single
              exact List.length_eq_zero_iff.mp (by omega)
            subst current
            simpa [firings] using atMostOne
      · rw [passes, List.countP_append, Nat.add_eq_zero_iff] at unscanned
        have before := inductionHypothesis earlier front rfl unscanned.1
        rw [firings, List.countP_append, ← firings, ← firings]
        cases step_unfired (run_account previous id).1 last with
        | scanned pass position found => simp at unscanned
        | kept _ balance =>
            have here := balance id
            omega
        | lost _ unfired none _ =>
            rw [unfired, none]
            simp only [entriesOf, List.countP_nil]
            omega

/-- A periodic timer that is neither cancelled nor lost is in one place. -/
theorem run_pending
    {limit start id deadline interval : Nat}
    {log : List Event}
    {service : TimerService Message}
    (run :
      Machine.Run (machine limit Message) (new Message start) log service)
    (scheduled : .scheduled id deadline (some interval) ∈ log)
    (kept : .cancelled id ∉ log)
    (noOverflow : ∀ other, .overflowed other ∉ log) :
    service.poisoned = false ∧ pending id service = 1 :=
  ⟨((run_account run id).2.exact' kept noOverflow).1,
    (timers_accounted run noOverflow).periodicKept scheduled kept⟩

/-- At a scan, a timer that is behind its schedule is due. -/
theorem due_of_behind
    {limit start id created interval pass : Nat}
    {log : List Event}
    {service : TimerService Message}
    (run :
      Machine.Run (machine limit Message) (new Message start) log service)
    (scheduled : .scheduled id (created + interval) (some interval) ∈ log)
    (positive : 0 < interval)
    (kept : .cancelled id ∉ log)
    (noOverflow : ∀ other, .overflowed other ∉ log)
    (scanning : service.position = .scanning pass)
    (behind : firings id log < (pass - created) / interval) :
    1 ≤ entriesOf id (service.timers.filter (isDue pass)) := by
  have pending := (run_pending run scheduled kept noOverflow).2
  simp only [TimerService.pending, scanning, ServicePosition.held,
    List.append_nil] at pending
  have listed : id ∈ service.timers.map TimerEntry.id :=
    List.count_pos_iff.mp (by omega)
  obtain ⟨entry, member, rfl⟩ := List.mem_map.mp listed
  have nominal : (entry.id, entry.scheduledAt) ∈ timetable service := by
    simp only [timetable, nominalTimes, List.map_append, List.mem_append]
    exact .inl (.inl (List.mem_map_of_mem member))
  have next := (run_onSchedule run scheduled).next _ nominal
  have elapsed :
      (firings entry.id log + 1) * interval ≤ pass - created :=
    (Nat.le_div_iff_mul_le positive).mp behind
  have advanced : 0 < (firings entry.id log + 1) * interval :=
    Nat.mul_pos (Nat.succ_pos _) positive
  have due : isDue pass entry = true := by
    simp only [isDue, decide_eq_true_eq]
    omega
  exact List.countP_pos_iff.mpr
    ⟨entry, List.mem_filter.mpr ⟨member, due⟩, by simp⟩

/-- While the clock stands still, every pass fires the tick that is due. -/
theorem run_catchesUp
    {limit start id created interval : Nat}
    {log later : List Event}
    {service final : TimerService Message}
    (run :
      Machine.Run (machine limit Message) (new Message start) log service)
    (scheduled : .scheduled id (created + interval) (some interval) ∈ log)
    (positive : 0 < interval)
    (polling : service.position = .polling)
    (running : Machine.Run (machine limit Message) service later final)
    (still : final.now = service.now)
    (kept : .cancelled id ∉ log ++ later)
    (noOverflow : ∀ other, .overflowed other ∉ log ++ later) :
    (∀ pass, final.position.pass? = some pass → pass = service.now) ∧
      min ((service.now - created) / interval)
          (firings id log + passes later) ≤
        firings id (log ++ later) +
          entriesOf id final.position.unfired := by
  induction running with
  | nil =>
      simp [polling, ServicePosition.pass?, passes]
  | @snoc later events before after label previous last inductionHypothesis =>
      have whole := run.append previous
      rw [← List.append_assoc] at kept noOverflow
      have keptBefore : .cancelled id ∉ log ++ later := fun member =>
        kept (List.mem_append_left events member)
      have noOverflowBefore (other : Nat) :
          .overflowed other ∉ log ++ later := fun member =>
        noOverflow other (List.mem_append_left events member)
      obtain ⟨forward, passing⟩ := step_pass last
      have grows : service.now ≤ before.now :=
        previous.invariant (fun reached => service.now ≤ reached.now)
          (fun earlier step => earlier.trans (step_pass step).1) le_rfl
      have standing : before.now = service.now := by omega
      obtain ⟨passed, caught⟩ :=
        inductionHypothesis standing keptBefore noOverflowBefore
      refine ⟨fun pass shown => ?_, ?_⟩
      · rcases passing pass shown with older | rfl
        · exact passed pass older
        · exact standing
      · have fired :
            firings id (log ++ (later ++ events)) =
              firings id (log ++ later) + firings id events := by
          simp only [firings, List.countP_append, Nat.add_assoc]
        have begun : passes (later ++ events) = passes later + passes events :=
          List.countP_append
        rw [fired, begun]
        cases step_unfired (run_account whole id).1 last with
        | scanned pass scanning found =>
            obtain rfl : pass = service.now :=
              passed pass (by simp [scanning, ServicePosition.pass?])
            simp only [scanning, ServicePosition.unfired, entriesOf,
              List.countP_nil] at caught
            have silent (ids : List Nat) :
                firings id [.extracted ids] = 0 ∧
                  passes [.extracted ids] = 1 := by
              simp [firings, Event.fires, passes]
            rw [(silent _).1, (silent _).2, found]
            by_cases behind :
                firings id (log ++ later) <
                  (service.now - created) / interval
            · have due :=
                due_of_behind whole (List.mem_append_left later scheduled)
                  positive keptBefore noOverflowBefore scanning behind
              omega
            · omega
        | kept unscanned balance =>
            have here := balance id
            omega
        | lost _ _ _ reason =>
            have usable :=
              (run_pending whole (List.mem_append_left later scheduled)
                keptBefore noOverflowBefore).1
            rcases reason with poisoned | ⟨other, overflowed⟩
            · rw [usable] at poisoned
              cases poisoned
            · exact absurd (List.mem_append_right _ overflowed)
                (noOverflow other)

/-- The deadline of every live periodic timer can be moved on. -/
def HasRoom
    (limit : Nat)
    (service : TimerService Message) : Prop :=
  ∀ entry ∈ live service, ∀ interval,
    entry.interval = some interval → service.now + interval ≤ limit

/-- Steps of the service thread alone, while nothing goes wrong. -/
structure Undisturbed
    (limit : Nat)
    (service after : TimerService Message)
    (log : List Event) : Prop where
  run : Machine.Run (machine limit Message) service log after
  sound : Sound after
  room : HasRoom limit after
  still : after.now = service.now
  usable : after.poisoned = false
  sameStop : after.stop = service.stop
  kept : ∀ id, .cancelled id ∉ log
  fitting : ∀ id, .overflowed id ∉ log

namespace Undisturbed

variable {limit : Nat} {service middle after : TimerService Message}
  {log later : List Event}

theorem refl
    (sound : Sound service)
    (room : HasRoom limit service)
    (usable : service.poisoned = false) :
    Undisturbed limit service service [] where
  run := .nil
  sound := sound
  room := room
  still := rfl
  usable := usable
  sameStop := rfl
  kept := by simp
  fitting := by simp

/-- One more step, of a kind that leaves clock and flags alone. -/
theorem snoc
    {events : List Event}
    (earlier : Undisturbed limit service middle log)
    (label : Label Message)
    (step :
      (machine limit Message).step? middle label = some (after, events))
    (still : after.now = middle.now)
    (sameStop : after.stop = middle.stop)
    (ordinary :
      ∀ id, .cancelled id ∉ events ∧ .overflowed id ∉ events ∧
        ∀ deadline interval, .scheduled id deadline interval ∉ events) :
    Undisturbed limit service after (log ++ events) where
  run := .snoc label earlier.run step
  sound := sound_step earlier.sound step
  room := by
    intro entry member interval periodic
    rw [still]
    rcases (step_effect earlier.sound step).live_cases member with
      older | scheduled | ⟨-, before, older, -, same⟩
    · exact earlier.room entry older interval periodic
    · exact absurd scheduled ((ordinary entry.id).2.2 _ _)
    · exact earlier.room before older interval (same.trans periodic)
  still := still.trans earlier.still
  usable :=
    poisoned_step step (fun id => (ordinary id).2.1) earlier.usable
  sameStop := sameStop.trans earlier.sameStop
  kept := by
    intro id member
    rcases List.mem_append.mp member with older | newest
    · exact earlier.kept id older
    · exact (ordinary id).1 newest
  fitting := by
    intro id member
    rcases List.mem_append.mp member with older | newest
    · exact earlier.fitting id older
    · exact (ordinary id).2.1 newest

end Undisturbed

/-- The service thread finishes the first entry of its batch. -/
theorem undisturbed_entry
    {limit pass : Nat}
    {service middle : TimerService Message}
    {log : List Event}
    {entry : TimerEntry Message}
    {rest : List (TimerEntry Message)}
    (earlier : Undisturbed limit service middle log)
    (shape : middle.position = .delivering pass (entry :: rest)) :
    ∃ after later,
      Undisturbed limit service after (log ++ later) ∧
        after.position = .delivering pass rest ∧ passes later = 0 := by
  have position := earlier.sound.position
  rw [shape] at position
  obtain ⟨past, fitting⟩ := position
  obtain ⟨fits, due⟩ := fitting entry List.mem_cons_self
  obtain ⟨message, factory, called, -⟩ := call?_of_fits fits
  have fire :
      (machine limit Message).step? middle .service =
        some ({ middle with
            position :=
              .sending pass { entry with factory := factory } message
                rest },
          [.fired entry.id entry.scheduledAt entry.interval pass
            middle.now]) := by
    simp [machine, serviceStep?, shape, called]
  have fired := earlier.snoc .service fire rfl rfl (by simp)
  cases periodic : entry.interval with
  | none =>
      have returns :
          (machine limit Message).step?
              { middle with
                position :=
                  .sending pass { entry with factory := factory } message
                    rest }
              .sendReturns =
            some ({ middle with position := .delivering pass rest },
              [.delivered entry.id]) := by
        simp [machine, periodic]
      have returned := fired.snoc .sendReturns returns rfl rfl (by simp)
      rw [List.append_assoc] at returned
      exact ⟨_, _, returned, rfl, rfl⟩
  | some interval =>
      have returns :
          (machine limit Message).step?
              { middle with
                position :=
                  .sending pass { entry with factory := factory } message
                    rest }
              .sendReturns =
            some ({ middle with
                position :=
                  .rearming pass { entry with factory := factory }
                    interval rest },
              [.delivered entry.id]) := by
        simp [machine, periodic]
      have roomy : entry.scheduledAt + interval ≤ limit := by
        have room :=
          earlier.room entry (by simp [live, shape, ServicePosition.held])
            interval periodic
        omega
      have rearm :
          (machine limit Message).step?
              { middle with
                position :=
                  .rearming pass { entry with factory := factory }
                    interval rest }
              .service =
            some ({ middle with
                timers := middle.timers ++
                  [{ entry with
                    factory := factory
                    scheduledAt := entry.scheduledAt + interval
                    interval := some interval }]
                position := .delivering pass rest },
              [.rearmed entry.id (entry.scheduledAt + interval)]) := by
        simp [machine, serviceStep?, earlier.usable, addDuration, roomy]
      have returned := fired.snoc .sendReturns returns rfl rfl (by simp)
      have rearmed := returned.snoc .service rearm rfl rfl (by simp)
      rw [List.append_assoc, List.append_assoc] at rearmed
      exact ⟨_, _, rearmed, rfl, rfl⟩

/-- The service thread works through its batch. -/
theorem undisturbed_delivering
    {limit pass : Nat}
    {service middle : TimerService Message}
    {log : List Event}
    {due : List (TimerEntry Message)}
    (earlier : Undisturbed limit service middle log)
    (shape : middle.position = .delivering pass due) :
    ∃ after later,
      Undisturbed limit service after (log ++ later) ∧
        after.position = .delivering pass [] ∧ passes later = 0 := by
  induction due generalizing middle log with
  | nil => exact ⟨middle, [], by simpa using earlier, shape, rfl⟩
  | cons entry rest inductionHypothesis =>
      obtain ⟨next, first, begun, left, none⟩ := undisturbed_entry earlier shape
      obtain ⟨after, later, done, emptied, unscanned⟩ :=
        inductionHypothesis begun left
      rw [List.append_assoc] at done
      refine ⟨after, first ++ later, done, emptied, ?_⟩
      rw [passes, List.countP_append, ← passes, ← passes, none, unscanned]

/-- The service thread makes as many passes as it is given the time for. -/
theorem undisturbed_passes
    {limit : Nat}
    {service : TimerService Message}
    (sound : Sound service)
    (room : HasRoom limit service)
    (usable : service.poisoned = false)
    (polling : service.position = .polling)
    (running : service.stop = false)
    (count : Nat) :
    ∃ after later,
      Undisturbed limit service after later ∧
        after.position = .polling ∧ passes later = count := by
  induction count with
  | zero => exact ⟨service, [], .refl sound room usable, polling, rfl⟩
  | succ count inductionHypothesis =>
      obtain ⟨middle, log, earlier, shape, begun⟩ := inductionHypothesis
      have goesOn : middle.stop = false := earlier.sameStop.trans running
      have poll :
          (machine limit Message).step? middle .service =
            some ({ middle with position := .scanning middle.now }, []) := by
        simp [machine, serviceStep?, shape, goesOn]
      have extract :
          (machine limit Message).step?
              { middle with position := .scanning middle.now } .service =
            some ({ middle with
                timers := (scan middle.now middle.timers).1
                position :=
                  .delivering middle.now (scan middle.now middle.timers).2 },
              [.extracted
                ((scan middle.now middle.timers).2.map TimerEntry.id)]) := by
        simp [machine, serviceStep?, earlier.usable]
      have polled := earlier.snoc .service poll rfl rfl (by simp)
      obtain ⟨after, later, done, emptied, unscanned⟩ :=
        undisturbed_delivering
          (polled.snoc .service extract rfl rfl (by simp)) rfl
      have sleep :
          (machine limit Message).step? after .service =
            some ({ after with position := .polling }, []) := by
        simp [machine, serviceStep?, emptied]
      refine ⟨_, _, done.snoc .service sleep rfl rfl (by simp), rfl, ?_⟩
      have parts (first second : List Event) :
          passes (first ++ second) = passes first + passes second :=
        List.countP_append
      have one (ids : List Nat) : passes [.extracted ids] = 1 := by
        simp [passes]
      rw [parts, parts, parts, parts, begun, unscanned, one]
      rfl

/-- A periodic timer ticks at its nominal times, never early, never twice in a
pass, and never more often than intervals have passed. -/
structure KeepsTime
    (id created interval : Nat)
    (log : List Event)
    (service : TimerService Message) : Prop where
  nominal :
    ∀ k deadline pass, (ticks id log)[k]? = some (deadline, pass) →
      deadline = created + (k + 1) * interval ∧ deadline ≤ pass
  atMost :
    ∀ pass, service.position.pass? = some pass →
      (ticks id log).length ≤ (pass - created) / interval
  atMostNow : (ticks id log).length ≤ (service.now - created) / interval
  oncePerPass :
    ∀ earlier current, log = earlier ++ current → passes current = 0 →
      (ticks id current).length ≤ 1

/--
Every periodic timer keeps time over every run.  While the clock stands still,
enough passes fire all ticks that are due, and so many passes can be made.
-/
theorem periodic_keeps_time
    {limit start id created interval : Nat}
    {log : List Event}
    {service : TimerService Message}
    (run :
      Machine.Run (machine limit Message) (new Message start) log service)
    (scheduled : .scheduled id (created + interval) (some interval) ∈ log)
    (positive : 0 < interval) :
    KeepsTime id created interval log service ∧
      (service.position = .polling →
        (∀ later final,
          Machine.Run (machine limit Message) service later final →
          final.position = .polling →
          final.now = service.now →
          .cancelled id ∉ log ++ later →
          (∀ other, .overflowed other ∉ log ++ later) →
          (service.now - created) / interval ≤
              (ticks id log).length + passes later →
          (ticks id (log ++ later)).length =
            (service.now - created) / interval) ∧
          (HasRoom limit service →
            service.poisoned = false →
            service.stop = false →
            ∀ count, ∃ final later,
              Undisturbed limit service final later ∧
                final.position = .polling ∧ passes later = count)) := by
  have onSchedule := run_onSchedule run scheduled
  refine ⟨{ nominal := onSchedule.ticks
            atMost := fun pass during => ?_
            atMostNow := ?_
            oncePerPass := fun earlier current shape unscanned => ?_ },
    fun polling => ⟨?_, fun room usable goesOn =>
      undisturbed_passes (run_account run id).1 room usable polling goesOn⟩⟩
  · rw [length_ticks]
    exact onSchedule.firings_le positive fun deadline past member =>
      (onSchedule.passed deadline past member).2 pass during
  · rw [length_ticks]
    exact onSchedule.firings_le positive fun deadline past member =>
      (onSchedule.passed deadline past member).1
  · rw [length_ticks]
    have once := run_tickPerPass run id earlier current shape unscanned
    omega
  · intro later final running idle still kept noOverflow enough
    have caught :=
      (run_catchesUp run scheduled positive polling running still kept
        noOverflow).2
    have after :=
      run_onSchedule (run.append running)
        (List.mem_append_left later scheduled)
    have atMost :=
      after.firings_le positive fun deadline past member =>
        (after.passed deadline past member).1
    rw [still] at atMost
    simp only [idle, ServicePosition.unfired, entriesOf, List.countP_nil]
      at caught
    rw [length_ticks] at enough ⊢
    omega

/-- A periodic timer, and a clock that is two intervals late. -/
def lateClock : List (Label String) :=
  [.newId (.handleInterval 5 ⟨1⟩ "tick"), .insert 0, .clock 12]

/-- A pass that finds one periodic timer due. -/
def tickingPass : List (Label String) :=
  [.service, .service, .service, .sendReturns, .service, .service]

theorem periodic_keeps_time_late :
    ∃ service final log later,
      (machine 1000 String).run? (new String 0) lateClock =
          some (service, log) ∧
        (machine 1000 String).run? service (tickingPass ++ tickingPass) =
          some (final, later) ∧
        ticks 0 (log ++ later) = [(5, 12), (10, 12)] ∧
        KeepsTime 0 0 5 log service ∧
        (ticks 0 (log ++ later)).length = (service.now - 0) / 5 := by
  obtain ⟨service, final, log, later, late, passed, logged, polling, idle,
      still, shown⟩ :
      ∃ service final log later,
        (machine 1000 String).run? (new String 0) lateClock =
            some (service, log) ∧
          (machine 1000 String).run? service (tickingPass ++ tickingPass) =
            some (final, later) ∧
          log = [.scheduled 0 5 (some 5)] ∧
          service.position = .polling ∧
          final.position = .polling ∧
          (service.now = 12 ∧ final.now = 12) ∧
          later =
            [.extracted [0], .fired 0 5 (some 5) 12 12, .delivered 0,
              .rearmed 0 10, .extracted [0], .fired 0 10 (some 5) 12 12,
              .delivered 0, .rearmed 0 15] :=
    ⟨_, _, _, _, rfl, rfl, rfl, rfl, rfl, ⟨rfl, rfl⟩, rfl⟩
  obtain ⟨keeps, caughtUp⟩ :=
    periodic_keeps_time (Machine.run?_sound _ late)
      (show .scheduled 0 (0 + 5) (some 5) ∈ log by simp [logged])
      (by decide)
  refine ⟨service, final, log, later, late, passed, ?_, keeps,
    (caughtUp polling).1 later final (Machine.run?_sound _ passed) idle
      (still.2.trans still.1.symm) (by simp [logged, shown])
      (by simp [logged, shown]) ?_⟩
  · rw [logged, shown]
    rfl
  · rw [still.1, logged, shown]
    decide

end TimerService

end Runact
