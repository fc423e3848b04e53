import Runact.Mailbox

namespace Runact.Mailbox

/-!
# Wakeups of the blocking mailbox

`send` notifies a waiter after it has pushed; `receive` and `try_receive` notify
nobody after they have made space.  So a receiver is always woken for a message,
and a sender that waits for space is lost as soon as a message is taken.
-/

universe u

variable {Message : Type u}

/-- Somebody waits for space. -/
def senderWaits (mailbox : Mailbox Message) : Bool :=
  mailbox.waiting.any fun waiter =>
    match waiter with
    | .sender _ => true
    | .receiver => false

/-- Unless a notified thread has yet to resume, no sender waits below the
capacity, and no receiver while there is a message. -/
def NoLostWakeup (mailbox : Mailbox Message) : Prop :=
  mailbox.notified = [] →
    (∀ message,
        .sender message ∈ mailbox.waiting →
        mailbox.config.capacity ≤ mailbox.queue.length) ∧
      (.receiver ∈ mailbox.waiting → mailbox.queue = [])

/-- The step takes a message out of the queue. -/
def takes (mailbox : Mailbox Message) : Label Message → Bool
  | .send _ _ => false
  | .receive => !mailbox.queue.isEmpty
  | .tryReceive => !mailbox.queue.isEmpty
  | .resume index _ =>
      match mailbox.notified[index]? with
      | some .receiver => !mailbox.queue.isEmpty
      | _ => false

/-- Nobody is notified but the thread whose step this is. -/
def onlyAwake (mailbox : Mailbox Message) : Label Message → Bool
  | .resume _ _ => mailbox.notified.length == 1
  | _ => mailbox.notified.isEmpty

/-- No message is taken while a sender waits for space. -/
def sparesSenders
    (mailbox : Mailbox Message)
    (label : Label Message) : Bool :=
  !(mailbox.takes label && mailbox.senderWaits)

/-- Every waiting receiver has a notified one for each message in the queue, and
every waiting sender finds the queue full. -/
structure Awake
    (config : MailboxConfig)
    (mailbox : Mailbox Message) : Prop where
  sameConfig : mailbox.config = config
  bounded : mailbox.queue.length ≤ config.capacity
  senders :
    mailbox.senderWaits = true → mailbox.queue.length = config.capacity
  receivers :
    .receiver ∈ mailbox.waiting →
      mailbox.queue.length ≤ mailbox.notified.length
  notified : ∀ waiter ∈ mailbox.notified, waiter = .receiver

theorem senderWaits_iff {mailbox : Mailbox Message} :
    mailbox.senderWaits = true ↔
      ∃ message, .sender message ∈ mailbox.waiting := by
  simp only [senderWaits, List.any_eq_true]
  constructor
  · rintro ⟨waiter, member, waits⟩
    cases waiter with
    | sender message => exact ⟨message, member⟩
    | receiver => cases waits
  · rintro ⟨message, member⟩
    exact ⟨.sender message, member, rfl⟩

namespace Awake

variable {config : MailboxConfig} {mailbox after : Mailbox Message}
  {events : List (MailboxEvent Message)}

theorem new (Message : Type u) (config : MailboxConfig) :
    Awake config (Mailbox.new Message config) where
  sameConfig := rfl
  bounded := Nat.zero_le _
  senders waits := by cases waits
  receivers member := by cases member
  notified waiter member := by cases member

/-- Where no wakeup is to come, nobody waits in vain. -/
theorem noLostWakeup (awake : Awake config mailbox) : NoLostWakeup mailbox := by
  intro none
  refine ⟨fun message member => ?_, fun member => ?_⟩
  · have full := awake.senders (senderWaits_iff.mpr ⟨message, member⟩)
    rw [awake.sameConfig, full]
  · have covered := awake.receivers member
    rw [none] at covered
    exact List.length_eq_zero_iff.mp (Nat.le_zero.mp covered)

/-- A sender waits where the queue is full. -/
theorem waitSender
    (awake : Awake config mailbox)
    (message : Message)
    (full : config.capacity ≤ mailbox.queue.length) :
    Awake config (mailbox.wait (.sender message)) where
  sameConfig := awake.sameConfig
  bounded := awake.bounded
  senders _ := Nat.le_antisymm awake.bounded full
  receivers member := awake.receivers (by simpa [wait] using member)
  notified := awake.notified

/-- A receiver waits where the queue is empty. -/
theorem waitReceiver
    (awake : Awake config mailbox)
    (empty : mailbox.queue = []) :
    Awake config (mailbox.wait .receiver) where
  sameConfig := awake.sameConfig
  bounded := awake.bounded
  senders waits := awake.senders (by simpa [senderWaits, wait] using waits)
  receivers _ := by simp [wait, empty]
  notified := awake.notified

/-- Below the capacity only receivers wait, so a push wakes a receiver. -/
theorem push
    {message : Message}
    {wakes : Nat}
    (awake : Awake config mailbox)
    (space : mailbox.queue.length < config.capacity)
    (pushed : mailbox.push message wakes = some (after, events)) :
    Awake config after := by
  have noSender : mailbox.senderWaits = false := by
    by_contra waits
    have full := awake.senders (by simpa using waits)
    omega
  have onlyReceivers (waiter) (member : waiter ∈ mailbox.waiting) :
      waiter = .receiver := by
    cases waiter with
    | sender message =>
        rw [senderWaits_iff.mpr ⟨message, member⟩] at noSender
        cases noSender
    | receiver => rfl
  simp only [Mailbox.push, Option.map_eq_some_iff, Prod.mk.injEq] at pushed
  obtain ⟨_, notifies, rfl, -⟩ := pushed
  simp only [notifyOne] at notifies
  cases found : mailbox.waiting[wakes]? with
  | some waiter =>
      simp only [found, Option.some.injEq] at notifies
      subst notifies
      have member := List.mem_of_getElem? found
      obtain rfl := onlyReceivers waiter member
      exact
        { sameConfig := awake.sameConfig
          bounded := by simpa using space
          senders := fun waits => by
            obtain ⟨message, still⟩ := senderWaits_iff.mp waits
            cases onlyReceivers _ (List.mem_of_mem_eraseIdx still)
          receivers := fun _ => by simpa using awake.receivers member
          notified := fun waiter member => by
            rcases List.mem_append.mp member with older | newest
            · exact awake.notified waiter older
            · exact List.mem_singleton.mp newest }
  | none =>
      simp only [found, Option.ite_none_right_eq_some, Option.some.injEq,
        List.isEmpty_iff] at notifies
      obtain ⟨nobody, rfl⟩ := notifies
      exact
        { sameConfig := awake.sameConfig
          bounded := by simpa using space
          senders := fun waits => by simp [senderWaits, nobody] at waits
          receivers := fun member => by simp [nobody] at member
          notified := awake.notified }

/-- The loop of `send` waits at the capacity and pushes below it. -/
theorem waitForSpace
    {message : Message}
    {wakes : Nat}
    (awake : Awake config mailbox)
    (sent : mailbox.waitForSpace message wakes = some (after, events)) :
    Awake config after := by
  simp only [Mailbox.waitForSpace, awake.sameConfig] at sent
  split at sent
  · rename_i full
    simp only [Option.some.injEq, Prod.mk.injEq] at sent
    obtain ⟨rfl, -⟩ := sent
    exact awake.waitSender message full
  · rename_i space
    exact awake.push (by omega) sent

/-- Nobody loses a message that is taken while no sender waits. -/
theorem take
    {message : Message}
    {rest : List Message}
    (awake : Awake config mailbox)
    (spared : mailbox.senderWaits = false)
    (queue : mailbox.queue = message :: rest) :
    Awake config { mailbox with queue := rest } := by
  have shorter : rest.length + 1 = mailbox.queue.length := by simp [queue]
  have bounded := awake.bounded
  exact
    { sameConfig := awake.sameConfig
      bounded := by
        simp only
        omega
      senders := fun waits => by
        have same : mailbox.senderWaits = true := waits
        rw [spared] at same
        cases same
      receivers := fun member => by
        have covered := awake.receivers member
        simp only
        omega
      notified := awake.notified }

/-- `send` under the policy `Block`. -/
theorem send
    {message : Message}
    {wakes : Nat}
    (blocks : config.backpressure = .block)
    (awake : Awake config mailbox)
    (sent : mailbox.send message wakes = some (after, events)) :
    Awake config after := by
  simp only [Mailbox.send, awake.sameConfig, blocks] at sent
  split at sent
  · exact awake.waitForSpace sent
  · rename_i space
    exact awake.push (by omega) sent

/-- `receive` while no sender waits, or with the queue empty. -/
theorem receive
    (awake : Awake config mailbox)
    (spared : mailbox.queue = [] ∨ mailbox.senderWaits = false) :
    Awake config mailbox.receive.1 := by
  unfold Mailbox.receive
  split
  · rename_i message rest queue
    obtain empty | spared := spared
    · rw [queue] at empty
      cases empty
    · exact awake.take spared queue
  · rename_i empty
    exact awake.waitReceiver empty

/-- `try_receive` while no sender waits, or with the queue empty. -/
theorem tryReceive
    (awake : Awake config mailbox)
    (spared : mailbox.queue = [] ∨ mailbox.senderWaits = false) :
    Awake config mailbox.tryReceive.1 := by
  unfold Mailbox.tryReceive
  cases queue : mailbox.queue with
  | nil =>
      have same : { mailbox with queue := [] } = mailbox := by
        rw [← queue]
      rw [List.tail_nil, same]
      exact awake
  | cons message rest =>
      obtain empty | spared := spared
      · rw [queue] at empty
        cases empty
      · exact awake.take spared queue

/-- A resumed receiver gives up its wakeup, with a message or with an empty
queue. -/
theorem resume
    {index wakes : Nat}
    (awake : Awake config mailbox)
    (spared : mailbox.queue = [] ∨ mailbox.senderWaits = false)
    (resumed : mailbox.resume index wakes = some (after, events)) :
    Awake config after := by
  unfold Mailbox.resume at resumed
  cases found : mailbox.notified[index]? with
  | none =>
      simp [found] at resumed
  | some waiter =>
      have inside := (List.getElem?_eq_some_iff.mp found).1
      obtain rfl := awake.notified waiter (List.mem_of_getElem? found)
      simp only [found, Option.some.injEq] at resumed
      have notified (waiter)
          (member : waiter ∈ mailbox.notified.eraseIdx index) :
          waiter = .receiver :=
        awake.notified waiter (List.mem_of_mem_eraseIdx member)
      have fewer :
          (mailbox.notified.eraseIdx index).length + 1 =
            mailbox.notified.length := by
        rw [List.length_eraseIdx_of_lt inside]
        omega
      cases queue : mailbox.queue with
      | nil =>
          have bounded := awake.bounded
          have rests :
              Awake config
                { mailbox with
                  notified := mailbox.notified.eraseIdx index } :=
            { sameConfig := awake.sameConfig
              bounded := bounded
              senders := awake.senders
              receivers := fun _ => by simp [queue]
              notified := notified }
          have kept := rests.receive (.inl queue)
          rwa [resumed] at kept
      | cons message rest =>
          obtain empty | spared := spared
          · rw [queue] at empty
            cases empty
          · have taken := awake.take spared queue
            have shorter : rest.length + 1 = mailbox.queue.length := by
              simp [queue]
            simp only [Mailbox.receive, queue, Prod.mk.injEq] at resumed
            obtain ⟨rfl, -⟩ := resumed
            exact
              { sameConfig := taken.sameConfig
                bounded := taken.bounded
                senders := taken.senders
                receivers := fun member => by
                  have covered := awake.receivers member
                  simp only
                  omega
                notified := notified }

/-- Every step that takes nothing from waiting senders keeps everybody awake. -/
theorem step
    {label : Label Message}
    (blocks : config.backpressure = .block)
    (awake : Awake config mailbox)
    (spares : mailbox.sparesSenders label = true)
    (taken : (machine Message).step? mailbox label = some (after, events)) :
    Awake config after := by
  have spared (takes : mailbox.takes label = !mailbox.queue.isEmpty) :
      mailbox.queue = [] ∨ mailbox.senderWaits = false := by
    simp only [sparesSenders, takes] at spares
    cases queue : mailbox.queue with
    | nil => exact .inl rfl
    | cons message rest => exact .inr (by simpa [queue] using spares)
  cases label with
  | send message wakes => exact awake.send blocks taken
  | receive =>
      have kept := awake.receive (spared rfl)
      simp only [machine, Option.some.injEq] at taken
      rwa [taken] at kept
  | tryReceive =>
      have kept := awake.tryReceive (spared rfl)
      simp only [machine, Option.some.injEq] at taken
      rwa [taken] at kept
  | resume index wakes =>
      refine awake.resume (spared ?_) taken
      cases found : mailbox.notified[index]? with
      | none =>
          simp [machine, Mailbox.resume, found] at taken
      | some waiter =>
          obtain rfl := awake.notified waiter (List.mem_of_getElem? found)
          simp [takes, found]

end Awake

/-- Over every run that takes nothing from waiting senders, everybody is kept
awake. -/
theorem run_awake
    {config : MailboxConfig}
    {log : List (MailboxEvent Message)}
    {mailbox : Mailbox Message}
    (blocks : config.backpressure = .block)
    (run :
      Machine.Run ((machine Message).restrict sparesSenders)
        (new Message config) log mailbox) :
    Awake config mailbox := by
  refine run.invariant (Awake config)
    (fun {before label after events} awake step => ?_) (.new Message config)
  obtain ⟨spares, taken⟩ := Machine.restrict_step_iff.mp step
  exact awake.step blocks spares taken

/-- A step that takes a message leaves the waiters as they are, and no other
wakeup than there was. -/
theorem takes_spec
    {mailbox after : Mailbox Message}
    {label : Label Message}
    {events : List (MailboxEvent Message)}
    (takes : mailbox.takes label = true)
    (step : (machine Message).step? mailbox label = some (after, events)) :
    mailbox.queue ≠ [] ∧
      after.queue = mailbox.queue.tail ∧
      after.waiting = mailbox.waiting ∧
      after.config = mailbox.config ∧
      (after.notified = [] ↔ mailbox.onlyAwake label = true) := by
  cases queue : mailbox.queue with
  | nil =>
      cases label with
      | resume index wakes =>
          simp only [Mailbox.takes, queue] at takes
          split at takes <;> cases takes
      | _ => simp [Mailbox.takes, queue] at takes
  | cons message rest =>
      cases label with
      | send message wakes => cases takes
      | receive =>
          simp only [machine, receive, queue, Option.some.injEq,
            Prod.mk.injEq] at step
          obtain ⟨rfl, -⟩ := step
          simp [onlyAwake]
      | tryReceive =>
          simp only [machine, tryReceive, queue, Option.some.injEq,
            Prod.mk.injEq] at step
          obtain ⟨rfl, -⟩ := step
          simp [onlyAwake]
      | resume index wakes =>
          simp only [Mailbox.takes] at takes
          split at takes
          · rename_i found
            have inside := (List.getElem?_eq_some_iff.mp found).1
            simp only [machine, resume, found, receive, queue,
              Option.some.injEq, Prod.mk.injEq] at step
            obtain ⟨rfl, -⟩ := step
            refine ⟨by simp, rfl, rfl, rfl, ?_⟩
            rw [← List.length_eq_zero_iff, List.length_eraseIdx_of_lt inside]
            simp only [onlyAwake, beq_iff_eq]
            omega
          · cases takes

/--
As long as nobody takes a message while a sender waits for space, no wakeup is
lost.  The first such step loses one, unless another notified thread has yet to
resume.
-/
theorem no_wakeup_lost_iff
    {config : MailboxConfig}
    {log : List (MailboxEvent Message)}
    {mailbox : Mailbox Message}
    (blocks : config.backpressure = .block)
    (run :
      Machine.Run ((machine Message).restrict sparesSenders)
        (new Message config) log mailbox) :
    NoLostWakeup mailbox ∧
      ∀ {label after events},
        (machine Message).step? mailbox label = some (after, events) →
        (NoLostWakeup after ↔
          ¬ (mailbox.takes label = true ∧ mailbox.senderWaits = true ∧
            mailbox.onlyAwake label = true)) := by
  have awake := run_awake blocks run
  refine ⟨awake.noLostWakeup, fun {label after events} step => ?_⟩
  constructor
  · rintro kept ⟨takes, waits, only⟩
    obtain ⟨nonempty, sameTail, sameWaiting, sameConfig, none⟩ :=
      takes_spec takes step
    obtain ⟨message, member⟩ := senderWaits_iff.mp waits
    have full := (kept (none.mpr only)).1 message (sameWaiting ▸ member)
    have bounded := awake.bounded
    rw [sameTail, sameConfig, awake.sameConfig, List.length_tail] at full
    have positive := List.length_pos_of_ne_nil nonempty
    omega
  · intro fine
    by_cases spares : mailbox.sparesSenders label = true
    · exact (awake.step blocks spares step).noLostWakeup
    · simp only [sparesSenders, Bool.not_eq_true', Bool.not_eq_false,
        Bool.and_eq_true] at spares
      intro none
      obtain ⟨-, -, -, -, alone⟩ := takes_spec spares.1 step
      exact (fine ⟨spares.1, spares.2, alone.mp none⟩).elim

/-- Capacity one, policy `Block`. -/
def oneSlot : MailboxConfig where
  capacity := 1
  backpressure := .block

/-- A receiver waits, a message is sent, and the receiver resumes with it. -/
theorem no_wakeup_lost_iff_received :
    ∃ mailbox log,
      ((machine Nat).restrict sparesSenders).run? (new Nat oneSlot)
          [.receive, .send 5 0, .resume 0 0] = some (mailbox, log) ∧
        log = [.sent (.ok ()), .received 5] ∧
        NoLostWakeup mailbox := by
  obtain ⟨mailbox, log, executed, shown⟩ :
      ∃ mailbox log,
        ((machine Nat).restrict sparesSenders).run? (new Nat oneSlot)
            [.receive, .send 5 0, .resume 0 0] = some (mailbox, log) ∧
          log = [.sent (.ok ()), .received 5] :=
    ⟨_, _, rfl, rfl⟩
  exact ⟨mailbox, log, executed, shown,
    (no_wakeup_lost_iff rfl (Machine.run?_sound _ executed)).1⟩

/-- One sender fills the mailbox, a second one waits, and the only message is
received: the second sender stays waiting with the queue empty. -/
theorem sender_not_woken :
    ∃ mailbox log,
      (machine Nat).run? (new Nat oneSlot)
          [.send 1 0, .send 2 0, .receive] = some (mailbox, log) ∧
        log = [.sent (.ok ()), .received 1] ∧
        mailbox.waiting = [.sender 2] ∧
        mailbox.queue = [] ∧
        ¬ NoLostWakeup mailbox := by
  obtain ⟨mailbox, log, executed, shown, waiting, queue, notified, config⟩ :
      ∃ mailbox log,
        (machine Nat).run? (new Nat oneSlot)
            [.send 1 0, .send 2 0, .receive] = some (mailbox, log) ∧
          log = [.sent (.ok ()), .received 1] ∧
          mailbox.waiting = [.sender 2] ∧
          mailbox.queue = [] ∧
          mailbox.notified = [] ∧
          mailbox.config = oneSlot :=
    ⟨_, _, rfl, rfl, rfl, rfl, rfl, rfl⟩
  refine ⟨mailbox, log, executed, shown, waiting, queue, fun kept => ?_⟩
  have full := (kept notified).1 2 (by simp [waiting])
  rw [config, queue] at full
  exact absurd full (by decide)

end Runact.Mailbox
