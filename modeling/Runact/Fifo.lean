import Runact.Machine

namespace Runact

/-!
# First-in first-out queues

The abstract queue behind every channel and every run queue: items enter at the
back, leave at the front, and the whole content can be discarded once, after
which the queue is closed.  The history law relates what entered, what left and
what is still queued; programs inherit it through a simulation.
-/

universe u

/-- The content of a queue, and whether it still accepts items. -/
structure Fifo (α : Type u) where
  items : List α
  accepting : Bool := true
  deriving DecidableEq

namespace Fifo

variable {α : Type u}

/-- The queue operations, as scheduling choices. -/
inductive Label (α : Type u) where
  | put (item : α)
  | take
  | discard

/-- What an observer of the queue sees. -/
inductive Event (α : Type u) where
  | entered (item : α)
  | left (item : α)
  | discarded

namespace Event

/-- The item that entered, if this is an entry. -/
def entered? : Event α → Option α
  | .entered item => some item
  | _ => none

/-- The item that left, if this is a departure. -/
def left? : Event α → Option α
  | .left item => some item
  | _ => none

end Event

/-- Items in the order in which they entered. -/
def enteredItems (log : List (Event α)) : List α :=
  log.filterMap Event.entered?

/-- Items in the order in which they left. -/
def leftItems (log : List (Event α)) : List α :=
  log.filterMap Event.left?

@[simp] theorem enteredItems_append (first later : List (Event α)) :
    enteredItems (first ++ later) =
      enteredItems first ++ enteredItems later :=
  List.filterMap_append

@[simp] theorem leftItems_append (first later : List (Event α)) :
    leftItems (first ++ later) = leftItems first ++ leftItems later :=
  List.filterMap_append

theorem enteredItems_flatMap
    {Step : Type u}
    (steps : List Step)
    (shown : Step → List (Event α)) :
    enteredItems (steps.flatMap shown) =
      steps.flatMap fun step => enteredItems (shown step) :=
  List.filterMap_flatMap

theorem leftItems_flatMap
    {Step : Type u}
    (steps : List Step)
    (shown : Step → List (Event α)) :
    leftItems (steps.flatMap shown) =
      steps.flatMap fun step => leftItems (shown step) :=
  List.filterMap_flatMap

@[simp] theorem enteredItems_nil :
    enteredItems ([] : List (Event α)) = [] :=
  rfl

@[simp] theorem leftItems_nil :
    leftItems ([] : List (Event α)) = [] :=
  rfl

@[simp] theorem enteredItems_entered (item : α) :
    enteredItems [.entered item] = [item] :=
  rfl

@[simp] theorem enteredItems_left (item : α) :
    enteredItems [.left item] = [] :=
  rfl

@[simp] theorem enteredItems_discarded :
    enteredItems ([.discarded] : List (Event α)) = [] :=
  rfl

@[simp] theorem leftItems_entered (item : α) :
    leftItems [.entered item] = [] :=
  rfl

@[simp] theorem leftItems_left (item : α) :
    leftItems [.left item] = [item] :=
  rfl

@[simp] theorem leftItems_discarded :
    leftItems ([.discarded] : List (Event α)) = [] :=
  rfl

@[simp] theorem enteredItems_map_entered (items : List α) :
    enteredItems (items.map Event.entered) = items := by
  simp [enteredItems, List.filterMap_map, Function.comp_def, Event.entered?]

@[simp] theorem enteredItems_map_left (items : List α) :
    enteredItems (items.map Event.left) = [] := by
  simp [enteredItems, Event.entered?]

@[simp] theorem leftItems_map_left (items : List α) :
    leftItems (items.map Event.left) = items := by
  simp [leftItems, List.filterMap_map, Function.comp_def, Event.left?]

@[simp] theorem leftItems_map_entered (items : List α) :
    leftItems (items.map Event.entered) = [] := by
  simp [leftItems, Event.left?]

/-- The queue machine. -/
def machine (α : Type u) : Machine (Fifo α) (Label α) (Event α) where
  step?
    | queue, .put item =>
        if queue.accepting then
          some ({ queue with items := queue.items ++ [item] },
            [.entered item])
        else
          none
    | queue, .take =>
        match queue.items with
        | [] => none
        | item :: rest => some ({ queue with items := rest }, [.left item])
    | queue, .discard =>
        if queue.accepting then
          some ({ items := [], accepting := false }, [.discarded])
        else
          none

/-- An open queue takes one item at the back. -/
theorem run_put
    (items : List α)
    (item : α) :
    Machine.Run (machine α) { items := items }
      [.entered item] { items := items ++ [item] } :=
  .single (.put item) rfl

/-- A nonempty queue gives its front item. -/
theorem run_take
    (item : α)
    (rest : List α)
    (accepting : Bool) :
    Machine.Run (machine α) { items := item :: rest, accepting := accepting }
      [.left item] { items := rest, accepting := accepting } :=
  .single .take rfl

/-- An open queue can be thrown away. -/
theorem run_discard (items : List α) :
    Machine.Run (machine α) { items := items }
      [.discarded] { items := [], accepting := false } :=
  .single .discard rfl

/-- A leading block of the queue leaves item by item, in order. -/
theorem run_takeBlock
    (block rest : List α)
    (accepting : Bool) :
    Machine.Run (machine α)
      { items := block ++ rest, accepting := accepting }
      (block.map Event.left)
      { items := rest, accepting := accepting } := by
  induction block with
  | nil =>
      exact .nil
  | cons item later inductionHypothesis =>
      exact (run_take item (later ++ rest) accepting).append
        inductionHypothesis

/--
What a queue has to say about its past: as long as it is open, what it held at
first and everything that entered is everything that left followed by what it
holds now.
-/
def Accounts
    (initial : Fifo α)
    (log : List (Event α))
    (queue : Fifo α) : Prop :=
  (queue.accepting = true →
      initial.items ++ enteredItems log = leftItems log ++ queue.items) ∧
    ∃ unseen,
      initial.items ++ enteredItems log =
        leftItems log ++ queue.items ++ unseen

/-- One queue operation keeps the account. -/
theorem accounts_step
    {initial before after : Fifo α}
    {log events : List (Event α)}
    {label : Label α}
    (accounts : Accounts initial log before)
    (step : (machine α).step? before label = some (after, events)) :
    Accounts initial (log ++ events) after := by
  obtain ⟨whileOpen, unseen, always⟩ := accounts
  cases label with
  | put item =>
      simp only [machine, Option.ite_none_right_eq_some, Option.some.injEq,
        Prod.mk.injEq] at step
      obtain ⟨accepting, rfl, rfl⟩ := step
      have extended :
          initial.items ++ enteredItems (log ++ [.entered item]) =
            leftItems (log ++ [.entered item]) ++
              (before.items ++ [item]) := by
        rw [enteredItems_append, ← List.append_assoc,
          whileOpen accepting]
        simp
      exact ⟨fun _ => extended, [], by simpa using extended⟩
  | take =>
      cases shape : before.items with
      | nil =>
          simp [machine, shape] at step
      | cons item rest =>
          simp only [machine, shape, Option.some.injEq,
            Prod.mk.injEq] at step
          obtain ⟨rfl, rfl⟩ := step
          rw [shape] at whileOpen always
          exact ⟨fun accepting => by simpa using whileOpen accepting,
            unseen, by simpa using always⟩
  | discard =>
      simp only [machine, Option.ite_none_right_eq_some, Option.some.injEq,
        Prod.mk.injEq] at step
      obtain ⟨accepting, rfl, rfl⟩ := step
      exact ⟨fun accepting => by simp at accepting,
        before.items ++ unseen, by simpa using always⟩

/-- The history law of a queue, over any run. -/
theorem run_accounts
    {initial queue : Fifo α}
    {log : List (Event α)}
    (run : Machine.Run (machine α) initial log queue) :
    Accounts initial log queue :=
  run.history (Accounts initial) accounts_step
    ⟨fun _ => by simp, [], by simp⟩

end Fifo

end Runact
