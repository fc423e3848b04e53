import Mathlib.Data.List.AList
import Runact.Basic

namespace Runact

/-!
# The resource registry

The registry keeps one capability for each type of resource handle, in a map of
type-erased boxes under the type of the handle.  The map alone does not tie a
key to what is in its box; that the box under `H` always is a `Capability<H>`
is the invariant that makes it a family of typed slots.  A call holds the lock
of the map throughout, so the calls of all threads come one after the other.
-/

universe u v

/-- `Capability`; the handle is shared and only read. -/
structure Capability (Handle : Type v) where
  owner : ActorId
  sharedHandle : Handle
  deriving DecidableEq, Repr

namespace Capability

variable {Handle : Type v}

/-- `Capability::new`. -/
def new (owner : ActorId) (handle : Handle) : Capability Handle where
  owner := owner
  sharedHandle := handle

/-- `Capability::handle`. -/
def handle (capability : Capability Handle) : Handle :=
  capability.sharedHandle

/-- `Capability::clone`. -/
def clone (capability : Capability Handle) : Capability Handle where
  owner := capability.owner
  sharedHandle := capability.sharedHandle

@[simp] theorem clone_eq (capability : Capability Handle) :
    capability.clone = capability :=
  rfl

end Capability

/-- `Box<dyn Any + Send + Sync>`: some capability, and the type of its handle,
which tells the type of the box. -/
structure AnyCapability {Ty : Type u} (Handle : Ty → Type v) where
  handleType : Ty
  capability : Capability (Handle handleType)

namespace AnyCapability

variable {Ty : Type u} [DecidableEq Ty] {Handle : Ty → Type v}

/-- `downcast::<Capability<H>>`, and `downcast_ref`. -/
def downcast
    (type : Ty)
    (box : AnyCapability Handle) : Option (Capability (Handle type)) :=
  if same : box.handleType = type then
    some (same ▸ box.capability)
  else
    none

@[simp] theorem downcast_self
    {type : Ty}
    (capability : Capability (Handle type)) :
    downcast type { handleType := type, capability := capability } =
      some capability := by
  simp [downcast]

end AnyCapability

/-- `ResourceRegistry`. -/
structure ResourceRegistry {Ty : Type u} (Handle : Ty → Type v) where
  resources : AList (fun _ : Ty => AnyCapability Handle)

namespace ResourceRegistry

variable {Ty : Type u} [DecidableEq Ty] {Handle : Ty → Type v}

/-- `ResourceRegistry::new`. -/
def new : ResourceRegistry Handle where
  resources := ∅

/-- `ResourceRegistry::register`. -/
def register
    (registry : ResourceRegistry Handle)
    (type : Ty)
    (capability : Capability (Handle type)) : ResourceRegistry Handle where
  resources :=
    registry.resources.insert type
      { handleType := type, capability := capability }

/-- `ResourceRegistry::get`. -/
def get
    (registry : ResourceRegistry Handle)
    (type : Ty) : Option (Capability (Handle type)) :=
  ((registry.resources.lookup type).bind
    (AnyCapability.downcast type)).map Capability.clone

/-- `ResourceRegistry::remove`: the entry is gone before its box is looked
at. -/
def remove
    (registry : ResourceRegistry Handle)
    (type : Ty) : Option (Capability (Handle type)) × ResourceRegistry Handle :=
  let removed := registry.resources.extract type
  (removed.1.bind (AnyCapability.downcast type), { resources := removed.2 })

/-- `ResourceRegistry::has`. -/
def has (registry : ResourceRegistry Handle) (type : Ty) : Bool :=
  decide (type ∈ registry.resources)

/-- A call of the registry, at a type of handles. -/
inductive Call {Ty : Type u} (Handle : Ty → Type v) where
  | register (type : Ty) (capability : Capability (Handle type))
  | get (type : Ty)
  | remove (type : Ty)
  | has (type : Ty)

/-- A call with its answer. -/
inductive Event {Ty : Type u} (Handle : Ty → Type v) where
  | registered (type : Ty) (capability : Capability (Handle type))
  | got (type : Ty) (answer : Option (Capability (Handle type)))
  | removed (type : Ty) (answer : Option (Capability (Handle type)))
  | had (type : Ty) (answer : Bool)

/-- The registry, called by anybody. -/
def machine (Handle : Ty → Type v) :
    Machine (ResourceRegistry Handle) (Call Handle) (Event Handle) where
  step?
    | registry, .register type capability =>
        some (registry.register type capability,
          [.registered type capability])
    | registry, .get type => some (registry, [.got type (registry.get type)])
    | registry, .remove type =>
        some ((registry.remove type).2,
          [.removed type (registry.remove type).1])
    | registry, .has type => some (registry, [.had type (registry.has type)])

/-! ## A family of typed slots -/

/-- One slot for each type of handles. -/
abbrev Slots {Ty : Type u} (Handle : Ty → Type v) :=
  (type : Ty) → Option (Capability (Handle type))

/-- What the registry is for: a slot is filled, read and emptied. -/
def slotsMachine (Handle : Ty → Type v) :
    Machine (Slots Handle) (Call Handle) (Event Handle) where
  step?
    | slots, .register type capability =>
        some (Function.update slots type (some capability),
          [.registered type capability])
    | slots, .get type => some (slots, [.got type (slots type)])
    | slots, .remove type =>
        some (Function.update slots type none, [.removed type (slots type)])
    | slots, .has type => some (slots, [.had type (slots type).isSome])

/-- The event fills or empties the slot. -/
def changes (type : Ty) : Event Handle → Prop
  | .registered other _ => other = type
  | .removed other _ => other = type
  | _ => False

/-- The capability was registered last, and nothing was removed since. -/
def LastRegistered
    (type : Ty)
    (capability : Capability (Handle type))
    (log : List (Event Handle)) : Prop :=
  SinceLast (changes type) (· = .registered type capability) log

/-- A call is answered with what was registered last. -/
def AnsweredRight
    (earlier : List (Event Handle)) : Event Handle → Prop
  | .registered _ _ => True
  | .got type answer =>
      ∀ capability,
        answer = some capability ↔ LastRegistered type capability earlier
  | .removed type answer =>
      ∀ capability,
        answer = some capability ↔ LastRegistered type capability earlier
  | .had type answer =>
      answer = true ↔ ∃ capability, LastRegistered type capability earlier

section Slots

variable {log : List (Event Handle)} {slots : Slots Handle}

/-- The slots hold what was registered last. -/
def SlotsRight
    (log : List (Event Handle))
    (slots : Slots Handle) : Prop :=
  ∀ type capability,
    slots type = some capability ↔ LastRegistered type capability log

omit [DecidableEq Ty] in
/-- Reading changes nothing. -/
theorem lastRegistered_of_read
    {type : Ty}
    {capability : Capability (Handle type)}
    {event : Event Handle}
    (reads : ∀ other, ¬ changes other event) :
    LastRegistered type capability (log ++ [event]) ↔
      LastRegistered type capability log := by
  refine SinceLast.append_iff fun other member => ?_
  obtain rfl := List.mem_singleton.mp member
  refine ⟨?_, reads type⟩
  rintro rfl
  exact reads type rfl

/-- A registration fills its own slot. -/
theorem SlotsRight.register
    (right : SlotsRight log slots)
    (type : Ty)
    (capability : Capability (Handle type)) :
    SlotsRight (log ++ [.registered type capability])
      (Function.update slots type (some capability)) := by
  intro other found
  rw [LastRegistered, SinceLast.snoc_iff]
  by_cases same : other = type
  · subst same
    simp [changes]
  · have notThis :
        (Event.registered type capability : Event Handle) ≠
          .registered other found := by
      rintro ⟨⟩
      exact same rfl
    simp only [Function.update_of_ne same, notThis, changes,
      Ne.symm same, not_false_eq_true, true_and, false_or]
    exact right other found

/-- A removal empties its own slot. -/
theorem SlotsRight.remove
    (right : SlotsRight log slots)
    (type : Ty)
    (answer : Option (Capability (Handle type))) :
    SlotsRight (log ++ [.removed type answer])
      (Function.update slots type none) := by
  intro other found
  rw [LastRegistered, SinceLast.snoc_iff]
  by_cases same : other = type
  · subst same
    simp [changes]
  · simp only [Function.update_of_ne same, reduceCtorEq, changes,
      Ne.symm same, not_false_eq_true, true_and, false_or]
    exact right other found

/-- Over every run, the slots hold what was registered last, and every call was
answered with it. -/
theorem run_slots
    (run : Machine.Run (slotsMachine Handle) (fun _ => none) log slots) :
    SlotsRight log slots ∧ AtEach AnsweredRight log := by
  refine run.history
    (fun log slots => SlotsRight log slots ∧ AtEach AnsweredRight log)
    ?_ ⟨fun type capability => ?_, .nil⟩
  · rintro log before call after events ⟨right, answered⟩ step
    cases call with
    | register type capability =>
        obtain ⟨rfl, rfl⟩ := Prod.mk.inj (Option.some.inj step)
        exact ⟨right.register type capability, answered.snoc trivial⟩
    | remove type =>
        obtain ⟨rfl, rfl⟩ := Prod.mk.inj (Option.some.inj step)
        exact ⟨right.remove type _, answered.snoc (right type)⟩
    | get type =>
        obtain ⟨rfl, rfl⟩ := Prod.mk.inj (Option.some.inj step)
        refine ⟨fun other capability => ?_, answered.snoc (right type)⟩
        rw [lastRegistered_of_read fun _ => id]
        exact right other capability
    | has type =>
        obtain ⟨rfl, rfl⟩ := Prod.mk.inj (Option.some.inj step)
        refine ⟨fun other capability => ?_, answered.snoc ?_⟩
        · rw [lastRegistered_of_read fun _ => id]
          exact right other capability
        · rw [AnsweredRight, Option.isSome_iff_exists]
          exact exists_congr (right type)
  · exact iff_of_false nofun SinceLast.not_nil

end Slots

/-! ## The registry is that family -/

section Refinement

variable {registry : ResourceRegistry Handle}

/-- The box under the key of a handle type is a capability of that type. -/
def Typed (registry : ResourceRegistry Handle) : Prop :=
  ∀ type box,
    registry.resources.lookup type = some box → box.handleType = type

/-- No downcast fails: what is found is what is in the box. -/
theorem Typed.get_eq
    (typed : Typed registry)
    (type : Ty) :
    registry.resources.lookup type =
      (registry.get type).map fun capability =>
        { handleType := type, capability := capability } := by
  cases found : registry.resources.lookup type with
  | none => simp [get, found]
  | some box =>
      obtain ⟨handleType, capability⟩ := box
      obtain rfl : handleType = type := typed type _ found
      simp [get, found]

theorem Typed.register
    (typed : Typed registry)
    (type : Ty)
    (capability : Capability (Handle type)) :
    Typed (registry.register type capability) := by
  intro other box found
  by_cases same : other = type
  · subst same
    rw [ResourceRegistry.register, AList.lookup_insert] at found
    obtain rfl := Option.some.inj found
    rfl
  · rw [ResourceRegistry.register, AList.lookup_insert_ne same] at found
    exact typed other box found

theorem Typed.remove
    (typed : Typed registry)
    (type : Ty) :
    Typed (registry.remove type).2 := by
  intro other box found
  simp only [ResourceRegistry.remove, AList.extract_eq_lookup_erase] at found
  by_cases same : other = type
  · subst same
    simp at found
  · rw [AList.lookup_erase_ne same] at found
    exact typed other box found

/-- `get` after `register`: the new capability under its own type, and what was
there before under any other. -/
theorem get_register
    (registry : ResourceRegistry Handle)
    (type : Ty)
    (capability : Capability (Handle type)) :
    (registry.register type capability).get =
      Function.update registry.get type (some capability) := by
  funext other
  by_cases same : other = type
  · subst same
    simp [get, register]
  · simp [get, register, same]

/-- `remove` answers as `get` would. -/
theorem remove_fst
    (registry : ResourceRegistry Handle)
    (type : Ty) :
    (registry.remove type).1 = registry.get type := by
  have cloned :
      (Capability.clone : Capability (Handle type) → _) = id :=
    rfl
  simp [remove, get, cloned]

/-- `get` after `remove`: nothing under its own type, and what was there before
under any other. -/
theorem get_remove
    (registry : ResourceRegistry Handle)
    (type : Ty) :
    (registry.remove type).2.get =
      Function.update registry.get type none := by
  funext other
  by_cases same : other = type
  · subst same
    simp [get, remove]
  · simp [get, remove, same]

/-- A key is there exactly when `get` finds something. -/
theorem Typed.has_eq
    (typed : Typed registry)
    (type : Ty) :
    registry.has type = (registry.get type).isSome := by
  rw [has, Bool.eq_iff_iff, decide_eq_true_iff, ← AList.lookup_isSome,
    typed.get_eq type, Option.isSome_map]

/-- The registry refines the family of typed slots. -/
def slotsSimulation (Handle : Ty → Type v) :
    Machine.Simulation (machine Handle) (slotsMachine Handle) where
  view := get
  observe event := [event]
  good := Typed
  preserved := by
    intro before call after events typed step
    cases call with
    | register type capability =>
        obtain ⟨rfl, rfl⟩ := Prod.mk.inj (Option.some.inj step)
        exact typed.register type capability
    | remove type =>
        obtain ⟨rfl, rfl⟩ := Prod.mk.inj (Option.some.inj step)
        exact typed.remove type
    | get type | has type =>
        obtain ⟨rfl, rfl⟩ := Prod.mk.inj (Option.some.inj step)
        exact typed
  matched := by
    intro before call after events typed step
    rw [List.flatMap_singleton']
    refine .single call ?_
    cases call with
    | register type capability =>
        obtain ⟨rfl, rfl⟩ := Prod.mk.inj (Option.some.inj step)
        rw [get_register]
        rfl
    | remove type =>
        obtain ⟨rfl, rfl⟩ := Prod.mk.inj (Option.some.inj step)
        rw [get_remove, remove_fst]
        rfl
    | get type =>
        obtain ⟨rfl, rfl⟩ := Prod.mk.inj (Option.some.inj step)
        rfl
    | has type =>
        obtain ⟨rfl, rfl⟩ := Prod.mk.inj (Option.some.inj step)
        rw [typed.has_eq]
        rfl

theorem typed_new : Typed (new : ResourceRegistry Handle) := by
  intro type box found
  cases found

/-- The registry is a typed map, after a history of calls. -/
structure TypedMap
    (log : List (Event Handle))
    (registry : ResourceRegistry Handle) : Prop where
  /-- What is under the key of a type is a capability of that type. -/
  typed :
    ∀ type box, registry.resources.lookup type = some box →
      ∃ capability, box.downcast type = some capability
  latest :
    ∀ type capability,
      registry.get type = some capability ↔
        LastRegistered type capability log
  has_iff :
    ∀ type, registry.has type = true ↔ (registry.get type).isSome = true
  removes :
    ∀ type,
      (registry.remove type).1 = registry.get type ∧
        (registry.remove type).2.get type = none ∧
        (registry.remove type).2.has type = false
  others :
    ∀ type other, other ≠ type →
      (∀ capability,
        (registry.register type capability).get other =
            registry.get other ∧
          (registry.register type capability).has other =
            registry.has other) ∧
        (registry.remove type).2.get other = registry.get other ∧
        (registry.remove type).2.has other = registry.has other
  answered : AtEach AnsweredRight log

/-- After every sequence of calls, the registry is a typed map. -/
theorem registry_typed_map
    {log : List (Event Handle)}
    (run : Machine.Run (machine Handle) new log registry) :
    TypedMap log registry := by
  have typed : Typed registry :=
    run.invariant Typed (slotsSimulation Handle).preserved typed_new
  have slots := (slotsSimulation Handle).run run typed_new
  rw [show (slotsSimulation Handle).observe = fun event => [event] from rfl,
    List.flatMap_singleton'] at slots
  obtain ⟨right, answered⟩ := run_slots slots
  have removed (type : Ty) := typed.remove type
  constructor
  · intro type box found
    obtain ⟨handleType, capability⟩ := box
    obtain rfl : handleType = type := typed type _ found
    exact ⟨capability, AnyCapability.downcast_self capability⟩
  · exact right
  · intro type
    rw [typed.has_eq]
  · intro type
    rw [(removed type).has_eq, get_remove, remove_fst]
    simp
  · intro type other different
    refine ⟨fun capability => ?_, ?_⟩
    · rw [(typed.register type capability).has_eq, typed.has_eq, get_register,
        Function.update_of_ne different]
      exact ⟨rfl, rfl⟩
    · rw [(removed type).has_eq, typed.has_eq, get_remove,
        Function.update_of_ne different]
      exact ⟨rfl, rfl⟩
  · exact answered

end Refinement

/-- Two types of handles. -/
inductive SampleType where
  | file
  | socket
  deriving DecidableEq

/-- A file has a path, a socket has a port. -/
def SampleHandle : SampleType → Type
  | .file => String
  | .socket => Nat

/-- Two registrations at one type, one at another, and a removal. -/
def sampleCalls : List (Call SampleHandle) :=
  [.register .file (.new ⟨1⟩ "a"), .register .socket (.new ⟨2⟩ (80 : Nat)),
    .register .file (.new ⟨3⟩ "b"), .remove .socket, .has .socket]

/-- The last file is found, and the socket is gone. -/
theorem registry_typed_map_sample :
    ∃ registry log,
      (machine SampleHandle).run? new sampleCalls = some (registry, log) ∧
        registry.get .file = some (.new ⟨3⟩ "b") ∧
        registry.get .socket = none ∧
        TypedMap log registry := by
  obtain ⟨registry, log, executed, file, socket⟩ :
      ∃ registry log,
        (machine SampleHandle).run? new sampleCalls = some (registry, log) ∧
          registry.get .file = some (.new ⟨3⟩ "b") ∧
          registry.get .socket = none :=
    ⟨_, _, rfl, rfl, rfl⟩
  exact ⟨registry, log, executed, file, socket,
    registry_typed_map (Machine.run?_sound _ executed)⟩

end ResourceRegistry

end Runact
