import Runact.Machine

namespace Runact

/-!
# Identifiers, errors and type-erased values

The vocabulary shared by all components.  A `Box<dyn Any + Send>` is a value
together with the type it was built at; `downcast::<T>` succeeds exactly at that
type.  Counters and identifiers of the source are 64-bit; they are natural
numbers here, since nothing allocates `2 ^ 64` of them.
-/

universe u

/-- `ActorId`, a wrapped `u64`. -/
structure ActorId where
  asU64 : Nat
  deriving DecidableEq, Repr

/-- `RuntimeError`. -/
inductive RuntimeError where
  | actorNotFound (id : ActorId)
  | mailboxFull (id : ActorId)
  | actorExists (id : ActorId)
  | shutdownTimeout
  | runtimeStopped
  deriving DecidableEq, Repr

/-- The dynamic type of a type-erased value. -/
abbrev TypeId := Nat

/-- `Box<dyn Any + Send>`: a value and the type it was boxed at. -/
structure AnyBox (Value : Type u) where
  typeId : TypeId
  value : Value
  deriving DecidableEq, Repr

namespace AnyBox

variable {Value : Type u}

/-- `downcast::<T>`. -/
def downcast (type : TypeId) (box : AnyBox Value) : Option Value :=
  if box.typeId = type then some box.value else none

/-- A downcast that succeeds gives the boxed value. -/
theorem value_of_downcast
    {type : TypeId}
    {box : AnyBox Value}
    {value : Value}
    (typed : box.downcast type = some value) :
    box.value = value := by
  simp only [downcast, Option.ite_none_right_eq_some, Option.some.injEq] at typed
  exact typed.2

end AnyBox

end Runact
