/-
  This file defines results that come with the events that
  led to them, oldest event first.

  Key definitions include:
    * `Logged`
    * `Logged.record`
-/

------------------------------------------------------------
-- Logged Results
------------------------------------------------------------

namespace GraphSchema

/- A result and the events on the way to it. -/
structure Logged (E A : Type) where
  value : A
  events : List E

namespace Logged

variable {E : Type}

/- An event that is recorded without any result. -/
def record (e : E) : Logged E Unit where
  value := ()
  events := [e]

instance : Monad (Logged E) where
  pure a := ⟨a, []⟩
  bind x f :=
    let y := f x.value
    ⟨y.value, x.events ++ y.events⟩

/- A plain result has no events. -/
theorem events_pure
    {A : Type}
    (a : A) :
    (pure a : Logged E A).events = [] :=
  rfl

/- The events of a step come before those of the next. -/
theorem events_bind
    {A B : Type}
    (x : Logged E A)
    (f : A → Logged E B) :
    (x >>= f).events = x.events ++ (f x.value).events :=
  rfl

/- The result of two steps is that of the second one. -/
theorem value_bind
    {A B : Type}
    (x : Logged E A)
    (f : A → Logged E B) :
    (x >>= f).value = (f x.value).value :=
  rfl

end Logged

end GraphSchema
