import UtxoBalance.Event

/-!
# Outcomes with events

An operation tells events on its way to an outcome. When one operation follows
another, the second runs only if the first gives a value; the events of the first
stay either way.

## Main definitions

- `Logged` — an outcome with the events on the way to it
- `Logged.tell`, `Logged.fail`, `Logged.lift` — the steps

## Main statements

- `Logged.bind_assoc` — it does not matter how operations are grouped
- `Logged.outcome_bind` — outcomes follow one another without regard to events
-/

namespace UtxoBalance

/-- An outcome with the events on the way to it. -/
structure Logged (α : Type) where
  /-- The events in order. -/
  events : List Event
  /-- The value, or what ended the operation. -/
  outcome : Except Failure α

namespace Logged

/-- A value without events. -/
protected def pure {α : Type} (value : α) : Logged α := ⟨[], .ok value⟩

/-- One operation after another: the second runs only if the first gives a value,
    and the events of the first stay either way. -/
protected def bind {α β : Type} (first : Logged α) (next : α → Logged β) : Logged β :=
  match first.outcome with
  | .ok value => ⟨first.events ++ (next value).events, (next value).outcome⟩
  | .error failure => ⟨first.events, .error failure⟩

instance : Monad Logged where
  pure := Logged.pure
  bind := Logged.bind

theorem bind_ok {α β : Type} (events : List Event) (value : α) (next : α → Logged β) :
    ((⟨events, .ok value⟩ : Logged α) >>= next) =
      ⟨events ++ (next value).events, (next value).outcome⟩ := rfl

theorem bind_error {α β : Type} (events : List Event) (failure : Failure) (next : α → Logged β) :
    ((⟨events, .error failure⟩ : Logged α) >>= next) = ⟨events, .error failure⟩ := rfl

/-- To give a value on as it is changes nothing. -/
theorem map_id {α : Type} (logged : Logged α) : id <$> logged = logged := by
  obtain ⟨events, failure | value⟩ := logged
  · rfl
  · change (⟨events ++ [], .ok value⟩ : Logged α) = _
    rw [List.append_nil]

theorem pure_bind {α β : Type} (value : α) (next : α → Logged β) :
    ((pure value : Logged α) >>= next) = next value := rfl

/-- Where operations follow one another, it does not matter how they are grouped. -/
theorem bind_assoc {α β γ : Type} (logged : Logged α) (next : α → Logged β)
    (last : β → Logged γ) :
    ((logged >>= next) >>= last) = logged >>= fun value => next value >>= last := by
  obtain ⟨events, failure | value⟩ := logged
  · rfl
  · rw [bind_ok, bind_ok]
    obtain ⟨more, failure | value⟩ := next value
    · rfl
    · simp [bind_ok]

instance : LawfulMonad Logged :=
  LawfulMonad.mk' Logged map_id pure_bind bind_assoc

/-- Tells one event. -/
def tell (event : Event) : Logged Unit := ⟨[event], .ok ()⟩

/-- Ends an operation. -/
def fail {α : Type} (failure : Failure) : Logged α := ⟨[], .error failure⟩

/-- An outcome without events. -/
def lift {α : Type} (outcome : Except Failure α) : Logged α := ⟨[], outcome⟩

/-- Outcomes follow one another without regard to events. -/
@[simp] theorem outcome_bind {α β : Type} (first : Logged α) (next : α → Logged β) :
    (first >>= next).outcome = first.outcome >>= fun value => (next value).outcome := by
  obtain ⟨events, failure | value⟩ := first
  · rfl
  · rfl

@[simp] theorem outcome_pure {α : Type} (value : α) :
    (pure value : Logged α).outcome = .ok value := rfl

@[simp] theorem outcome_tell (event : Event) : (tell event).outcome = .ok () := rfl

@[simp] theorem outcome_lift {α : Type} (outcome : Except Failure α) :
    (lift outcome).outcome = outcome := rfl

end Logged

end UtxoBalance
