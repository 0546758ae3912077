import Componentry.Text.Basic

/-!
# Log events

What the library reports besides its results: events with a level, a message and
named fields, in the order in which they happen.
-/

namespace Componentry

/-- How much an event matters. -/
inductive LogLevel where
  | debug
  | warning
  | error
deriving DecidableEq, Repr

/-- The value of an event's field. -/
inductive LogField where
  | text (value : Text)
  | number (value : Nat)
deriving DecidableEq, Repr

/-- An event. -/
structure LogEvent where
  level : LogLevel
  message : Text
  fields : List (String × LogField)
deriving DecidableEq, Repr

end Componentry
