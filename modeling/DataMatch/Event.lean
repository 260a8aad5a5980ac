/-! Events that a check reports beside its verdict, in the order they happen. -/
namespace DataMatch

inductive Level where
  | debug
  | warn
  | error
deriving DecidableEq, Repr

structure Event where
  level : Level
  message : String
  details : List (String × String)
deriving DecidableEq, Repr

structure Logged (α : Type) where
  events : List Event
  result : α

end DataMatch
