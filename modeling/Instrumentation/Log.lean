/-!
# Log records

A record has a level, a message and named fields. Fields that are absent are not recorded.
-/

namespace Instrumentation

/-- The weight of a record. -/
inductive Level where
  /-- Every hit. -/
  | trace
  /-- Inner workings. -/
  | debug
  /-- Changes of state. -/
  | info
  /-- Failures. -/
  | warn
deriving DecidableEq, Inhabited

/-- The name of a level. -/
def Level.name : Level → String
  | trace => "TRACE"
  | debug => "DEBUG"
  | info => "INFO"
  | warn => "WARN"

/-- A log record. -/
structure Record where
  /-- The weight. -/
  level : Level
  /-- What happened. -/
  message : String
  /-- The particulars. -/
  fields : List (String × String)
deriving DecidableEq, Inhabited

namespace Record

/-- The level and the message on one line. -/
def line (r : Record) : String := r.level.name ++ " " ++ r.message

end Record

end Instrumentation
