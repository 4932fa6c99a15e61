/-!
# Log entries

What a run reports about itself, each entry at a level.
-/

namespace ContactCard

inductive Level
  | debug
  | info
  | success
  | warning
  | error
  deriving DecidableEq, Repr

def Level.name : Level → String
  | .debug => "DEBUG"
  | .info => "INFO"
  | .success => "SUCCESS"
  | .warning => "WARNING"
  | .error => "ERROR"

structure LogEntry where
  level : Level
  message : String
  deriving DecidableEq, Repr

/-- An entry about the writing of cards. -/
def LogEntry.marshal (level : Level) (message : String) : LogEntry :=
  ⟨level, "[marshal] " ++ message⟩

/-- An entry about a property type. -/
def LogEntry.types (level : Level) (message : String) : LogEntry := ⟨level, "[types] " ++ message⟩

end ContactCard
