namespace Parley

inductive Level where
  | info
  | warning
  deriving DecidableEq, Repr

def Level.name : Level → String
  | .info => "INFO"
  | .warning => "WARNING"

inductive Reporter where
  | extraction
  | toolbox
  | assistant
  deriving DecidableEq, Repr

structure Record where
  level : Level
  reporter : Reporter
  text : String
  deriving DecidableEq, Repr

abbrev Journal := List Record

end Parley
