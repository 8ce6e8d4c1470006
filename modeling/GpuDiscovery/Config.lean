import GpuDiscovery.Logger

/-!
# Configuration

What can be chosen for a discovery: the logger, how often a growing buffer is offered to an
adapter, and the directory that stands for the system root in driver store paths.
-/

namespace GpuDiscovery

/-- The choices for a discovery. -/
structure Config where
  logger : Logger
  maxQueryAttempts : Nat
  systemRoot : String
  deriving DecidableEq, Repr

namespace Config

/-- The system root where the environment names none. -/
def usualSystemRoot : String := "C:\\Windows"

/-- The configuration of who chooses nothing: the shared logger, eight attempts, and the system
root that the environment names. -/
def default (environmentRoot : Option String) : Config where
  logger := .shared
  maxQueryAttempts := 8
  systemRoot := environmentRoot.getD usualSystemRoot

/-- Chooses a logger. -/
def withLogger (config : Config) (logger : Logger) : Config :=
  { config with logger := logger }

/-- Chooses the number of attempts. At least one is always made. -/
def withMaxQueryAttempts (config : Config) (attempts : Nat) : Config :=
  { config with maxQueryAttempts := max attempts 1 }

/-- Chooses the system root. -/
def withSystemRoot (config : Config) (root : String) : Config :=
  { config with systemRoot := root }

end Config

end GpuDiscovery
