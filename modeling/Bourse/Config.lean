import Bourse.Resting

namespace Bourse

/-- A span of time with less than a second in `nanoseconds`. -/
structure Span where
  seconds : Nat
  nanoseconds : Nat
  deriving DecidableEq, Repr

def Span.ofMilliseconds (n : Nat) : Span := ⟨n / 1000, n % 1000 * 1000000⟩

/-- Whole milliseconds; what is less is dropped. -/
def Span.milliseconds (span : Span) : Nat := span.seconds * 1000 + span.nanoseconds / 1000000

/-- Where books are kept: in the file `path`, or for a session only. -/
structure Storage where
  path : Option String := none
  busyTimeout : Span := ⟨5, 0⟩
  deriving DecidableEq, Repr

structure Config where
  storage : Storage := {}
  pageSize : Nat := 10
  deriving DecidableEq, Repr

namespace Config

def withPath (config : Config) (path : Option String) : Config :=
  { config with storage := { config.storage with path } }

def withBusyTimeout (config : Config) (busyTimeout : Span) : Config :=
  { config with storage := { config.storage with busyTimeout } }

def withPageSize (config : Config) (pageSize : Nat) : Config := { config with pageSize }

def durable (path : String) : Config := withPath {} (some path)

def check (config : Config) : Except Failure Unit := do
  checkPageSize config.pageSize
  if config.storage.path = some "" then .error (.validation .emptyPath) else .ok ()

end Config

end Bourse
