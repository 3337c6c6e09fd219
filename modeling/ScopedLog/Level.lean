import ScopedLog.Text.Blank
import ScopedLog.Text.Lowercase
set_option autoImplicit false

namespace ScopedLog

inductive Level where
  | trace
  | debug
  | info
  | warn
  | error
  | fatal
  | panic
deriving DecidableEq

namespace Level

def all : List Level :=
  [trace, debug, info, warn, error, fatal, panic]

def name : Level → String
  | trace => "trace"
  | debug => "debug"
  | info => "info"
  | warn => "warn"
  | error => "error"
  | fatal => "fatal"
  | panic => "panic"

def inspect : Level → String
  | trace => "Trace"
  | debug => "Debug"
  | info => "Info"
  | warn => "Warn"
  | error => "Error"
  | fatal => "Fatal"
  | panic => "Panic"

def rank : Level → Nat
  | trace => 0
  | debug => 1
  | info => 2
  | warn => 3
  | error => 4
  | fatal => 5
  | panic => 6

instance : Ord Level := ⟨fun a b => compare a.rank b.rank⟩

instance : LE Level := ⟨fun a b => a.rank ≤ b.rank⟩

instance (a b : Level) : Decidable (a ≤ b) := inferInstanceAs (Decidable (a.rank ≤ b.rank))

end Level

inductive Severity where
  | error
  | warn
  | info
  | debug
  | trace
deriving DecidableEq

namespace Severity

def all : List Severity :=
  [error, warn, info, debug, trace]

def name : Severity → String
  | error => "ERROR"
  | warn => "WARN"
  | info => "INFO"
  | debug => "DEBUG"
  | trace => "TRACE"

def rank : Severity → Nat
  | error => 1
  | warn => 2
  | info => 3
  | debug => 4
  | trace => 5

instance : Ord Severity := ⟨fun a b => compare a.rank b.rank⟩

instance : LE Severity := ⟨fun a b => a.rank ≤ b.rank⟩

instance (a b : Severity) : Decidable (a ≤ b) := inferInstanceAs (Decidable (a.rank ≤ b.rank))

end Severity

/-- The two levels that end their caller count as errors. -/
def Level.severity : Level → Severity
  | .trace => .trace
  | .debug => .debug
  | .info => .info
  | .warn => .warn
  | .error => .error
  | .fatal => .error
  | .panic => .error

structure UnknownLevel where
  text : String
deriving DecidableEq

def UnknownLevel.message (e : UnknownLevel) : String :=
  "unknown log level: " ++ e.text

namespace Level

def spellings : List (String × Level) :=
  all.map (fun l => (l.name, l)) ++ [("warning", warn)]

def parse (s : String) : Except UnknownLevel Level :=
  match spellings.lookup (String.ofList (Text.lowercase (Text.trim s.toList))) with
  | some l => .ok l
  | none => .error ⟨s⟩

end Level

end ScopedLog
