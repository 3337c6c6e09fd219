import ScopedLog.Logging
set_option autoImplicit false

namespace ScopedLog

structure Recorder where
  entry : Entry

namespace Recorder

def create (least : Level) : Action Recorder := do
  return ⟨← Entry.create (.capture least)⟩

def sink (r : Recorder) : Sink :=
  r.entry.sink

def records (r : Recorder) : Action (List CapturedRecord) := do
  return (← Program.capture r.sink.id).records

def messages (r : Recorder) : Action (List String) := do
  return (← r.records).map (·.message)

def last (r : Recorder) : Action (Option CapturedRecord) := do
  return (← r.records).getLast?

def occursIn (needle : List Char) : List Char → Bool
  | [] => needle.isEmpty
  | c :: s => needle.isPrefixOf (c :: s) || occursIn needle s

def contains (r : Recorder) (needle : String) : Action Bool := do
  return (← r.messages).any fun m => occursIn needle.toList m.toList

def missing (needle : String) (messages : List String) : String :=
  "expected a record containing " ++ Text.quote needle ++ ", got " ++
    Json.listing "[" "]" (messages.map Text.quote)

def assertContains (r : Recorder) (needle : String) : Attempt Unit := do
  unless (← r.contains needle) do
    throw (.panicked (missing needle (← r.messages)))

def clear (r : Recorder) : Action Unit := do
  Program.setCapture r.sink.id (← Program.capture r.sink.id).clear

end Recorder

end ScopedLog
