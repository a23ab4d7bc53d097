import RecordGraph.Session

/-!
# Processes

A process does something, pauses, goes on when it is resumed, and at last gives a
result or fails.  What it notes up to a pause is known when it pauses; what follows
is worked out when it is resumed.  Processes read no session, so that whatever is
resumed in between does not change what a process does.
-/

namespace RecordGraph

/-- What a process does from pause to pause. -/
inductive Process (α : Type) where
  /-- It notes the entries and ends. -/
  | done (entries : List Entry) (outcome : Except AccessError α)
  /-- It notes the entries and pauses. -/
  | pause (entries : List Entry) (next : Unit → Process α)

namespace Process

variable {α β : Type}

def pauses : Process α → Nat
  | .done _ _ => 0
  | .pause _ next => (next ()).pauses + 1

/-- Put entries in front of those that a process notes first. -/
def after (entries : List Entry) : Process α → Process α
  | .done noted outcome => .done (entries ++ noted) outcome
  | .pause noted next => .pause (entries ++ noted) next

def map (change : α → β) : Process α → Process β
  | .done entries outcome => .done entries (outcome.map change)
  | .pause entries next => .pause entries fun _ => (next ()).map change

/-- Resume a process until it ends, writing what it notes. -/
def complete : Process α → Access α
  | .done entries outcome => fun session => (outcome, session.writeAll entries)
  | .pause entries next => fun session => (next ()).complete (session.writeAll entries)

end Process

end RecordGraph
