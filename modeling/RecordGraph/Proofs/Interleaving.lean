import RecordGraph.Proofs.Transcript

/-!
# Interleavings of relation tasks

A resolution is a tree of tasks.  Each task makes its call, loads the level below onto the
records that the call finds, with tasks that run side by side again, and then returns them.
Any task that can go on may take the next step; the first failure ends the resolution, and
nothing is attached to its owners before all their tasks have returned.
-/

namespace RecordGraph

/-! ## Requests and their places -/

/-- One place comes before another in sequence: it leads there, or it parts from it at an
earlier relation. -/
def Precedes : List Nat → List Nat → Prop
  | _, [] => False
  | [], _ :: _ => True
  | position :: place, other :: otherPlace =>
      position < other ∨ position = other ∧ Precedes place otherPlace

@[simp]
theorem nil_precedes_cons (position : Nat) (place : List Nat) : Precedes [] (position :: place) :=
  trivial

@[simp]
theorem not_precedes_nil (place : List Nat) : ¬ Precedes place [] := by
  cases place <;> exact not_false

@[simp]
theorem cons_precedes_cons_iff (position other : Nat) (place otherPlace : List Nat) :
    Precedes (position :: place) (other :: otherPlace) ↔
      position < other ∨ position = other ∧ Precedes place otherPlace :=
  Iff.rfl

theorem Precedes.asymm {place other : List Nat} (precedes : Precedes place other) :
    ¬ Precedes other place := by
  induction place generalizing other with
  | nil => exact not_precedes_nil other
  | cons position place inductionHypothesis =>
      cases other with
      | nil => exact absurd precedes (not_precedes_nil _)
      | cons otherPosition otherPlace =>
          rw [cons_precedes_cons_iff] at precedes ⊢
          rcases precedes with smaller | ⟨rfl, precedes⟩
          · omega
          · rintro (smaller | ⟨_, opposite⟩)
            · omega
            · exact inductionHypothesis precedes opposite

/-- A request, and the place of the relation that makes it: its position on its level, after
the place of the relation above it. -/
structure Sent where
  place : List Nat
  request : Request
  deriving DecidableEq, Repr

namespace Sent

/-- The same request, seen from the level above, where the first relation leads to it. -/
def below (sent : Sent) : Sent := { sent with place := 0 :: sent.place }

/-- The same request, seen from a level with one more relation in front. -/
def later (sent : Sent) : Sent :=
  { sent with place := sent.place.modifyHead (· + 1) }

theorem map_request_below (log : List Sent) : (log.map below).map request = log.map request := by
  rw [List.map_map]
  rfl

theorem map_request_later (log : List Sent) : (log.map later).map request = log.map request := by
  rw [List.map_map]
  rfl

end Sent

/-! ## Tasks under way -/

/-- The tasks of a level, in the order of the relations. -/
inductive Tasks where
  | nil
  /-- The level has a relation with an unregistered target. -/
  | unknown (target : String)
  /-- A task that has not made its call. -/
  | waiting (task : Task) (below : Unit → Plan) (rest : Tasks)
  /-- A task whose call has found records, onto which the level below is loaded. -/
  | entered (task : Task) (found : List Document) (level : Tasks) (rest : Tasks)
  | returned (loaded : Loaded) (rest : Tasks)

namespace Plan

def tasks (batch : Batch) (owners : List Document) : Plan → Tasks
  | .done => .nil
  | .unknown target => .unknown target
  | .load step below rest => .waiting (step.task batch owners) below (rest.tasks batch owners)

/-- Open a level: one without owners has no tasks. -/
def enter (batch : Batch) (owners : List Document) (plan : Plan) : Tasks :=
  if owners.isEmpty then .nil else plan.tasks batch owners

end Plan

namespace Tasks

/-- What the tasks have loaded, once all have returned. -/
def loaded? : Tasks → Option (List Loaded)
  | .nil => some []
  | .unknown _ => none
  | .waiting _ _ _ => none
  | .entered _ _ _ _ => none
  | .returned loaded rest => rest.loaded?.map (loaded :: ·)

/-- One task takes a step, and may send a request. -/
inductive Step (store : Store) : Tasks → Option Sent → Tasks → Prop
  | call {task : Task} {call : Call (List Document)} {nested : Batch} {below : Unit → Plan}
      {rest : Tasks} :
      task.start = .call call nested → call.request.collection ∉ store.unavailable →
      Step store (.waiting task below rest) (some ⟨[0], call.request⟩)
        (.entered task (call.answer (store.records call.request.collection))
          ((below ()).enter nested (call.answer (store.records call.request.collection))) rest)
  | skip {task : Task} {below : Unit → Plan} {rest : Tasks} :
      task.start = .nothing →
      Step store (.waiting task below rest) none (.returned ⟨task, []⟩ rest)
  | back {task : Task} {found : List Document} {level rest : Tasks} {loaded : List Loaded} :
      level.loaded? = some loaded →
      Step store (.entered task found level rest) none
        (.returned ⟨task, Loaded.attachTo found loaded⟩ rest)
  | inside {task : Task} {found : List Document} {level next rest : Tasks} {sent : Option Sent} :
      Step store level sent next →
      Step store (.entered task found level rest) (sent.map Sent.below)
        (.entered task found next rest)
  | afterWaiting {task : Task} {below : Unit → Plan} {rest next : Tasks} {sent : Option Sent} :
      Step store rest sent next →
      Step store (.waiting task below rest) (sent.map Sent.later) (.waiting task below next)
  | afterEntered {task : Task} {found : List Document} {level rest next : Tasks}
      {sent : Option Sent} :
      Step store rest sent next →
      Step store (.entered task found level rest) (sent.map Sent.later)
        (.entered task found level next)
  | afterReturned {loaded : Loaded} {rest next : Tasks} {sent : Option Sent} :
      Step store rest sent next →
      Step store (.returned loaded rest) (sent.map Sent.later) (.returned loaded next)

/-- A task fails in its next step. -/
inductive Fails (store : Store) : Tasks → AccessError → Prop
  | unknown (target : String) : Fails store (.unknown target) (.unknownMapper target)
  | refused {task : Task} {below : Unit → Plan} {rest : Tasks} {error : AccessError} :
      task.start = .failure error → Fails store (.waiting task below rest) error
  | unavailable {task : Task} {call : Call (List Document)} {nested : Batch}
      {below : Unit → Plan} {rest : Tasks} :
      task.start = .call call nested → call.request.collection ∈ store.unavailable →
      Fails store (.waiting task below rest) (.unavailable call.request.collection)
  | inside {task : Task} {found : List Document} {level rest : Tasks} {error : AccessError} :
      Fails store level error → Fails store (.entered task found level rest) error
  | afterWaiting {task : Task} {below : Unit → Plan} {rest : Tasks} {error : AccessError} :
      Fails store rest error → Fails store (.waiting task below rest) error
  | afterEntered {task : Task} {found : List Document} {level rest : Tasks}
      {error : AccessError} :
      Fails store rest error → Fails store (.entered task found level rest) error
  | afterReturned {loaded : Loaded} {rest : Tasks} {error : AccessError} :
      Fails store rest error → Fails store (.returned loaded rest) error

end Tasks

/-! ## Resolutions -/

/-- How far a resolution is. -/
inductive Progress where
  | running (tasks : Tasks)
  | succeeded
  | failed (error : AccessError)

/-- A resolution under way, with the records that it is about as they are. -/
structure Resolution where
  owners : List Document
  progress : Progress

namespace Resolution

def start (plan : Plan) (batch : Batch) (owners : List Document) : Resolution :=
  ⟨owners, .running (plan.enter batch owners)⟩

inductive Step (store : Store) : Resolution → Option Sent → Resolution → Prop
  | advance {owners : List Document} {tasks next : Tasks} {sent : Option Sent} :
      tasks.Step store sent next →
      Step store ⟨owners, .running tasks⟩ sent ⟨owners, .running next⟩
  | attach {owners : List Document} {tasks : Tasks} {loaded : List Loaded} :
      tasks.loaded? = some loaded →
      Step store ⟨owners, .running tasks⟩ none ⟨Loaded.attachTo owners loaded, .succeeded⟩
  | abort {owners : List Document} {tasks : Tasks} {error : AccessError} :
      tasks.Fails store error →
      Step store ⟨owners, .running tasks⟩ none ⟨owners, .failed error⟩

/-- Steps in a row, with the requests that they send. -/
inductive Runs (store : Store) : Resolution → List Sent → Resolution → Prop
  | refl (resolution : Resolution) : Runs store resolution [] resolution
  | step {first second last : Resolution} {sent : Option Sent} {log : List Sent} :
      first.Step store sent second → second.Runs store log last →
      Runs store first (sent.toList ++ log) last

/-- No task can go on. -/
def Ended (store : Store) (resolution : Resolution) : Prop :=
  ∀ sent next, ¬ resolution.Step store sent next

end Resolution

end RecordGraph
