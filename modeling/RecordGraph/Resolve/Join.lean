import RecordGraph.Resolve.Process

/-!
# Joining processes

Processes that do not depend on each other are joined into one, which ends when all
of them have ended and gives their results in order.  A few processes are resumed in
rounds: in each round every one of them once, in order, and the first failure ends
the join.  Many processes wait in a queue and are resumed in turns: one that pauses
goes to the end of the queue, two pauses in a row end the turn, and a failure ends
the join once every process before the failed one has ended.
-/

namespace RecordGraph

namespace Process

variable {α : Type}

/-! ## Rounds -/

/-- A process between two rounds. -/
inductive Member (α : Type) where
  /-- It has ended. -/
  | ended (result : α)
  /-- It goes on in the next round. -/
  | waiting (next : Unit → Process α)

def round : List (Member α) → List Entry × Except AccessError (List (Member α))
  | [] => ([], .ok [])
  | .ended result :: rest =>
      let (entries, further) := round rest
      (entries, further.map (.ended result :: ·))
  | .waiting next :: rest =>
      match next () with
      | .done noted (.error error) => (noted, .error error)
      | .done noted (.ok result) =>
          let (entries, further) := round rest
          (noted ++ entries, further.map (.ended result :: ·))
      | .pause noted following =>
          let (entries, further) := round rest
          (noted ++ entries, further.map (.waiting following :: ·))

def results? : List (Member α) → Option (List α)
  | [] => some []
  | .ended result :: rest => (results? rest).map (result :: ·)
  | .waiting _ :: _ => none

/-- How often the processes together are resumed at most. -/
def resumptions : List (Member α) → Nat
  | [] => 0
  | .ended _ :: rest => resumptions rest
  | .waiting next :: rest => (next ()).pauses + 1 + resumptions rest

/-- A round never adds to the work that is left, and takes some away if a process is
still waiting after it. -/
theorem resumptions_round {members further : List (Member α)} {entries : List Entry}
    (resumed : round members = (entries, .ok further)) :
    resumptions further ≤ resumptions members ∧
      (results? further = none → resumptions further < resumptions members) := by
  induction members generalizing entries further with
  | nil =>
      simp only [round, Prod.mk.injEq, Except.ok.injEq] at resumed
      simp [← resumed.2, results?]
  | cons member rest inductionHypothesis =>
      rcases roundRest : round rest with ⟨later, outcome⟩
      rcases outcome with error | others
      · cases member with
        | ended result => simp [round, roundRest, Except.map] at resumed
        | waiting next =>
            simp only [round, roundRest] at resumed
            split at resumed <;> simp [Except.map] at resumed
      · obtain ⟨noMore, less⟩ := inductionHypothesis roundRest
        cases member with
        | ended result =>
            simp only [round, roundRest, Except.map, Prod.mk.injEq, Except.ok.injEq] at resumed
            simp only [← resumed.2, resumptions, results?, Option.map_eq_none_iff]
            exact ⟨noMore, less⟩
        | waiting next =>
            simp only [round, roundRest, Except.map] at resumed
            split at resumed
            · simp at resumed
            · rename_i ended
              simp only [Prod.mk.injEq, Except.ok.injEq] at resumed
              simp only [← resumed.2, resumptions]
              omega
            · rename_i paused
              simp only [Prod.mk.injEq, Except.ok.injEq] at resumed
              simp only [← resumed.2, resumptions, paused, pauses]
              omega

/-- Resume processes in rounds until all have ended or one fails. -/
def inRounds (members : List (Member α)) : Process (List α) :=
  match _resumed : round members with
  | (entries, .error error) => .done entries (.error error)
  | (entries, .ok further) =>
      match _unfinished : results? further with
      | some results => .done entries (.ok results)
      | none => .pause entries fun _ => inRounds further
termination_by resumptions members
decreasing_by exact (resumptions_round _resumed).2 _unfinished

/-! ## Turns -/

/-- What a join gives, as far as the outcomes of its processes decide it: the first
failure, unless a process before it has not ended, or all results. -/
def verdict? : List (Option (Except AccessError α)) → Option (Except AccessError (List α))
  | [] => some (.ok [])
  | none :: _ => none
  | some (.error error) :: _ => some (.error error)
  | some (.ok result) :: rest => (verdict? rest).map (·.map (result :: ·))

/-- How often the processes in a queue are resumed at most. -/
def queuedResumptions : List (Nat × (Unit → Process α)) → Nat
  | [] => 0
  | (_, next) :: rest => (next ()).pauses + 1 + queuedResumptions rest

theorem queuedResumptions_append (first second : List (Nat × (Unit → Process α))) :
    queuedResumptions (first ++ second) = queuedResumptions first + queuedResumptions second := by
  induction first with
  | nil => simp [queuedResumptions]
  | cons entry rest inductionHypothesis =>
      simp only [List.cons_append, queuedResumptions, inductionHypothesis]
      omega

/-- Resume the processes of a queue in turns, each with its place among all.  The
entries are those of the turn so far, and `paused` says whether the last process
that was resumed in it has paused. -/
def inTurns (outcomes : List (Option (Except AccessError α)))
    (queue : List (Nat × (Unit → Process α))) (paused : Bool) (entries : List Entry) :
    Process (List α) :=
  match queue with
  | [] => .done entries ((verdict? outcomes).getD (.ok []))
  | (place, next) :: rest =>
      match _resumed : next () with
      | .done noted outcome =>
          let known := outcomes.set place (some outcome)
          match verdict? known with
          | some verdict => .done (entries ++ noted) verdict
          | none => inTurns known rest false (entries ++ noted)
      | .pause noted following =>
          let waiting := rest ++ [(place, following)]
          if paused || rest.isEmpty then
            .pause (entries ++ noted) fun _ => inTurns outcomes waiting false []
          else
            inTurns outcomes waiting true (entries ++ noted)
termination_by queuedResumptions queue
decreasing_by
  all_goals simp only [queuedResumptions, queuedResumptions_append, *, pauses]; omega

/-! ## The join -/

/-- The greatest number of processes that are resumed in rounds. -/
def roundLimit : Nat := 30

def join (processes : List (Process α)) : Process (List α) :=
  if processes.length ≤ roundLimit then
    inRounds (processes.map fun process => .waiting fun _ => process)
  else
    inTurns (processes.map fun _ => none)
      ((List.range processes.length).zip (processes.map fun process _ => process)) false []

end Process

end RecordGraph
