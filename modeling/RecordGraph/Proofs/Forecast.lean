import RecordGraph.Proofs.Interleaving

/-!
# Forecasts of relation tasks

What tasks send and load when they go on in sequence can be foretold from any state that an
interleaving leads to.  A step sends a request that was foretold and changes nothing else in
the forecast, so that all interleavings of a resolution end alike.
-/

namespace RecordGraph

/-! ## Forecasts -/

/-- What is sent, and what comes of it, when everything goes on in sequence. -/
structure Forecast (α : Type) where
  sent : List Sent
  result : α

namespace Forecast

variable {α : Type}

/-- The first task of a level and then the others. -/
def inOrder (first : Option (Forecast Loaded)) (rest : Option (Forecast (List Loaded))) :
    Option (Forecast (List Loaded)) :=
  first.bind fun now =>
    rest.map fun later => ⟨now.sent ++ later.sent.map Sent.later, now.result :: later.result⟩

/-- A task that has found records, and loads the level below onto them. -/
def inside (task : Task) (found : List Document) (level : Forecast (List Loaded)) :
    Forecast Loaded :=
  ⟨level.sent.map Sent.below, ⟨task, Loaded.attachTo found level.result⟩⟩

/-- Owners with everything attached to them that was foretold. -/
def attached (owners : List Document) (forecast : Forecast (List Loaded)) :
    Forecast (List Document) :=
  ⟨forecast.sent, Loaded.attachTo owners forecast.result⟩

def afterSending (sent : Sent) (forecast : Forecast α) : Forecast α :=
  { forecast with sent := sent :: forecast.sent }

end Forecast

/-- The forecast for a task that has not made its call; there is none if it fails. -/
def Task.forecast? (task : Task) (store : Store)
    (level : Batch → List Document → Option (Forecast (List Loaded))) :
    Option (Forecast Loaded) :=
  match task.start with
  | .nothing => some ⟨[], ⟨task, []⟩⟩
  | .failure _ => none
  | .call call nested =>
      if call.request.collection ∈ store.unavailable then none
      else
        let found := call.answer (store.records call.request.collection)
        (level nested found).map fun ahead =>
          (Forecast.inside task found ahead).afterSending ⟨[0], call.request⟩

namespace Plan

def forecast? (store : Store) (batch : Batch) (owners : List Document) :
    Plan → Option (Forecast (List Loaded))
  | .done => some ⟨[], []⟩
  | .unknown _ => none
  | .load step below rest =>
      Forecast.inOrder
        ((step.task batch owners).forecast? store fun nested found =>
          if found.isEmpty then some ⟨[], []⟩ else (below ()).forecast? store nested found)
        (rest.forecast? store batch owners)

def levelForecast? (plan : Plan) (store : Store) (batch : Batch) (owners : List Document) :
    Option (Forecast (List Loaded)) :=
  if owners.isEmpty then some ⟨[], []⟩ else plan.forecast? store batch owners

end Plan

namespace Tasks

def forecast? (store : Store) : Tasks → Option (Forecast (List Loaded))
  | .nil => some ⟨[], []⟩
  | .unknown _ => none
  | .waiting task below rest =>
      Forecast.inOrder
        (task.forecast? store fun nested found => (below ()).levelForecast? store nested found)
        (rest.forecast? store)
  | .entered task found level rest =>
      Forecast.inOrder ((level.forecast? store).map (Forecast.inside task found))
        (rest.forecast? store)
  | .returned loaded rest => Forecast.inOrder (some ⟨[], loaded⟩) (rest.forecast? store)

theorem forecast?_tasks (plan : Plan) (store : Store) (batch : Batch) (owners : List Document) :
    (plan.tasks batch owners).forecast? store = plan.forecast? store batch owners := by
  induction plan with
  | done => rfl
  | unknown target => rfl
  | load step below rest _ restHypothesis =>
      simp only [Plan.tasks, forecast?, Plan.forecast?, restHypothesis, Plan.levelForecast?]

theorem forecast?_enter (plan : Plan) (store : Store) (batch : Batch) (owners : List Document) :
    (plan.enter batch owners).forecast? store = plan.levelForecast? store batch owners := by
  unfold Plan.enter Plan.levelForecast?
  split
  · rfl
  · exact forecast?_tasks plan store batch owners

theorem forecast?_of_loaded? {tasks : Tasks} {loaded : List Loaded}
    (all : tasks.loaded? = some loaded) (store : Store) :
    tasks.forecast? store = some ⟨[], loaded⟩ := by
  induction tasks generalizing loaded with
  | nil =>
      cases all
      rfl
  | returned first rest restHypothesis =>
      rcases Option.map_eq_some_iff.mp all with ⟨later, allLater, rfl⟩
      simp [forecast?, Forecast.inOrder, restHypothesis allLater]
  | _ => cases all

end Tasks

/-! ## Steps keep the forecast -/

/-- The second forecast is what is left of the first after some requests. -/
structure Forecast.Leaves {α : Type} (log : List Sent) (before after : Forecast α) : Prop where
  perm : before.sent.Perm (log ++ after.sent)
  result : before.result = after.result

namespace Forecast

variable {α : Type} {log : List Sent}

theorem Leaves.refl (forecast : Forecast α) : Leaves [] forecast forecast :=
  ⟨List.Perm.refl _, rfl⟩

theorem Leaves.trans {more : List Sent} {first second third : Forecast α}
    (earlier : Leaves log first second) (later : Leaves more second third) :
    Leaves (log ++ more) first third := by
  refine ⟨?_, earlier.result.trans later.result⟩
  rw [List.append_assoc]
  exact earlier.perm.trans (later.perm.append_left log)

theorem leaves_trans {more : List Sent} {first second third : Option (Forecast α)}
    (earlier : Option.Rel (Leaves log) first second)
    (later : Option.Rel (Leaves more) second third) :
    Option.Rel (Leaves (log ++ more)) first third := by
  cases earlier with
  | none =>
      cases later with
      | none => exact .none
  | some earlierLeaves =>
      cases later with
      | some laterLeaves => exact .some (earlierLeaves.trans laterLeaves)

theorem attached_of_level {level next : Option (Forecast (List Loaded))}
    (leaves : Option.Rel (Leaves log) level next) (owners : List Document) :
    Option.Rel (Leaves log) (level.map (attached owners)) (next.map (attached owners)) := by
  cases leaves with
  | none => exact .none
  | some leaves => exact .some ⟨leaves.perm, by simp only [attached, leaves.result]⟩

theorem inside_of_level {level next : Option (Forecast (List Loaded))}
    (leaves : Option.Rel (Leaves log) level next) (task : Task) (found : List Document) :
    Option.Rel (Leaves (log.map Sent.below)) (level.map (inside task found))
      (next.map (inside task found)) := by
  cases leaves with
  | none => exact .none
  | some leaves =>
      refine .some ⟨?_, by simp only [inside, leaves.result]⟩
      simpa only [inside, List.map_append] using leaves.perm.map Sent.below

theorem inOrder_of_first {first next : Option (Forecast Loaded)}
    (leaves : Option.Rel (Leaves log) first next) (rest : Option (Forecast (List Loaded))) :
    Option.Rel (Leaves log) (inOrder first rest) (inOrder next rest) := by
  cases leaves with
  | none => exact .none
  | some leaves =>
      cases rest with
      | none => exact .none
      | some later =>
          refine .some ⟨?_, by simp only [leaves.result]⟩
          simpa only [List.append_assoc] using leaves.perm.append_right _

theorem inOrder_of_rest {rest next : Option (Forecast (List Loaded))}
    (leaves : Option.Rel (Leaves log) rest next) (first : Option (Forecast Loaded)) :
    Option.Rel (Leaves (log.map Sent.later)) (inOrder first rest) (inOrder first next) := by
  cases first with
  | none => exact .none
  | some now =>
      cases leaves with
      | none => exact .none
      | some leaves =>
          refine .some ⟨?_, by simp only [leaves.result]⟩
          have moved := leaves.perm.map Sent.later
          rw [List.map_append] at moved
          exact (moved.append_left now.sent).trans (List.perm_append_comm_assoc _ _ _)

end Forecast

namespace Tasks

variable {store : Store} {tasks next : Tasks} {sent : Option Sent}

/-- A step sends what was foretold, and what is foretold after it is the rest. -/
theorem Step.leaves (step : tasks.Step store sent next) :
    Option.Rel (Forecast.Leaves sent.toList) (tasks.forecast? store) (next.forecast? store) := by
  have mapped : ∀ (sent : Option Sent) (move : Sent → Sent),
      (sent.map move).toList = sent.toList.map move := by
    intro sent move
    cases sent <;> rfl
  induction step with
  | @call task call nested below rest started accepted =>
      -- The forecast for the call is in terms of what the store will answer, so that the
      -- level entered with the answer has the rest of it as its own forecast.
      apply Forecast.inOrder_of_first
      rw [Task.forecast?, started]
      simp only [if_neg accepted, forecast?_enter]
      cases (below ()).levelForecast? store nested _ with
      | none => exact .none
      | some ahead => exact .some ⟨List.Perm.refl _, rfl⟩
  | skip started =>
      apply Forecast.inOrder_of_first
      rw [Task.forecast?, started]
      exact .some (.refl _)
  | back all =>
      apply Forecast.inOrder_of_first
      rw [forecast?_of_loaded? all]
      exact .some (.refl _)
  | inside _ inductionHypothesis =>
      rw [mapped]
      exact Forecast.inOrder_of_first (Forecast.inside_of_level inductionHypothesis _ _) _
  | afterWaiting _ inductionHypothesis =>
      rw [mapped]
      exact Forecast.inOrder_of_rest inductionHypothesis _
  | afterEntered _ inductionHypothesis =>
      rw [mapped]
      exact Forecast.inOrder_of_rest inductionHypothesis _
  | afterReturned _ inductionHypothesis =>
      rw [mapped]
      exact Forecast.inOrder_of_rest inductionHypothesis _

theorem Fails.forecast?_eq {error : AccessError} (fails : tasks.Fails store error) :
    tasks.forecast? store = none := by
  have noRest : ∀ first, Forecast.inOrder first none = none := by
    intro first
    cases first <;> rfl
  induction fails with
  | unknown target => rfl
  | refused started =>
      simp only [forecast?, Task.forecast?, started]
      rfl
  | unavailable started refused =>
      simp only [forecast?, Task.forecast?, started, if_pos refused]
      rfl
  | inside _ inductionHypothesis =>
      simp only [forecast?, inductionHypothesis]
      rfl
  | afterWaiting _ inductionHypothesis => simp only [forecast?, inductionHypothesis, noRest]
  | afterEntered _ inductionHypothesis => simp only [forecast?, inductionHypothesis, noRest]
  | afterReturned _ inductionHypothesis => simp only [forecast?, inductionHypothesis, noRest]

/-- Tasks have all returned, or one of them fails, or one of them can go on. -/
theorem loaded_or_fails_or_steps (tasks : Tasks) (store : Store) :
    (∃ loaded, tasks.loaded? = some loaded) ∨ (∃ error, tasks.Fails store error) ∨
      ∃ sent next, tasks.Step store sent next := by
  induction tasks with
  | nil => exact Or.inl ⟨[], rfl⟩
  | unknown target => exact Or.inr (Or.inl ⟨_, .unknown target⟩)
  | waiting task below rest _ =>
      right
      cases started : task.start with
      | nothing => exact Or.inr ⟨_, _, .skip started⟩
      | failure error => exact Or.inl ⟨error, .refused started⟩
      | call call nested =>
          by_cases refused : call.request.collection ∈ store.unavailable
          · exact Or.inl ⟨_, .unavailable started refused⟩
          · exact Or.inr ⟨_, _, .call started refused⟩
  | entered task found level rest levelHypothesis _ =>
      right
      rcases levelHypothesis with ⟨loaded, all⟩ | ⟨error, fails⟩ | ⟨sent, next, step⟩
      · exact Or.inr ⟨_, _, .back all⟩
      · exact Or.inl ⟨error, .inside fails⟩
      · exact Or.inr ⟨_, _, .inside step⟩
  | returned loaded rest restHypothesis =>
      rcases restHypothesis with ⟨later, all⟩ | ⟨error, fails⟩ | ⟨sent, next, step⟩
      · exact Or.inl ⟨loaded :: later, by simp only [loaded?, all, Option.map_some]⟩
      · exact Or.inr (Or.inl ⟨error, .afterReturned fails⟩)
      · exact Or.inr (Or.inr ⟨_, _, .afterReturned step⟩)

end Tasks

/-! ## The order of requests -/

namespace Sent

theorem place_later (sent : Sent) : sent.later.place = sent.place.modifyHead (· + 1) := rfl

theorem place_below (sent : Sent) : sent.below.place = 0 :: sent.place := rfl

theorem later_prefix_iff {sent other : Sent} (placed : sent.place ≠ []) :
    sent.later.place <+: other.later.place ↔ sent.place <+: other.place := by
  simp only [place_later]
  cases first : sent.place with
  | nil => exact absurd first placed
  | cons position rest =>
      cases second : other.place with
      | nil => simp
      | cons otherPosition otherRest => simp [List.cons_prefix_cons]

end Sent

namespace Forecast

variable {α : Type}

/-- Every request has a place on the level. -/
def Placed (forecast : Forecast α) : Prop := ∀ sent ∈ forecast.sent, sent.place ≠ []

/-- All requests are those of the first relation, and of what is below it. -/
def First (forecast : Forecast α) : Prop :=
  ∀ sent ∈ forecast.sent, ∃ rest, sent.place = 0 :: rest

/-- The requests are in the order of their places. -/
def Ordered (forecast : Forecast α) : Prop :=
  forecast.sent.Pairwise fun earlier later => Precedes earlier.place later.place

theorem first_inside (task : Task) (found : List Document) (level : Forecast (List Loaded)) :
    (inside task found level).First := by
  intro sent member
  rcases List.mem_map.mp member with ⟨inner, _, rfl⟩
  exact ⟨inner.place, rfl⟩

theorem first_entered {task : Task} {found : List Document}
    {level : Option (Forecast (List Loaded))} {forecast : Forecast Loaded}
    (foretold : level.map (inside task found) = some forecast) : forecast.First := by
  rcases Option.map_eq_some_iff.mp foretold with ⟨ahead, _, rfl⟩
  exact first_inside task found ahead

theorem first_returned {loaded : Loaded} {forecast : Forecast Loaded}
    (foretold : some ⟨[], loaded⟩ = some forecast) : forecast.First := by
  cases foretold
  intro sent member
  cases member

theorem first_task {task : Task} {store : Store}
    {level : Batch → List Document → Option (Forecast (List Loaded))} {forecast : Forecast Loaded}
    (foretold : task.forecast? store level = some forecast) : forecast.First := by
  intro sent member
  unfold Task.forecast? at foretold
  split at foretold
  · cases foretold
    cases member
  · cases foretold
  · split at foretold
    · cases foretold
    · rcases Option.map_eq_some_iff.mp foretold with ⟨ahead, _, rfl⟩
      rcases List.mem_cons.mp member with rfl | inside
      · exact ⟨[], rfl⟩
      · exact first_inside _ _ _ sent inside

theorem inOrder_eq_some {first : Option (Forecast Loaded)}
    {rest : Option (Forecast (List Loaded))} {forecast : Forecast (List Loaded)}
    (foretold : inOrder first rest = some forecast) :
    ∃ now later, first = some now ∧ rest = some later ∧
      forecast = ⟨now.sent ++ later.sent.map Sent.later, now.result :: later.result⟩ := by
  rcases Option.bind_eq_some_iff.mp foretold with ⟨now, isNow, mapped⟩
  rcases Option.map_eq_some_iff.mp mapped with ⟨later, isLater, rfl⟩
  exact ⟨now, later, isNow, isLater, rfl⟩

section InOrder

variable {first : Option (Forecast Loaded)} {rest : Option (Forecast (List Loaded))}
  {forecast : Forecast (List Loaded)}

theorem placed_inOrder (foretold : inOrder first rest = some forecast)
    (firstFirst : ∀ now, first = some now → now.First)
    (restPlaced : ∀ later, rest = some later → later.Placed) : forecast.Placed := by
  rcases inOrder_eq_some foretold with ⟨now, later, isNow, isLater, rfl⟩
  intro sent member
  rcases List.mem_append.mp member with inNow | inLater
  · rcases firstFirst now isNow sent inNow with ⟨rest, place⟩
    simp [place]
  · rcases List.mem_map.mp inLater with ⟨inner, innerMember, rfl⟩
    have placed := restPlaced later isLater inner innerMember
    simpa [Sent.place_later] using placed

/-- What the first relation sends is not below what the others send. -/
theorem not_prefix_of_first (foretold : inOrder first rest = some forecast)
    (restPlaced : ∀ later, rest = some later → later.Placed) {earlier : Sent} {path : List Nat}
    (isFirst : earlier.place = 0 :: path)
    (firstFine : ∀ now, first = some now → ∀ sent ∈ now.sent, ¬ sent.place <+: earlier.place) :
    ∀ sent ∈ forecast.sent, ¬ sent.place <+: earlier.place := by
  rcases inOrder_eq_some foretold with ⟨now, later, isNow, isLater, rfl⟩
  intro sent member
  rcases List.mem_append.mp member with inNow | inLater
  · exact firstFine now isNow sent inNow
  · rcases List.mem_map.mp inLater with ⟨inner, innerMember, rfl⟩
    have placed := restPlaced later isLater inner innerMember
    rw [isFirst, Sent.place_later]
    cases split : inner.place with
    | nil => exact absurd split placed
    | cons position rest => simp [List.cons_prefix_cons]

/-- What the other relations send is not below what the first one sends. -/
theorem not_prefix_of_rest (foretold : inOrder first rest = some forecast)
    (firstFirst : ∀ now, first = some now → now.First)
    (restPlaced : ∀ later, rest = some later → later.Placed) {earlier : Sent}
    (restFine : ∀ later, rest = some later →
      ∀ sent ∈ later.sent, ¬ sent.place <+: earlier.place) :
    ∀ sent ∈ forecast.sent, ¬ sent.place <+: earlier.later.place := by
  rcases inOrder_eq_some foretold with ⟨now, later, isNow, isLater, rfl⟩
  intro sent member
  rcases List.mem_append.mp member with inNow | inLater
  · rcases firstFirst now isNow sent inNow with ⟨rest, place⟩
    rw [place, Sent.place_later]
    cases earlier.place <;> simp [List.cons_prefix_cons]
  · rcases List.mem_map.mp inLater with ⟨inner, innerMember, rfl⟩
    rw [Sent.later_prefix_iff (restPlaced later isLater inner innerMember)]
    exact restFine later isLater inner innerMember

end InOrder

end Forecast

theorem Plan.placed_forecast? {plan : Plan} {store : Store} {batch : Batch}
    {owners : List Document} {forecast : Forecast (List Loaded)}
    (foretold : plan.forecast? store batch owners = some forecast) : forecast.Placed := by
  induction plan generalizing forecast with
  | done =>
      cases foretold
      simp [Forecast.Placed]
  | unknown target => cases foretold
  | load step below rest _ restHypothesis =>
      exact Forecast.placed_inOrder foretold (fun _ => Forecast.first_task)
        fun _ => restHypothesis

/-! ### The order in sequence -/

theorem Sent.precedes_later {sent other : Sent} (placed : sent.place ≠ [])
    (precedes : Precedes sent.place other.place) :
    Precedes sent.later.place other.later.place := by
  simp only [place_later]
  cases first : sent.place with
  | nil => exact absurd first placed
  | cons position rest =>
      cases second : other.place with
      | nil => simp [first, second] at precedes
      | cons otherPosition otherRest => simpa [first, second] using precedes

theorem Forecast.ordered_task {task : Task} {store : Store}
    {level : Batch → List Document → Option (Forecast (List Loaded))} {forecast : Forecast Loaded}
    (levelFine : ∀ nested found ahead, level nested found = some ahead →
      ahead.Placed ∧ ahead.Ordered)
    (foretold : task.forecast? store level = some forecast) : forecast.Ordered := by
  unfold Task.forecast? at foretold
  split at foretold
  · cases foretold
    exact List.Pairwise.nil
  · cases foretold
  · split at foretold
    · cases foretold
    · rcases Option.map_eq_some_iff.mp foretold with ⟨ahead, isAhead, rfl⟩
      rcases levelFine _ _ ahead isAhead with ⟨placed, ordered⟩
      apply List.Pairwise.cons
      · intro sent member
        rcases List.mem_map.mp member with ⟨inner, innerMember, rfl⟩
        cases split : inner.place with
        | nil => exact absurd split (placed inner innerMember)
        | cons position rest => simp [Sent.place_below, split]
      · apply List.pairwise_map.mpr
        refine ordered.imp ?_
        intro earlier later precedes
        simpa [Sent.place_below] using precedes

theorem Plan.ordered_forecast? {plan : Plan} {store : Store} {batch : Batch}
    {owners : List Document} {forecast : Forecast (List Loaded)}
    (foretold : plan.forecast? store batch owners = some forecast) : forecast.Ordered := by
  induction plan generalizing batch owners forecast with
  | done =>
      cases foretold
      exact List.Pairwise.nil
  | unknown target => cases foretold
  | load step below rest belowHypothesis restHypothesis =>
      rcases Forecast.inOrder_eq_some foretold with ⟨now, later, isNow, isLater, rfl⟩
      have firstFirst := Forecast.first_task isNow
      have restPlaced := placed_forecast? isLater
      apply List.pairwise_append.mpr
      -- Within the first relation, among the others, and across.
      refine ⟨Forecast.ordered_task ?_ isNow, ?_, ?_⟩
      · intro nested found ahead isAhead
        split at isAhead
        · cases isAhead
          exact ⟨by simp [Forecast.Placed], List.Pairwise.nil⟩
        · exact ⟨placed_forecast? isAhead, belowHypothesis () isAhead⟩
      · apply List.pairwise_map.mpr
        refine (restHypothesis isLater).imp_of_mem ?_
        intro earlier sent member _ precedes
        exact Sent.precedes_later (restPlaced earlier member) precedes
      · intro earlier isEarlier sent member
        rcases firstFirst earlier isEarlier with ⟨path, place⟩
        rcases List.mem_map.mp member with ⟨inner, innerMember, rfl⟩
        rw [place, Sent.place_later]
        cases split : inner.place with
        | nil => exact absurd split (restPlaced inner innerMember)
        | cons position rest => simp

namespace Tasks

variable {store : Store} {tasks next : Tasks} {sent : Option Sent}

theorem placed_forecast? {forecast : Forecast (List Loaded)}
    (foretold : tasks.forecast? store = some forecast) : forecast.Placed := by
  induction tasks generalizing forecast with
  | nil =>
      cases foretold
      simp [Forecast.Placed]
  | unknown target => cases foretold
  | waiting task below rest restHypothesis =>
      exact Forecast.placed_inOrder foretold (fun _ => Forecast.first_task)
        fun _ => restHypothesis
  | entered task found level rest _ restHypothesis =>
      exact Forecast.placed_inOrder foretold (fun _ => Forecast.first_entered)
        fun _ => restHypothesis
  | returned loaded rest restHypothesis =>
      exact Forecast.placed_inOrder foretold (fun _ => Forecast.first_returned)
        fun _ => restHypothesis

/-- Nothing that is sent after a request is sent above it. -/
theorem Step.not_prefix (step : tasks.Step store sent next) {forecast : Forecast (List Loaded)}
    (foretold : next.forecast? store = some forecast) :
    ∀ earlier ∈ sent, ∀ later ∈ forecast.sent, ¬ later.place <+: earlier.place := by
  have restPlaced : ∀ {rest : Tasks} later, rest.forecast? store = some later → later.Placed :=
    fun _ => placed_forecast?
  induction step generalizing forecast with
  | call started accepted =>
      intro earlier isEarlier
      cases isEarlier
      apply Forecast.not_prefix_of_first foretold restPlaced rfl
      intro now isNow sent member
      rcases Option.map_eq_some_iff.mp isNow with ⟨ahead, isAhead, rfl⟩
      rcases List.mem_map.mp member with ⟨inner, innerMember, rfl⟩
      have placed := placed_forecast? isAhead inner innerMember
      simpa [Sent.place_below, List.cons_prefix_cons] using placed
  | skip => simp
  | back => simp
  | inside _ inductionHypothesis =>
      intro earlier isEarlier
      rcases Option.map_eq_some_iff.mp isEarlier with ⟨inner, isInner, rfl⟩
      apply Forecast.not_prefix_of_first foretold restPlaced rfl
      intro now isNow sent member
      rcases Option.map_eq_some_iff.mp isNow with ⟨ahead, isAhead, rfl⟩
      rcases List.mem_map.mp member with ⟨deeper, deeperMember, rfl⟩
      simp only [Sent.place_below, List.cons_prefix_cons, true_and]
      exact inductionHypothesis isAhead inner isInner deeper deeperMember
  | afterWaiting _ inductionHypothesis =>
      intro earlier isEarlier
      rcases Option.map_eq_some_iff.mp isEarlier with ⟨inner, isInner, rfl⟩
      exact Forecast.not_prefix_of_rest foretold (fun _ => Forecast.first_task) restPlaced
        fun _ isLater => inductionHypothesis isLater inner isInner
  | afterEntered _ inductionHypothesis =>
      intro earlier isEarlier
      rcases Option.map_eq_some_iff.mp isEarlier with ⟨inner, isInner, rfl⟩
      exact Forecast.not_prefix_of_rest foretold (fun _ => Forecast.first_entered) restPlaced
        fun _ isLater => inductionHypothesis isLater inner isInner
  | afterReturned _ inductionHypothesis =>
      intro earlier isEarlier
      rcases Option.map_eq_some_iff.mp isEarlier with ⟨inner, isInner, rfl⟩
      exact Forecast.not_prefix_of_rest foretold (fun _ => Forecast.first_returned) restPlaced
        fun _ isLater => inductionHypothesis isLater inner isInner

end Tasks

end RecordGraph
