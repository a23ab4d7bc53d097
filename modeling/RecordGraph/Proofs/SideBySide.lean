import Mathlib.Data.List.Forall2
import RecordGraph.Adapter
import RecordGraph.Proofs.Interleaving

/-!
# Loading side by side is an interleaving

When store calls complete after a pause, the relations of a level are loaded by processes
that are joined, in rounds or in turns.  Whatever a joined process does from one pause to
the next, the tasks of the level can do step by step, so that loading side by side is one of
the runs of a resolution.
-/

namespace RecordGraph

/-! ## What processes log -/

/-- The requests among some entries. -/
def Entry.requests (entries : List Entry) : List Request :=
  entries.filterMap fun entry =>
    match entry with
    | .event _ => none
    | .request logged => some logged

theorem Entry.requests_append (earlier later : List Entry) :
    requests (earlier ++ later) = requests earlier ++ requests later :=
  List.filterMap_append

theorem Session.log_writeAll (session : Session) (entries : List Entry) :
    (session.writeAll entries).store.log = session.store.log ++ Entry.requests entries := by
  induction entries generalizing session with
  | nil => simp [writeAll, Entry.requests]
  | cons entry rest inductionHypothesis =>
      have resumed := inductionHypothesis (session.write entry)
      rw [writeAll, List.foldl_cons, ← writeAll, resumed]
      cases entry <;> simp [write, Entry.requests]

/-! ## Steps in a row -/

namespace Tasks

variable {store : Store} {tasks first second last rest next : Tasks} {requests : List Request}

/-- Tasks take steps, and make requests with them. -/
inductive Reaches (store : Store) : Tasks → List Request → Tasks → Prop
  | refl (tasks : Tasks) : Reaches store tasks [] tasks
  | step {first second last : Tasks} {sent : Option Sent} {requests : List Request} :
      first.Step store sent second → Reaches store second requests last →
      Reaches store first ((sent.map Sent.request).toList ++ requests) last

theorem Reaches.trans {more : List Request} (reached : first.Reaches store requests second)
    (reachedMore : second.Reaches store more last) :
    first.Reaches store (requests ++ more) last := by
  induction reached with
  | refl tasks => exact reachedMore
  | step taken _ inductionHypothesis =>
      rw [List.append_assoc]
      exact .step taken (inductionHypothesis reachedMore)

theorem Reaches.noting {entries noted : List Entry}
    (reached : first.Reaches store (Entry.requests entries) second)
    (reachedMore : second.Reaches store (Entry.requests noted) last) :
    first.Reaches store (Entry.requests (entries ++ noted)) last := by
  rw [Entry.requests_append]
  exact reached.trans reachedMore

theorem Reaches.of_step {sent : Option Sent} (taken : first.Step store sent second) :
    first.Reaches store (sent.map Sent.request).toList second := by
  rw [← List.append_nil (sent.map Sent.request).toList]
  exact .step taken (.refl second)

theorem Reaches.inside {level : Tasks} (reached : level.Reaches store requests next) (task : Task)
    (found : List Document) (rest : Tasks) :
    (entered task found level rest).Reaches store requests (entered task found next rest) := by
  induction reached with
  | refl tasks => exact .refl _
  | @step _ _ _ sent _ taken _ inductionHypothesis =>
      have sameRequest : (sent.map Sent.below).map Sent.request = sent.map Sent.request := by
        cases sent <;> rfl
      rw [← sameRequest]
      exact .step (.inside taken) inductionHypothesis

/-! ## Tasks in line -/

/-- The tasks of some relations, followed by those of others.  Nothing follows a relation
with an unregistered target. -/
def append : Tasks → Tasks → Tasks
  | .nil, others => others
  | .unknown target, _ => .unknown target
  | .waiting task below rest, others => .waiting task below (rest.append others)
  | .entered task found level rest, others => .entered task found level (rest.append others)
  | .returned loaded rest, others => .returned loaded (rest.append others)

/-- The task of one relation, with a registered target. -/
inductive Single : Tasks → Prop
  | waiting (task : Task) (below : Unit → Plan) : Single (.waiting task below .nil)
  | entered (task : Task) (found : List Document) (level : Tasks) :
      Single (.entered task found level .nil)
  | returned (loaded : Loaded) : Single (.returned loaded .nil)

theorem Single.step (single : tasks.Single) {sent : Option Sent}
    (taken : tasks.Step store sent next) : next.Single := by
  cases single with
  | waiting task below =>
      cases taken with
      | call _ _ => exact .entered _ _ _
      | skip _ => exact .returned _
      | afterWaiting impossible => cases impossible
  | entered task found level =>
      cases taken with
      | back _ => exact .returned _
      | inside _ => exact .entered _ _ _
      | afterEntered impossible => cases impossible
  | returned loaded =>
      cases taken with
      | afterReturned impossible => cases impossible

theorem Single.reaches (single : tasks.Single) (reached : tasks.Reaches store requests next) :
    next.Single := by
  induction reached with
  | refl tasks => exact single
  | step taken _ inductionHypothesis => exact inductionHypothesis (single.step taken)

theorem Step.append {sent : Option Sent} (taken : tasks.Step store sent next) (others : Tasks) :
    (tasks.append others).Step store sent (next.append others) := by
  induction taken with
  | call started accepted => exact .call started accepted
  | skip started => exact .skip started
  | back all => exact .back all
  | inside taken _ => exact .inside taken
  | afterWaiting _ inductionHypothesis => exact .afterWaiting inductionHypothesis
  | afterEntered _ inductionHypothesis => exact .afterEntered inductionHypothesis
  | afterReturned _ inductionHypothesis => exact .afterReturned inductionHypothesis

theorem Fails.append {error : AccessError} (fails : tasks.Fails store error) (others : Tasks) :
    (tasks.append others).Fails store error := by
  induction fails with
  | unknown target => exact .unknown target
  | refused started => exact .refused started
  | unavailable started refused => exact .unavailable started refused
  | inside fails _ => exact .inside fails
  | afterWaiting _ inductionHypothesis => exact .afterWaiting inductionHypothesis
  | afterEntered _ inductionHypothesis => exact .afterEntered inductionHypothesis
  | afterReturned _ inductionHypothesis => exact .afterReturned inductionHypothesis

theorem Single.step_append (single : first.Single) {sent : Option Sent}
    (taken : tasks.Step store sent next) :
    (first.append tasks).Step store (sent.map Sent.later) (first.append next) := by
  cases single with
  | waiting task below => exact .afterWaiting taken
  | entered task found level => exact .afterEntered taken
  | returned loaded => exact .afterReturned taken

theorem Single.fails_append (single : first.Single) {error : AccessError}
    (fails : tasks.Fails store error) : (first.append tasks).Fails store error := by
  cases single with
  | waiting task below => exact .afterWaiting fails
  | entered task found level => exact .afterEntered fails
  | returned loaded => exact .afterReturned fails

theorem Reaches.append (reached : tasks.Reaches store requests next) (others : Tasks) :
    (tasks.append others).Reaches store requests (next.append others) := by
  induction reached with
  | refl tasks => exact .refl _
  | step taken _ inductionHypothesis => exact .step (taken.append others) inductionHypothesis

theorem Single.reaches_append (single : first.Single)
    (reached : tasks.Reaches store requests next) :
    (first.append tasks).Reaches store requests (first.append next) := by
  induction reached with
  | refl tasks => exact .refl _
  | @step _ _ _ sent _ taken _ inductionHypothesis =>
      have sameRequest : (sent.map Sent.later).map Sent.request = sent.map Sent.request := by
        cases sent <;> rfl
      rw [← sameRequest]
      exact .step (single.step_append taken) inductionHypothesis

/-- The tasks of several relations, in order. -/
def inLine (lineup : List Tasks) : Tasks := lineup.foldr append .nil

end Tasks

/-! ## Processes that tasks carry out -/

namespace Process

variable {store : Store} {α β : Type}

/-- Tasks are done with a result, or can fail with an error. -/
def Ends (store : Store) (finished : α → Tasks → Prop) : Except AccessError α → Tasks → Prop
  | .ok result, tasks => finished result tasks
  | .error error, tasks => tasks.Fails store error

/-- Tasks can do what a process does, one step after the other: they make the same requests,
and come to the same end. -/
def CarriedOut (store : Store) (finished : α → Tasks → Prop) : Process α → Tasks → Prop
  | .done entries outcome, tasks =>
      ∃ after, tasks.Reaches store (Entry.requests entries) after ∧
        Ends store finished outcome after
  | .pause entries next, tasks =>
      ∃ after, tasks.Reaches store (Entry.requests entries) after ∧
        (next ()).CarriedOut store finished after

theorem CarriedOut.after {finished : α → Tasks → Prop} {process : Process α}
    {tasks between : Tasks} {entries : List Entry}
    (reached : tasks.Reaches store (Entry.requests entries) between)
    (carried : process.CarriedOut store finished between) :
    (process.after entries).CarriedOut store finished tasks := by
  cases process with
  | done noted outcome =>
      rcases carried with ⟨after, reachedAfter, ends⟩
      exact ⟨after, reached.noting reachedAfter, ends⟩
  | pause noted next =>
      rcases carried with ⟨after, reachedAfter, goesOn⟩
      exact ⟨after, reached.noting reachedAfter, goesOn⟩

theorem CarriedOut.map {finished : α → Tasks → Prop} {changed : β → Tasks → Prop}
    {process : Process α} {tasks : Tasks} {change : α → β}
    (carried : process.CarriedOut store finished tasks)
    (changes : ∀ result after, finished result after → changed (change result) after) :
    (process.map change).CarriedOut store changed tasks := by
  induction process generalizing tasks with
  | done entries outcome =>
      rcases carried with ⟨after, reached, ends⟩
      cases outcome with
      | error error => exact ⟨after, reached, ends⟩
      | ok result => exact ⟨after, reached, changes result after ends⟩
  | pause entries next inductionHypothesis =>
      rcases carried with ⟨after, reached, goesOn⟩
      exact ⟨after, reached, inductionHypothesis () goesOn⟩

/-- The tasks of a level have loaded everything. -/
def AllLoaded (loaded : List Loaded) (tasks : Tasks) : Prop := tasks.loaded? = some loaded

/-- The only task has returned. -/
def HasReturned (loaded : Loaded) (tasks : Tasks) : Prop := tasks = .returned loaded .nil

/-- The tasks of a level have loaded what makes the owners the given records. -/
def AllAttached (owners attached : List Document) (tasks : Tasks) : Prop :=
  ∃ loaded, tasks.loaded? = some loaded ∧ attached = Loaded.attachTo owners loaded

/-- The level below a task is carried out inside of it. -/
theorem CarriedOut.inside {task : Task} {found : List Document}
    {process : Process (List Document)} {level : Tasks}
    (carried : process.CarriedOut store (AllAttached found) level) :
    (process.map (Loaded.mk task)).CarriedOut store HasReturned
      (.entered task found level .nil) := by
  induction process generalizing level with
  | done entries outcome =>
      rcases carried with ⟨after, reached, ends⟩
      have reachedInside := reached.inside task found .nil
      cases outcome with
      | error error => exact ⟨_, reachedInside, .inside ends⟩
      | ok attached =>
          rcases ends with ⟨loaded, all, rfl⟩
          refine ⟨_, ?_, rfl⟩
          rw [← List.append_nil (Entry.requests entries)]
          exact reachedInside.trans (.of_step (.back all))
  | pause entries next inductionHypothesis =>
      rcases carried with ⟨after, reached, goesOn⟩
      exact ⟨_, reached.inside task found .nil, inductionHypothesis () goesOn⟩

end Process

theorem Task.process_carriedOut (task : Task) {store : Store} {below : Unit → Plan}
    {belowProcess : Batch → List Document → Process (List Document)}
    (belowCarried : ∀ nested found, (belowProcess nested found).CarriedOut store
      (Process.AllAttached found) ((below ()).enter nested found)) :
    (task.process store belowProcess).CarriedOut store Process.HasReturned
      (.waiting task below .nil) := by
  unfold process
  cases started : task.start with
  | nothing => exact ⟨_, .of_step (.skip started), rfl⟩
  | failure error => exact ⟨_, .refl _, .refused started⟩
  | call call nested =>
      refine ⟨_, .refl _, ?_⟩
      by_cases refused : call.request.collection ∈ store.unavailable
      · simp only [Store.attempt, if_pos refused]
        exact ⟨_, .refl _, .unavailable started refused⟩
      · simp only [Store.attempt, if_neg refused]
        exact (belowCarried nested _).inside.after (.of_step (.call started refused))

/-! ## Rounds -/

namespace Process

variable {store : Store} {lineup : List Tasks}

/-- A task is as far as a process between two rounds. -/
def Member.IsAt (store : Store) : Member Loaded → Tasks → Prop
  | .ended loaded, tasks => HasReturned loaded tasks
  | .waiting next, tasks => tasks.Single ∧ (next ()).CarriedOut store HasReturned tasks

/-- Tasks in line are as far as processes between two rounds. -/
def AreAt (store : Store) (members : List (Member Loaded)) (tasks : Tasks) : Prop :=
  ∃ lineup, tasks = Tasks.inLine lineup ∧ List.Forall₂ (Member.IsAt store) members lineup

/-- The first process has its share in a round, before the others. -/
theorem round_goesOn {tasks between after : Tasks} {noted later : List Entry}
    {member : Member Loaded} {outcome : Except AccessError (List (Member Loaded))}
    (reachedFirst : tasks.Reaches store (Entry.requests noted) between)
    (single : between.Single) (isAt : member.IsAt store between)
    (reached : (Tasks.inLine lineup).Reaches store (Entry.requests later) after)
    (ends : Ends store (AreAt store) outcome after) :
    ∃ after,
      (Tasks.inLine (tasks :: lineup)).Reaches store (Entry.requests (noted ++ later)) after ∧
      Ends store (AreAt store) (outcome.map (member :: ·)) after := by
  refine ⟨between.append after, ?_, ?_⟩
  · exact (reachedFirst.append _).noting (single.reaches_append reached)
  · cases outcome with
    | error error => exact single.fails_append ends
    | ok further =>
        rcases ends with ⟨others, rfl, restAt⟩
        exact ⟨between :: others, rfl, .cons isAt restAt⟩

/-- What processes do in a round, tasks in line can do, and are then as far. -/
theorem round_carriedOut {members : List (Member Loaded)} {entries : List Entry}
    {outcome : Except AccessError (List (Member Loaded))}
    (located : List.Forall₂ (Member.IsAt store) members lineup)
    (resumed : round members = (entries, outcome)) :
    ∃ after, (Tasks.inLine lineup).Reaches store (Entry.requests entries) after ∧
      Ends store (AreAt store) outcome after := by
  -- A failure ends the round, so the processes after it have done nothing.
  induction located generalizing entries outcome with
  | nil =>
      cases resumed
      exact ⟨_, .refl _, [], rfl, .nil⟩
  | @cons member tasks rest others isAt restAt inductionHypothesis =>
      rcases roundRest : round rest with ⟨later, laterOutcome⟩
      rcases inductionHypothesis roundRest with ⟨after, reached, ends⟩
      cases member with
      | ended loaded =>
          simp only [round, roundRest] at resumed
          cases resumed
          cases isAt
          have waits : (Tasks.returned loaded .nil).Reaches store (Entry.requests [])
              (.returned loaded .nil) := .refl _
          exact round_goesOn waits (.returned loaded) rfl reached ends
      | waiting next =>
          rcases isAt with ⟨single, carried⟩
          simp only [round, roundRest] at resumed
          cases resumes : next () with
          | done noted ending =>
              rw [resumes] at resumed carried
              rcases carried with ⟨between, reachedBetween, endsBetween⟩
              cases ending with
              | error error =>
                  cases resumed
                  exact ⟨_, reachedBetween.append _, endsBetween.append _⟩
              | ok loaded =>
                  cases resumed
                  cases endsBetween
                  exact round_goesOn reachedBetween (.returned loaded) rfl reached ends
          | pause noted following =>
              rw [resumes] at resumed carried
              rcases carried with ⟨between, reachedBetween, goesOn⟩
              cases resumed
              have stillSingle := single.reaches reachedBetween
              exact round_goesOn reachedBetween stillSingle ⟨stillSingle, goesOn⟩ reached ends

theorem allLoaded_of_results? {members : List (Member Loaded)} {results : List Loaded}
    (located : List.Forall₂ (Member.IsAt store) members lineup)
    (all : results? members = some results) : AllLoaded results (Tasks.inLine lineup) := by
  induction located generalizing results with
  | nil =>
      cases all
      rfl
  | @cons member tasks rest others isAt restAt inductionHypothesis =>
      cases member with
      | waiting next => cases all
      | ended loaded =>
          rcases Option.map_eq_some_iff.mp all with ⟨later, allLater, rfl⟩
          have restLoaded : (Tasks.inLine others).loaded? = some later :=
            inductionHypothesis allLater
          cases isAt
          show ((Tasks.inLine others).loaded?).map (loaded :: ·) = _
          rw [restLoaded]
          rfl

theorem inRounds_carriedOut {members : List (Member Loaded)}
    (located : List.Forall₂ (Member.IsAt store) members lineup) :
    (inRounds members).CarriedOut store AllLoaded (Tasks.inLine lineup) := by
  fun_induction inRounds members generalizing lineup with
  | case1 members entries error resumed =>
      exact round_carriedOut located resumed
  | case2 members entries further resumed results all =>
      rcases round_carriedOut located resumed with ⟨_, reached, later, rfl, restAt⟩
      exact ⟨_, reached, allLoaded_of_results? restAt all⟩
  | case3 members entries further resumed unfinished inductionHypothesis =>
      rcases round_carriedOut located resumed with ⟨_, reached, later, rfl, restAt⟩
      exact ⟨_, reached, inductionHypothesis restAt⟩

/-! ## Turns -/

/-- A task agrees with what is known of its outcome. -/
def Known (store : Store) : Option (Except AccessError Loaded) → Tasks → Prop
  | none, tasks => tasks.Single
  | some outcome, tasks => tasks.Single ∧ Ends store HasReturned outcome tasks

theorem Known.single {known : Option (Except AccessError Loaded)} {tasks : Tasks}
    (isKnown : Known store known tasks) : tasks.Single := by
  cases known with
  | none => exact isKnown
  | some outcome => exact isKnown.1

/-- The queue of a join: every process whose outcome is not known waits at one place in it,
and its task is as far as the process. -/
structure Queued (store : Store) (outcomes : List (Option (Except AccessError Loaded)))
    (queue : List (Nat × (Unit → Process Loaded))) (lineup : List Tasks) : Prop where
  known : List.Forall₂ (Known store) outcomes lineup
  undecided : verdict? outcomes = none
  once : (queue.map Prod.fst).Nodup
  all : ∀ place : Nat, outcomes[place]? = some none → place ∈ queue.map Prod.fst
  waiting : ∀ entry ∈ queue, outcomes[entry.1]? = some none ∧
    ∃ tasks, lineup[entry.1]? = some tasks ∧
      (entry.2 ()).CarriedOut store HasReturned tasks

theorem ends_of_verdict? {outcomes : List (Option (Except AccessError Loaded))}
    {verdict : Except AccessError (List Loaded)}
    (known : List.Forall₂ (Known store) outcomes lineup)
    (decided : verdict? outcomes = some verdict) :
    Ends store AllLoaded verdict (Tasks.inLine lineup) := by
  induction known generalizing verdict with
  | nil =>
      cases decided
      rfl
  | @cons outcome tasks rest others isKnown restKnown inductionHypothesis =>
      rcases outcome with _ | error | loaded
      · cases decided
      · cases decided
        exact isKnown.2.append _
      · rcases Option.map_eq_some_iff.mp decided with ⟨restVerdict, restDecided, rfl⟩
        have restEnds := inductionHypothesis restDecided
        rcases isKnown with ⟨single, rfl⟩
        cases restVerdict with
        | error error => exact single.fails_append restEnds
        | ok later =>
            have restLoaded : (Tasks.inLine others).loaded? = some later := restEnds
            show ((Tasks.inLine others).loaded?).map (loaded :: ·) = _
            rw [restLoaded]
            rfl

theorem exists_waiting_of_undecided {outcomes : List (Option (Except AccessError Loaded))}
    (undecided : verdict? outcomes = none) : ∃ place : Nat, outcomes[place]? = some none := by
  induction outcomes with
  | nil => cases undecided
  | cons outcome rest inductionHypothesis =>
      rcases outcome with _ | error | loaded
      · exact ⟨0, rfl⟩
      · cases undecided
      · rcases inductionHypothesis (Option.map_eq_none_iff.mp undecided) with ⟨place, waits⟩
        exact ⟨place + 1, waits⟩

theorem reaches_set {place : Nat} {tasks next : Tasks} {requests : List Request}
    (single : ∀ tasks ∈ lineup, tasks.Single) (there : lineup[place]? = some tasks)
    (reached : tasks.Reaches store requests next) :
    (Tasks.inLine lineup).Reaches store requests (Tasks.inLine (lineup.set place next)) := by
  induction lineup generalizing place with
  | nil => cases there
  | cons first rest inductionHypothesis =>
      cases place with
      | zero =>
          cases there
          exact reached.append _
      | succ place =>
          have restSingle : ∀ tasks ∈ rest, tasks.Single :=
            fun tasks member => single tasks (List.mem_cons_of_mem _ member)
          exact (single first List.mem_cons_self).reaches_append
            (inductionHypothesis restSingle there)

theorem known_set {outcomes : List (Option (Except AccessError Loaded))}
    {outcome : Option (Except AccessError Loaded)} {tasks : Tasks}
    (known : List.Forall₂ (Known store) outcomes lineup) (place : Nat)
    (isKnown : Known store outcome tasks) :
    List.Forall₂ (Known store) (outcomes.set place outcome) (lineup.set place tasks) := by
  induction known generalizing place with
  | nil => exact .nil
  | cons firstKnown restKnown inductionHypothesis =>
      cases place with
      | zero => exact .cons isKnown restKnown
      | succ place => exact .cons firstKnown (inductionHypothesis place)

theorem single_of_known {outcomes : List (Option (Except AccessError Loaded))}
    (known : List.Forall₂ (Known store) outcomes lineup) :
    ∀ tasks ∈ lineup, tasks.Single := by
  induction known with
  | nil =>
      intro tasks member
      cases member
  | cons firstKnown _ inductionHypothesis =>
      intro tasks member
      rcases List.mem_cons.mp member with rfl | inRest
      · exact firstKnown.single
      · exact inductionHypothesis tasks inRest

namespace Queued

variable {outcomes : List (Option (Except AccessError Loaded))} {place : Nat}
  {next : Unit → Process Loaded} {rest : List (Nat × (Unit → Process Loaded))}

/-- The others wait as before when something happens to the first in the queue. -/
theorem others_waiting (queued : Queued store outcomes ((place, next) :: rest) lineup)
    (outcome : Option (Except AccessError Loaded)) (tasks : Tasks) :
    ∀ entry ∈ rest, entry.1 ≠ place ∧ (outcomes.set place outcome)[entry.1]? = some none ∧
      ∃ waiting, (lineup.set place tasks)[entry.1]? = some waiting ∧
        (entry.2 ()).CarriedOut store HasReturned waiting := by
  intro entry member
  have elsewhere : place ≠ entry.1 := by
    intro same
    have once := queued.once
    rw [List.map_cons, List.nodup_cons] at once
    exact once.1 (List.mem_map.mpr ⟨entry, member, same.symm⟩)
  rw [List.getElem?_set_ne elsewhere, List.getElem?_set_ne elsewhere]
  exact ⟨elsewhere.symm, queued.waiting entry (List.mem_cons_of_mem _ member)⟩

theorem first (queued : Queued store outcomes ((place, next) :: rest) lineup) :
    outcomes[place]? = some none ∧ ∃ tasks, lineup[place]? = some tasks ∧ tasks.Single ∧
      (next ()).CarriedOut store HasReturned tasks := by
  rcases queued.waiting (place, next) List.mem_cons_self with ⟨waits, tasks, there, carried⟩
  exact ⟨waits, tasks, there,
    single_of_known queued.known tasks (List.mem_of_getElem? there), carried⟩

theorem ended (queued : Queued store outcomes ((place, next) :: rest) lineup)
    {noted : List Entry} {outcome : Except AccessError Loaded}
    (resumed : next () = .done noted outcome) :
    ∃ after,
      (Tasks.inLine lineup).Reaches store (Entry.requests noted)
        (Tasks.inLine (lineup.set place after)) ∧
      List.Forall₂ (Known store) (outcomes.set place (some outcome)) (lineup.set place after) ∧
      (verdict? (outcomes.set place (some outcome)) = none →
        Queued store (outcomes.set place (some outcome)) rest (lineup.set place after)) := by
  rcases queued.first with ⟨_, tasks, there, single, carried⟩
  rw [resumed] at carried
  rcases carried with ⟨after, reached, ends⟩
  have isKnown : Known store (some outcome) after := ⟨single.reaches reached, ends⟩
  have known := known_set queued.known place isKnown
  refine ⟨after, reaches_set (single_of_known queued.known) there reached, known, ?_⟩
  intro undecided
  have once := queued.once
  rw [List.map_cons, List.nodup_cons] at once
  refine ⟨known, undecided, once.2, ?_, ?_⟩
  · intro other waits
    by_cases same : place = other
    · subst same
      simp [List.getElem?_set] at waits
    · rw [List.getElem?_set_ne same] at waits
      rcases List.mem_cons.mp (queued.all other waits) with isFirst | inRest
      · exact absurd isFirst.symm same
      · exact inRest
  · intro entry member
    exact (queued.others_waiting (some outcome) after entry member).2

theorem paused (queued : Queued store outcomes ((place, next) :: rest) lineup)
    {noted : List Entry} {following : Unit → Process Loaded}
    (resumed : next () = .pause noted following) :
    ∃ after,
      (Tasks.inLine lineup).Reaches store (Entry.requests noted)
        (Tasks.inLine (lineup.set place after)) ∧
      Queued store outcomes (rest ++ [(place, following)]) (lineup.set place after) := by
  rcases queued.first with ⟨waits, tasks, there, single, carried⟩
  rw [resumed] at carried
  rcases carried with ⟨after, reached, goesOn⟩
  have sameOutcomes : outcomes.set place none = outcomes := by
    rcases List.getElem?_eq_some_iff.mp waits with ⟨inRange, isNone⟩
    have unchanged : outcomes.set place outcomes[place] = outcomes := List.set_getElem_self inRange
    rwa [isNone] at unchanged
  have known : List.Forall₂ (Known store) outcomes (lineup.set place after) := by
    have stillNone : Known store none after := single.reaches reached
    have changed := known_set queued.known place stillNone
    rwa [sameOutcomes] at changed
  have samePlaces : (rest ++ [(place, following)]).map Prod.fst =
      rest.map Prod.fst ++ [place] := by simp
  refine ⟨after, reaches_set (single_of_known queued.known) there reached, known,
    queued.undecided, ?_, ?_, ?_⟩
  · rw [samePlaces]
    exact (List.perm_append_singleton place _).nodup_iff.mpr queued.once
  · intro other otherWaits
    rw [samePlaces]
    exact (List.perm_append_singleton place _).mem_iff.mpr (queued.all other otherWaits)
  · intro entry member
    rcases List.mem_append.mp member with inRest | isLast
    · have others := (queued.others_waiting none after entry inRest).2
      rwa [sameOutcomes] at others
    · rcases List.mem_singleton.mp isLast with rfl
      rcases List.getElem?_eq_some_iff.mp there with ⟨inRange, _⟩
      exact ⟨waits, after, by simp [inRange], goesOn⟩

end Queued

theorem inTurns_carriedOut {outcomes : List (Option (Except AccessError Loaded))}
    {queue : List (Nat × (Unit → Process Loaded))} {paused : Bool} {entries : List Entry}
    {tasks : Tasks} (queued : Queued store outcomes queue lineup)
    (reached : tasks.Reaches store (Entry.requests entries) (Tasks.inLine lineup)) :
    (inTurns outcomes queue paused entries).CarriedOut store AllLoaded tasks := by
  fun_induction inTurns outcomes queue paused entries generalizing lineup tasks with
  | case1 outcomes paused entries =>
      -- Somebody waits as long as nothing is decided.
      rcases exists_waiting_of_undecided queued.undecided with ⟨place, waits⟩
      cases queued.all place waits
  | case2 outcomes paused entries place next rest noted outcome resumed known verdict =>
      rename_i decided
      rcases queued.ended resumed with ⟨after, reachedAfter, isKnown, _⟩
      exact ⟨_, reached.noting reachedAfter, ends_of_verdict? isKnown decided⟩
  | case3 outcomes paused entries place next rest noted outcome resumed known undecided =>
      rename_i inductionHypothesis
      rcases queued.ended resumed with ⟨after, reachedAfter, _, stillQueued⟩
      exact inductionHypothesis (stillQueued undecided) (reached.noting reachedAfter)
  | case4 outcomes paused entries place next rest noted following resumed waiting endsTurn =>
      rename_i inductionHypothesis
      rcases queued.paused resumed with ⟨after, reachedAfter, stillQueued⟩
      exact ⟨_, reached.noting reachedAfter, inductionHypothesis stillQueued (.refl _)⟩
  | case5 outcomes paused entries place next rest noted following resumed waiting goesOn =>
      rename_i inductionHypothesis
      rcases queued.paused resumed with ⟨after, reachedAfter, stillQueued⟩
      exact inductionHypothesis stillQueued (reached.noting reachedAfter)

/-! ## Joins -/

/-- A task that has not been started can do what a process does. -/
def Begins (store : Store) (process : Process Loaded) (tasks : Tasks) : Prop :=
  tasks.Single ∧ process.CarriedOut store HasReturned tasks

theorem queued_join {processes : List (Process Loaded)} (nonempty : processes ≠ [])
    (begins : List.Forall₂ (Begins store) processes lineup) :
    Queued store (processes.map fun _ => none)
      ((List.range processes.length).zip (processes.map fun process _ => process)) lineup := by
  have samePlaces : ((List.range processes.length).zip
      (processes.map fun process (_ : Unit) => process)).map Prod.fst =
        List.range processes.length := by
    apply List.map_fst_zip
    simp
  constructor
  case known =>
    rw [List.forall₂_map_left_iff]
    exact begins.imp fun process tasks startsHere => startsHere.1
  case undecided =>
    rcases List.exists_cons_of_ne_nil nonempty with ⟨first, rest, rfl⟩
    rfl
  case once =>
    rw [samePlaces]
    exact List.nodup_range
  case all =>
    intro place waits
    rw [samePlaces, List.mem_range]
    rcases List.getElem?_eq_some_iff.mp waits with ⟨inRange, _⟩
    rwa [List.length_map] at inRange
  case waiting =>
    rintro ⟨place, next⟩ member
    rcases List.getElem?_of_mem member with ⟨index, there⟩
    rcases List.getElem?_zip_eq_some.mp there with ⟨isPlace, isNext⟩
    rcases List.getElem?_eq_some_iff.mp isPlace with ⟨inRange, rfl⟩
    rw [List.length_range] at inRange
    have inLine : index < lineup.length := begins.length_eq ▸ inRange
    have startsHere : Begins store processes[index] lineup[index] := begins.get inRange inLine
    simp only [List.getElem?_map, List.getElem?_eq_getElem inRange, Option.map_some,
      Option.some.injEq] at isNext
    subst isNext
    simp only [List.getElem_range, List.getElem?_map, List.getElem?_eq_getElem inRange,
      List.getElem?_eq_getElem inLine, Option.map_some]
    exact ⟨trivial, _, rfl, startsHere.2⟩

theorem join_carriedOut {processes : List (Process Loaded)}
    (begins : List.Forall₂ (Begins store) processes lineup) :
    (join processes).CarriedOut store AllLoaded (Tasks.inLine lineup) := by
  unfold join
  by_cases few : processes.length ≤ roundLimit
  · rw [if_pos few]
    apply inRounds_carriedOut
    rw [List.forall₂_map_left_iff]
    exact begins
  · rw [if_neg few]
    have nonempty : processes ≠ [] := by
      rintro rfl
      exact few (Nat.zero_le _)
    exact inTurns_carriedOut (queued_join nonempty begins) (.refl _)

end Process

/-! ## Plans -/

namespace Plan

/-- On every level, a relation with an unregistered target stands alone. -/
def Proper : Plan → Prop
  | .done => True
  | .unknown _ => True
  | .load _ below rest =>
      (below ()).Proper ∧ rest.Proper ∧ ∀ target, rest ≠ .unknown target

theorem proper_cons {step : Step} {below : Unit → Plan} {rest : Plan}
    (belowProper : (below ()).Proper) (restProper : rest.Proper) :
    (cons step below rest).Proper := by
  cases rest with
  | done => exact ⟨belowProper, restProper, fun target => Plan.noConfusion⟩
  | unknown target => trivial
  | load _ _ _ => exact ⟨belowProper, restProper, fun target => Plan.noConfusion⟩

theorem proper_ofRelations (catalog : Catalog) (config : Config) (mapper : Mapper)
    (load : EagerLoad) (relations : List Relation) :
    (ofRelations catalog config mapper load relations).Proper := by
  fun_induction ofRelations catalog config mapper load relations with
  | case1 => trivial
  | case2 mapper load relation rest unselected restProper => exact restProper
  | case3 => trivial
  | case4 mapper load relation rest name selected target registered keyless restProper =>
      exact restProper
  | case5 mapper load relation rest name selected target registered join joined step below
      belowProper =>
      rename_i restProper
      exact proper_cons belowProper restProper

variable {store : Store} {plan : Plan} {batch : Batch} {owners : List Document}

/-- The processes of a level begin where its tasks do. -/
def BeginsInLine (store : Store) (plan : Plan) (batch : Batch) (owners : List Document) : Prop :=
  (∃ target, plan = .unknown target) ∨
    ∃ lineup, List.Forall₂ (Process.Begins store) (plan.processes store batch owners) lineup ∧
      Tasks.inLine lineup = plan.tasks batch owners

theorem level_carriedOut (begins : plan.BeginsInLine store batch owners) :
    (levelProcess owners (plan.processes store batch owners)).CarriedOut store
      (Process.AllAttached owners) (plan.enter batch owners) := by
  unfold levelProcess enter
  by_cases empty : owners.isEmpty
  · rw [if_pos empty, if_pos empty]
    exact ⟨_, .refl _, [], rfl, rfl⟩
  · rw [if_neg empty, if_neg empty]
    have joined : (Process.join (plan.processes store batch owners)).CarriedOut store
        Process.AllLoaded (plan.tasks batch owners) := by
      rcases begins with ⟨target, rfl⟩ | ⟨lineup, begins, inOrder⟩
      · have fails : Process.join (processes store batch owners (.unknown target)) =
            .done [] (.error (.unknownMapper target)) := by
          simp [processes, Process.join, Process.roundLimit, Process.inRounds, Process.round]
        rw [fails]
        exact ⟨_, .refl _, .unknown target⟩
      · rw [← inOrder]
        exact Process.join_carriedOut begins
    exact joined.map fun loaded after all => ⟨loaded, all, rfl⟩

theorem beginsInLine (proper : plan.Proper) : plan.BeginsInLine store batch owners := by
  induction plan generalizing batch owners with
  | done => exact Or.inr ⟨[], .nil, rfl⟩
  | unknown target => exact Or.inl ⟨target, rfl⟩
  | load step below rest belowHypothesis restHypothesis =>
      rcases proper with ⟨belowProper, restProper, known⟩
      rcases restHypothesis restProper with ⟨target, impossible⟩ | ⟨lineup, begins, inOrder⟩
      · exact absurd impossible (known target)
      · have carried := (step.task batch owners).process_carriedOut
          fun nested found => level_carriedOut (belowHypothesis () belowProper)
        refine Or.inr ⟨.waiting (step.task batch owners) below .nil :: lineup,
          .cons ⟨.waiting _ _, carried⟩ begins, ?_⟩
        rw [tasks, ← inOrder]
        rfl

end Plan

/-! ## Runs -/

theorem Process.CarriedOut.completes {store : Store} {α : Type} {finished : α → Tasks → Prop}
    {process : Process α} {tasks : Tasks} (carried : process.CarriedOut store finished tasks)
    (session : Session) :
    ∃ requests after, tasks.Reaches store requests after ∧
      Ends store finished (process.complete.outcome session).1 after ∧
      (process.complete.outcome session).2.store.log = session.store.log ++ requests := by
  induction process generalizing tasks session with
  | done entries outcome =>
      rcases carried with ⟨after, reached, ends⟩
      exact ⟨_, after, reached, ends, session.log_writeAll entries⟩
  | pause entries next inductionHypothesis =>
      rcases carried with ⟨between, reached, goesOn⟩
      rcases inductionHypothesis () goesOn (session.writeAll entries) with
        ⟨requests, after, reachedAfter, ends, logged⟩
      refine ⟨Entry.requests entries ++ requests, after, reached.trans reachedAfter, ends, ?_⟩
      rw [← List.append_assoc, ← session.log_writeAll]
      exact logged

namespace Resolution

/-- How a resolution of some records looks at its end. -/
def ofOutcome (owners : List Document) : Except AccessError (List Document) → Resolution
  | .ok resolved => ⟨resolved, .succeeded⟩
  | .error error => ⟨owners, .failed error⟩

theorem ended_ofOutcome (store : Store) (owners : List Document)
    (outcome : Except AccessError (List Document)) : (ofOutcome owners outcome).Ended store := by
  intro sent next taken
  cases outcome with
  | error error => cases taken
  | ok resolved => cases taken

theorem runs_of_reaches {store : Store} {tasks after : Tasks} {requests : List Request}
    (reached : tasks.Reaches store requests after) {owners : List Document} {last : Resolution}
    (ends : Step store ⟨owners, .running after⟩ none last) :
    ∃ log, Runs store ⟨owners, .running tasks⟩ log last ∧ log.map Sent.request = requests := by
  induction reached with
  | refl tasks => exact ⟨[], .step ends (.refl last), rfl⟩
  | @step _ _ _ sent _ taken _ inductionHypothesis =>
      rcases inductionHypothesis ends with ⟨log, runs, sameRequests⟩
      refine ⟨sent.toList ++ log, .step (.advance taken) runs, ?_⟩
      rw [List.map_append, sameRequests]
      cases sent <;> rfl

/-- Tasks that are done or can fail lead to the end of the resolution. -/
theorem runs_ofOutcome {store : Store} {tasks after : Tasks} {requests : List Request}
    {owners : List Document} {outcome : Except AccessError (List Document)}
    (reached : tasks.Reaches store requests after)
    (ends : Process.Ends store (Process.AllAttached owners) outcome after) :
    ∃ log, Runs store ⟨owners, .running tasks⟩ log (ofOutcome owners outcome) ∧
      log.map Sent.request = requests := by
  cases outcome with
  | error error => exact runs_of_reaches reached (.abort ends)
  | ok resolved =>
      rcases ends with ⟨loaded, all, rfl⟩
      exact runs_of_reaches reached (.attach all)

end Resolution

/-- Loading side by side is a run of the resolution to its end, with the same requests. -/
theorem Adapter.runs_resolve_interleaved (adapter : Adapter) (session : Session) (batch : Batch)
    (mapper : Mapper) (owners : List Document) (load : EagerLoad) :
    ∃ log,
      (Resolution.start (adapter.plan mapper load) batch owners).Runs session.store log
        (.ofOutcome owners
          ((adapter.resolve .interleaved batch mapper owners load).outcome session).1) ∧
      ((adapter.resolve .interleaved batch mapper owners load).outcome session).2.store.log =
        session.store.log ++ log.map Sent.request := by
  have proper : (adapter.plan mapper load).Proper :=
    Plan.proper_ofRelations adapter.catalog adapter.config mapper load mapper.relations
  have begins : (adapter.plan mapper load).BeginsInLine session.store batch owners :=
    Plan.beginsInLine proper
  rcases (Plan.level_carriedOut begins).completes session with
    ⟨requests, after, reached, ends, logged⟩
  have same : (adapter.resolve .interleaved batch mapper owners load).outcome session =
      (Plan.levelProcess owners ((adapter.plan mapper load).processes session.store batch
        owners)).complete.outcome session := rfl
  rw [same, logged]
  rcases Resolution.runs_ofOutcome reached ends with ⟨log, runs, rfl⟩
  exact ⟨log, runs, rfl⟩

end RecordGraph
