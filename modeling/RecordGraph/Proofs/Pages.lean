import RecordGraph.Proofs.EqualityCriteria
import RecordGraph.Proofs.FilterLayout

/-!
# Pages

A query can be asked for its records in pages, each of which skips those of the pages before
it.  Skip and limit touch neither the filter nor the ordering, and the store sorts before it
cuts, so the pages are the consecutive parts of one list, up to the first empty one.
-/

namespace RecordGraph

/-- A page of a list, the first one at index zero. -/
def pageOf {α : Type} (size index : Nat) (all : List α) : List α :=
  (all.drop (index * size)).take size

theorem pageOf_append_drop {α : Type} (size index : Nat) (all : List α) :
    pageOf size index all ++ all.drop ((index + 1) * size) = all.drop (index * size) := by
  rw [Nat.succ_mul, ← List.drop_drop]
  exact List.take_append_drop size (all.drop (index * size))

theorem pageOf_eq_nil_iff {α : Type} {size : Nat} (positive : 0 < size) (index : Nat)
    (all : List α) : pageOf size index all = [] ↔ all.length ≤ index * size := by
  rw [pageOf, List.take_eq_nil_iff, List.drop_eq_nil_iff]
  omega

/-! ## Queries for a page -/

theorem Document.filter_set_of_dropped {keeps : String × Value → Bool} {key : String}
    (dropped : ∀ held, keeps (key, held) = false) (document : Document) (value : Value) :
    (document.set key value).filter keeps = document.filter keeps := by
  induction document with
  | nil => simp [set, dropped]
  | cons entry rest inductionHypothesis =>
      obtain ⟨first, held⟩ := entry
      by_cases sameKey : first = key
      · subst sameKey
        simp [set, dropped]
      · simp only [set, if_neg sameKey, List.filter_cons, inductionHypothesis]

theorem Whole.value_ofCount (count : Count) : (Whole.ofCount count).value = count.toNat := rfl

theorem Value.truthy_ofCount (count : Count) :
    (Value.number (.whole (.ofCount count))).truthy = (count != 0) := by
  rw [truthy, Number.isZero, Whole.value_ofCount, bne, Bool.not_inj_iff, Bool.eq_iff_iff,
    beq_iff_eq, beq_iff_eq, ← UInt64.toNat_inj]
  exact Int.natCast_eq_zero

theorem Value.count?_ofCount (count : Count) :
    (Value.number (.whole (.ofCount count))).count? = some count := by
  have fits := count.toNat_lt
  have notBelow : ¬ (Whole.ofCount count).value < 0 := by
    rw [Whole.value_ofCount]
    omega
  rw [count?, Whole.count?, if_neg notBelow, Whole.value_ofCount, Int.toNat_natCast, Count.ofNat,
    if_pos (by omega), UInt64.ofNat_toNat]

namespace Selection

/-- A query that asks for all of its records. -/
structure Unpaged (selection : Selection) : Prop where
  skip : selection.get? "skip" = none
  offset : selection.get? "offset" = none
  limit : selection.get? "limit" = none

/-- The query for a part of the records. -/
def part (selection : Selection) (skipped limit : Count) : Selection :=
  (selection.withSkip skipped).withLimit limit

/-- The query for one page. -/
def page (selection : Selection) (size : Count) (index : Nat) : Selection :=
  selection.part (UInt64.ofNat (index * size.toNat)) size

/-- Writing a key with no part in the filter leaves it as it is. -/
theorem filter_set {selection : Selection} {key : String} (idle : key ∈ selection.idleKeys)
    (value : Value) :
    (⟨selection.entries.set key value⟩ : Selection).filter = selection.filter := by
  apply filter_congr
  apply criteria_congr
  exact Document.filter_set_of_dropped (by simp [idle]) selection.entries value

theorem truthyAt?_withFilter (selection : Selection) (key other : String) (value : Value) :
    (selection.withFilter key value).truthyAt? other =
      if other = key then (if value.truthy then some value else none)
      else selection.truthyAt? other := by
  rw [truthyAt?, get?, withFilter]
  by_cases isKey : other = key
  · rw [isKey, Document.get?_set_self, if_pos rfl]
    rfl
  · rw [Document.get?_set_of_ne isKey, if_neg isKey]
    rfl

variable {selection : Selection} {skipped limit : Count}

theorem filter_part : (selection.part skipped limit).filter = selection.filter := by
  have limited : (selection.part skipped limit).filter = (selection.withSkip skipped).filter :=
    filter_set (by simp [idleKeys]) (.number (.whole (.ofCount limit)))
  have onlySkipped : (selection.withSkip skipped).filter = selection.filter :=
    filter_set (by simp [idleKeys]) (.number (.whole (.ofCount skipped)))
  exact limited.trans onlySkipped

theorem part_eq : selection.part skipped limit =
    (selection.withFilter "skip" (.number (.whole (.ofCount skipped)))).withFilter "limit"
      (.number (.whole (.ofCount limit))) := rfl

theorem truthyAt?_part_of_ne {key : String} (notSkip : key ≠ "skip") (notLimit : key ≠ "limit") :
    (selection.part skipped limit).truthyAt? key = selection.truthyAt? key := by
  rw [part_eq, truthyAt?_withFilter, if_neg notLimit, truthyAt?_withFilter, if_neg notSkip]

theorem truthyAt?_part_limit (positive : 0 < limit) :
    (selection.part skipped limit).truthyAt? "limit" =
      some (.number (.whole (.ofCount limit))) := by
  have notZero : limit ≠ 0 := UInt64.pos_iff_ne_zero.mp positive
  rw [part_eq, truthyAt?_withFilter, if_pos rfl, Value.truthy_ofCount,
    if_pos (bne_iff_ne.mpr notZero)]

theorem truthyAt?_part_skip :
    (selection.part skipped limit).truthyAt? "skip" =
      if skipped = 0 then none else some (.number (.whole (.ofCount skipped))) := by
  rw [part_eq, truthyAt?_withFilter, if_neg (by decide), truthyAt?_withFilter, if_pos rfl,
    Value.truthy_ofCount]
  by_cases zero : skipped = 0 <;> simp [zero]

theorem sort_part : (selection.part skipped limit).options.sort = selection.options.sort := by
  simp only [options, truthyAt?_part_of_ne (by decide : "orderBy" ≠ "skip") (by decide),
    truthyAt?_part_of_ne (by decide : "sort" ≠ "skip") (by decide)]

theorem limit_part (positive : 0 < limit) :
    (selection.part skipped limit).options.limit = some limit := by
  simp only [options, truthyAt?_part_limit positive, Option.bind_some, Value.count?_ofCount]

/-- A skip of zero is as good as none. -/
theorem Unpaged.skip_part (unpaged : selection.Unpaged) :
    (selection.part skipped limit).options.skip.getD 0 = skipped := by
  have noOffset : (selection.part skipped limit).truthyAt? "offset" = none := by
    rw [truthyAt?_part_of_ne (by decide) (by decide), truthyAt?, unpaged.offset]
    rfl
  simp only [options, truthyAt?_part_skip, noOffset, Option.or_none]
  by_cases zero : skipped = 0
  · rw [if_pos zero, zero]
    rfl
  · rw [if_neg zero, Option.bind_some, Value.count?_ofCount, Option.getD_some]

theorem Unpaged.slice_eq (unpaged : selection.Unpaged) (records : List Document) :
    slice selection.options records = records := by
  simp [slice, options, truthyAt?, unpaged.skip, unpaged.offset, unpaged.limit]

/-- What the store answers to the query for a part is that part of what it answers to the
query. -/
theorem Unpaged.answer_part (unpaged : selection.Unpaged) (positive : 0 < limit)
    (collection : String) (projection : Option Document) (records : List Document) :
    (Call.fetch collection (selection.part skipped limit).compile projection).answer records =
      (((Call.fetch collection selection.compile projection).answer records).drop
        skipped.toNat).take limit.toNat := by
  have sameKeys : (selection.part skipped limit).options.sortKeys =
      selection.options.sortKeys := by
    rw [QueryOptions.sortKeys, sort_part, ← QueryOptions.sortKeys]
  have cut : ∀ sorted, slice (selection.part skipped limit).options sorted =
      (sorted.drop skipped.toNat).take limit.toNat := by
    intro sorted
    rw [slice, limit_part positive, unpaged.skip_part]
  simp only [Call.fetch, compile, arrange, filter_part, sameKeys, cut, unpaged.slice_eq,
    List.map_take, List.map_drop]

theorem Unpaged.answer_page (unpaged : selection.Unpaged) {size : Count} (positive : 0 < size)
    {index : Nat} (fits : index * size.toNat < 2 ^ 64) (collection : String)
    (projection : Option Document) (records : List Document) :
    (Call.fetch collection (selection.page size index).compile projection).answer records =
      pageOf size.toNat index
        ((Call.fetch collection selection.compile projection).answer records) := by
  rw [page, unpaged.answer_part positive, UInt64.toNat_ofNat_of_lt' fits, pageOf]

end Selection

/-! ## Calls without relations -/

/-- A store that has logged requests replies as it did. -/
theorem Store.HasLogged.outcome_reply {before after : Store} (logged : before.HasLogged after)
    {Answer : Type} (call : Call Answer) :
    (after.reply call).outcome = (before.reply call).outcome := by
  obtain ⟨requests, rfl⟩ := logged
  unfold reply
  split <;> rfl

/-- Calls on one collection fail alike, and their answers differ as they do for the records. -/
theorem Store.outcome_reply_map {First Second : Type} (store : Store) {first : Call First}
    {second : Call Second} (sameCollection : second.request.collection = first.request.collection)
    {change : First → Second}
    (answers : ∀ records, second.answer records = change (first.answer records)) :
    (store.reply second).outcome = (store.reply first).outcome.map change := by
  unfold reply
  rw [sameCollection]
  split
  · rfl
  · simp only [answers]
    rfl

theorem Adapter.plan_of_isExhausted (adapter : Adapter) (mapper : Mapper) {load : EagerLoad}
    (exhausted : load.isExhausted = true) : adapter.plan mapper load = .done := by
  have unselected : ∀ relations, Plan.ofRelations adapter.catalog adapter.config mapper load
      relations = .done := by
    intro relations
    induction relations with
    | nil => rw [Plan.ofRelations]
    | cons relation rest inductionHypothesis =>
        rw [Plan.ofRelations_cons, EagerLoad.matched?_of_isExhausted exhausted]
        exact inductionHypothesis
  exact unselected mapper.relations

namespace Adapter

variable {adapter : Adapter} {pace : Pace} {name : String} {mapper : Mapper}
  {options : FindOptions}

theorem resolved_of_isExhausted {load : EagerLoad} (exhausted : load.isExhausted = true)
    (store : Store) (batch : Batch) (owners : List Document) :
    ((adapter.plan mapper load).resolved store batch owners).outcome = .ok owners := by
  rw [adapter.plan_of_isExhausted mapper exhausted]
  exact Plan.outcome_resolved_done store batch owners

/-- Without relations to load, the answer of the store is what a find call gives. -/
theorem outcome_findAll_of_isExhausted (pace : Pace)
    (registered : adapter.catalog.get? name = some mapper)
    (unloaded : options.load.isExhausted = true) (selection : Selection) (session : Session) :
    ((adapter.findAll pace name selection options).outcome session).1 =
      (session.store.reply (.fetch (mapper.collectionName options.collection) selection.compile
        options.projection)).outcome := by
  have targets : (Call.fetch (mapper.collectionName options.collection) selection.compile
      options.projection).request.collection = mapper.collectionName options.collection := rfl
  obtain ⟨after, _, answered⟩ := Access.outcome_call_bind pace _ targets
    (fun records => adapter.resolveMany pace mapper records options.load) session
  rw [findAll, mapper_eq_pure registered, pure_bind, answered]
  by_cases refused : mapper.collectionName options.collection ∈ session.store.unavailable
  · rw [if_pos refused, Store.reply, if_pos (targets ▸ refused)]
    rfl
  · rw [if_neg refused, Store.outcome_reply (targets ▸ refused), resolveMany,
      outcome_resolve_eq_ok_iff]
    exact resolved_of_isExhausted unloaded after.store .many _

theorem outcome_count (pace : Pace) (registered : adapter.catalog.get? name = some mapper)
    (selection : Selection) (session : Session) :
    ((adapter.count pace name selection options).outcome session).1 =
      (session.store.reply (.count (mapper.collectionName options.collection)
        selection.compile)).outcome := by
  rw [count, mapper_eq_pure registered, pure_bind]
  exact Access.outcome_call pace _ session

/-- A count is the number of records that the same query finds. -/
theorem outcome_count_eq_map_length (pace : Pace)
    (registered : adapter.catalog.get? name = some mapper)
    (unloaded : options.load.isExhausted = true) (selection : Selection) (session : Session) :
    ((adapter.count pace name selection options).outcome session).1 =
      ((adapter.findAll pace name selection options).outcome session).1.map List.length := by
  rw [outcome_count pace registered, outcome_findAll_of_isExhausted pace registered unloaded]
  apply Store.outcome_reply_map
  · rfl
  · intro records
    simp only [Call.count, Call.fetch, List.length_map]

/-- A page is that page of what is found without paging. -/
theorem outcome_findAll_page (pace : Pace)
    (registered : adapter.catalog.get? name = some mapper)
    (unloaded : options.load.isExhausted = true) {selection : Selection}
    (unpaged : selection.Unpaged) {size : Count} (positive : 0 < size) {index : Nat}
    (fits : index * size.toNat < 2 ^ 64) (session : Session) :
    ((adapter.findAll pace name (selection.page size index) options).outcome session).1 =
      ((adapter.findAll pace name selection options).outcome session).1.map
        (pageOf size.toNat index) := by
  rw [outcome_findAll_of_isExhausted pace registered unloaded,
    outcome_findAll_of_isExhausted pace registered unloaded]
  apply Store.outcome_reply_map
  · rfl
  · exact unpaged.answer_page positive fits _ options.projection

/-! ## Reading page after page -/

/-- From an index on, pages are read one after the other, up to the first empty one. -/
inductive ReadsPages (adapter : Adapter) (pace : Pace) (name : String) (selection : Selection)
    (options : FindOptions) (size : Count) : Session → Nat → List (List Document) → Prop
  | finished {session : Session} {index : Nat} :
      index * size.toNat < 2 ^ 64 →
      ((adapter.findAll pace name (selection.page size index) options).outcome session).1 =
        .ok [] →
      ReadsPages adapter pace name selection options size session index []
  | further {session after : Session} {index : Nat} {page : List Document}
      {pages : List (List Document)} :
      index * size.toNat < 2 ^ 64 →
      (adapter.findAll pace name (selection.page size index) options).outcome session =
        (.ok page, after) →
      page ≠ [] → ReadsPages adapter pace name selection options size after (index + 1) pages →
      ReadsPages adapter pace name selection options size session index (page :: pages)

variable {selection : Selection} {size : Count} {session : Session} {all : List Document}

/-- A query finds the same records after any other find call. -/
theorem findAll_after_findAll (registered : adapter.catalog.get? name = some mapper)
    (unloaded : options.load.isExhausted = true) (other : Selection)
    (finds : ((adapter.findAll pace name selection options).outcome session).1 = .ok all) :
    ((adapter.findAll pace name selection options).outcome
      ((adapter.findAll pace name other options).outcome session).2).1 = .ok all := by
  have logged := adapter.onlyLogs_findAll pace name other options session
  rw [outcome_findAll_of_isExhausted pace registered unloaded] at finds ⊢
  rw [logged.outcome_reply, finds]

/-- Pages that are read from an index on are all that is found, less the pages before them. -/
theorem ReadsPages.flatten_eq (registered : adapter.catalog.get? name = some mapper)
    (unloaded : options.load.isExhausted = true) (unpaged : selection.Unpaged)
    (positive : 0 < size) {index : Nat} {pages : List (List Document)}
    (reads : adapter.ReadsPages pace name selection options size session index pages)
    (finds : ((adapter.findAll pace name selection options).outcome session).1 = .ok all) :
    pages.flatten = all.drop (index * size.toNat) := by
  induction reads with
  | finished fits isEmpty =>
      rw [outcome_findAll_page pace registered unloaded unpaged positive fits, finds] at isEmpty
      have noneLeft :=
        (pageOf_eq_nil_iff (UInt64.lt_iff_toNat_lt.mp positive) _ all).mp (Except.ok.inj isEmpty)
      rw [List.drop_of_length_le noneLeft]
      rfl
  | @further session after index page pages fits found _ _ inductionHypothesis =>
      have findsAfter := findAll_after_findAll registered unloaded (selection.page size index) finds
      have isPage := outcome_findAll_page pace registered unloaded unpaged positive fits
        session
      rw [found, finds] at isPage
      rw [found] at findsAfter
      rw [List.flatten_cons, inductionHypothesis findsAfter, Except.ok.inj isPage]
      exact pageOf_append_drop size.toNat index all

/-- Reading page after page comes to an end, if some page past the last record can be asked
for. -/
theorem exists_readsPages (registered : adapter.catalog.get? name = some mapper)
    (unloaded : options.load.isExhausted = true) (unpaged : selection.Unpaged)
    (positive : 0 < size) {last : Nat} (past : all.length ≤ last * size.toNat)
    (lastFits : last * size.toNat < 2 ^ 64)
    (finds : ((adapter.findAll pace name selection options).outcome session).1 = .ok all)
    {index : Nat} (notPast : index ≤ last) :
    ∃ pages, adapter.ReadsPages pace name selection options size session index pages := by
  induction ahead : last - index generalizing index session with
  | zero =>
      obtain rfl : index = last := by omega
      have isPage := outcome_findAll_page pace registered unloaded unpaged positive
        lastFits session
      have isEmpty := (pageOf_eq_nil_iff (UInt64.lt_iff_toNat_lt.mp positive) index all).mpr past
      rw [finds, Except.map, isEmpty] at isPage
      exact ⟨[], .finished lastFits isPage⟩
  | succ ahead inductionHypothesis =>
      have fits : index * size.toNat < 2 ^ 64 :=
        Nat.lt_of_le_of_lt (Nat.mul_le_mul_right size.toNat notPast) lastFits
      have isPage := outcome_findAll_page pace registered unloaded unpaged positive fits
        session
      rw [finds, Except.map] at isPage
      by_cases isEmpty : pageOf size.toNat index all = []
      · rw [isEmpty] at isPage
        exact ⟨[], .finished fits isPage⟩
      · have findsAfter :=
          findAll_after_findAll registered unloaded (selection.page size index) finds
        obtain ⟨pages, reads⟩ :=
          inductionHypothesis findsAfter (by omega : index + 1 ≤ last) (by omega)
        exact ⟨_, .further fits (Prod.ext isPage rfl) isEmpty reads⟩

/-- Reading a query page after page gives what it finds, in the same order and nothing twice.  It
comes to an end if the records to skip before a page past the last record can be counted.  Pages
fail as the query does, and the count for a page is its length. -/
theorem pages_partition (pace : Pace) (registered : adapter.catalog.get? name = some mapper)
    (unpaged : selection.Unpaged) (unloaded : options.load.isExhausted = true)
    (positive : 0 < size) (session : Session) :
    let found := ((adapter.findAll pace name selection options).outcome session).1
    (mapper.collectionName options.collection ∉ session.store.unavailable →
      ∃ all, found = .ok all) ∧
    (∀ all, found = .ok all →
      (∀ pages, adapter.ReadsPages pace name selection options size session 0 pages →
        pages.flatten = all) ∧
      ∀ last, all.length ≤ last * size.toNat → last * size.toNat < 2 ^ 64 →
        ∃ pages, adapter.ReadsPages pace name selection options size session 0 pages) ∧
    ∀ index, index * size.toNat < 2 ^ 64 →
      (∀ error, found = .error error →
        ((adapter.findAll pace name (selection.page size index) options).outcome session).1 =
          .error error) ∧
      ((adapter.count pace name (selection.page size index) options).outcome session).1 =
        ((adapter.findAll pace name (selection.page size index) options).outcome
          session).1.map List.length := by
  intro found
  refine ⟨?_, ?_, ?_⟩
  · intro accepted
    have replied := outcome_findAll_of_isExhausted pace registered unloaded selection
      session
    rw [Store.outcome_reply accepted] at replied
    exact ⟨_, replied⟩
  · intro all finds
    constructor
    · intro pages reads
      have parts := reads.flatten_eq registered unloaded unpaged positive finds
      rwa [Nat.zero_mul, List.drop_zero] at parts
    · intro last past lastFits
      exact exists_readsPages registered unloaded unpaged positive past lastFits finds
        (Nat.zero_le last)
  · intro index fits
    constructor
    · intro error fails
      rw [outcome_findAll_page pace registered unloaded unpaged positive fits]
      exact congrArg (Except.map (pageOf size.toNat index)) fails
    · exact outcome_count_eq_map_length pace registered unloaded _ session

end Adapter

/-! ## A roster by team -/

def roster : Adapter where
  catalog := ⟨[(Mapper.named "u").withTable "users"]⟩
  config := .default

def rosterUser (identity team : String) : Document :=
  [("id", .string identity), ("team", .string team)]

def rosterUsers : List Document := [rosterUser "1" "b", rosterUser "2" "a", rosterUser "3" "b"]

def rosterStore : Store where
  collections := [("users", rosterUsers)]
  unavailable := []
  log := []

def rosterByTeam : Selection := Selection.empty.withOrderBy (.string "team")

set_option maxRecDepth 100000 in
theorem rosterUsers_sorted :
    sortRecords [("team", .ascending)] rosterUsers =
      [rosterUser "2" "a", rosterUser "1" "b", rosterUser "3" "b"] := by
  have firstAfter : orderByKeys [("team", .ascending)] (rosterUser "1" "b") (rosterUser "2" "a") =
      .gt := by
    cbv
  have tie : orderByKeys [("team", .ascending)] (rosterUser "1" "b") (rosterUser "3" "b") =
      .eq := by
    cbv
  have secondBefore :
      orderByKeys [("team", .ascending)] (rosterUser "2" "a") (rosterUser "3" "b") = .lt := by
    cbv
  simp [sortRecords, rosterUsers, List.mergeSort, List.MergeSort.Internal.splitInTwo, firstAfter,
    tie, secondBefore, Ordering.isLE]

set_option maxRecDepth 100000 in
theorem roster_findAll :
    ((roster.findAll .direct "u" rosterByTeam .none).outcome ⟨rosterStore, []⟩).1 =
      .ok [rosterUser "2" "a", rosterUser "1" "b", rosterUser "3" "b"] := by
  have keys : rosterByTeam.options.sortKeys = [("team", .ascending)] := by
    decide
  have unpaged : rosterByTeam.Unpaged := ⟨by decide, by decide, by decide⟩
  have registered : roster.catalog.get? "u" = some ((Mapper.named "u").withTable "users") := by
    decide
  rw [Adapter.outcome_findAll_of_isExhausted .direct registered (by decide),
    Store.outcome_reply (by decide)]
  have found : (Call.fetch "users" rosterByTeam.compile none).answer rosterUsers =
      [rosterUser "2" "a", rosterUser "1" "b", rosterUser "3" "b"] := by
    have everyone : selectRecords rosterByTeam.filter rosterUsers = rosterUsers := by
      cbv
    simp only [Call.fetch, arrange, Selection.compile, keys, everyone, rosterUsers_sorted,
      unpaged.slice_eq]
    rfl
  exact congrArg Except.ok found

/-- In pages of two, the users come in the order of their teams, and those of the same team in
stored order. -/
theorem pages_partition_roster :
    rosterByTeam.Unpaged ∧
      (∃ pages, roster.ReadsPages .direct "u" rosterByTeam .none 2 ⟨rosterStore, []⟩ 0 pages ∧
        pages.flatten = [rosterUser "2" "a", rosterUser "1" "b", rosterUser "3" "b"]) ∧
      ((roster.count .direct "u" (rosterByTeam.page 2 1) .none).outcome ⟨rosterStore, []⟩).1 =
        .ok 1 := by
  have unpaged : rosterByTeam.Unpaged := ⟨by decide, by decide, by decide⟩
  have registered : roster.catalog.get? "u" = some ((Mapper.named "u").withTable "users") := by
    decide
  have unloaded : FindOptions.none.load.isExhausted = true := by decide
  have positive : (0 : Count) < 2 := by decide
  obtain ⟨_, reading, paged⟩ := Adapter.pages_partition .direct registered unpaged
    unloaded positive ⟨rosterStore, []⟩
  obtain ⟨partition, ends⟩ := reading _ roster_findAll
  obtain ⟨pages, reads⟩ := ends 2 (by decide) (by decide)
  have counted := (paged 1 (by decide)).2
  rw [Adapter.outcome_findAll_page .direct registered unloaded unpaged positive (by decide),
    roster_findAll] at counted
  exact ⟨unpaged, ⟨pages, reads, partition pages reads⟩, counted⟩

end RecordGraph
