import RecordGraph.Proofs.Pages
import RecordGraph.Proofs.UntouchedFields

/-!
# Selected fields

A call that selects fields gives the entries of a stored record that are named, with the identity
of the store, in stored order.  The identity of the store has no say in whether a projection names
fields to keep, so that a selection of nothing else is no selection.
-/

namespace RecordGraph

/-! ## The projection of a selection -/

theorem Document.get?_foldl_set (names : List String) (value : Value) (document : Document)
    (key : String) :
    get? ((names.map fun name => (name, value)).foldl
        (fun held entry => set held entry.1 entry.2) document) key =
      if key ∈ names then some value else document.get? key := by
  induction names generalizing document with
  | nil => rfl
  | cons name rest inductionHypothesis =>
      rw [List.map_cons, List.foldl_cons, inductionHypothesis]
      by_cases later : key ∈ rest
      · rw [if_pos later, if_pos (List.mem_cons_of_mem name later)]
      · rw [if_neg later]
        by_cases isName : key = name
        · rw [isName, get?_set_self, if_pos List.mem_cons_self]
        · rw [get?_set_of_ne isName, if_neg (List.not_mem_cons_of_ne_of_not_mem isName later)]

namespace Fields

theorem get?_projection (fields : Fields) (key : String) :
    fields.projection.get? key =
      if key ∈ fields.names then some (.number (.ofNat 1)) else none :=
  Document.get?_foldl_set fields.names _ [] key

theorem isInclusive_projection_iff (fields : Fields) :
    isInclusive fields.projection = true ↔ ∃ name ∈ fields.names, name ≠ storedIdentity := by
  have unique : Document.UniqueKeys fields.projection := Document.uniqueKeys_ofEntries _
  rw [isInclusive, List.any_eq_true]
  constructor
  · intro found
    obtain ⟨⟨name, flag⟩, member, counts⟩ := found
    have isRead := fields.get?_projection name
    rw [Document.get?_of_mem unique member] at isRead
    by_cases named : name ∈ fields.names
    · refine ⟨name, named, ?_⟩
      rw [Bool.and_eq_true, bne_iff_ne] at counts
      exact counts.1
    · rw [if_neg named] at isRead
      cases isRead
  · intro found
    obtain ⟨name, named, different⟩ := found
    have isRead := fields.get?_projection name
    rw [if_pos named] at isRead
    refine ⟨(name, .number (.ofNat 1)), Document.mem_of_get? isRead, ?_⟩
    rw [Bool.and_eq_true, bne_iff_ne]
    exact ⟨different, rfl⟩

theorem keepsField_projection_iff (fields : Fields) (key : String) :
    keepsField fields.projection key = true ↔
      key ∈ fields.names ∨ key = storedIdentity ∨
        ∀ name ∈ fields.names, name = storedIdentity := by
  have inclusive := fields.isInclusive_projection_iff
  rw [keepsField, get?_projection]
  by_cases named : key ∈ fields.names
  · rw [if_pos named]
    exact iff_of_true rfl (Or.inl named)
  · rw [if_neg named]
    simp only [Bool.or_eq_true, Bool.not_eq_true', beq_iff_eq, ← Bool.not_eq_true, inclusive,
      named, false_or]
    push Not
    exact or_comm

/-- The entries of a record that a selection names, with the identity of the store. -/
def kept (fields : Fields) (record : Document) : Document :=
  record.filter fun entry => entry.1 ∈ fields.names ∨ entry.1 = storedIdentity

end Fields

/-- An empty projection keeps what it would keep as one that names fields to drop. -/
theorem project_some (projection record : Document) :
    project (some projection) record = record.filter (keepsField projection ·.1) := by
  rw [project]
  split
  · rename_i empty
    rw [List.isEmpty_iff.mp empty]
    exact (List.filter_eq_self.mpr fun _ _ => rfl).symm
  · rfl

namespace Fields

variable {fields : Fields}

theorem project_of_exists (other : ∃ name ∈ fields.names, name ≠ storedIdentity)
    (record : Document) : project (some fields.projection) record = fields.kept record := by
  have notOnly : ¬ ∀ name ∈ fields.names, name = storedIdentity := by
    push Not
    exact other
  rw [project_some, kept]
  congr 1
  funext entry
  rw [Bool.eq_iff_iff, keepsField_projection_iff, decide_eq_true_iff, or_iff_left notOnly]

theorem project_of_forall (only : ∀ name ∈ fields.names, name = storedIdentity)
    (record : Document) : project (some fields.projection) record = record := by
  rw [project_some, List.filter_eq_self]
  intro entry _
  exact (fields.keepsField_projection_iff entry.1).mpr (Or.inr (Or.inr only))

/-- A selection keeps just what it names, unless it names nothing but the identity of the store
and the record has something else. -/
theorem project_eq_kept_iff (fields : Fields) (record : Document) :
    project (some fields.projection) record = fields.kept record ↔
      (∃ name ∈ fields.names, name ≠ storedIdentity) ∨
        ∀ entry ∈ record, entry.1 = storedIdentity := by
  by_cases other : ∃ name ∈ fields.names, name ≠ storedIdentity
  · exact iff_of_true (project_of_exists other record) (Or.inl other)
  · -- the whole record is kept, which is what was named if it has nothing else
    have only : ∀ name ∈ fields.names, name = storedIdentity := by
      push Not at other
      exact other
    rw [project_of_forall only, or_iff_right other, eq_comm, kept, List.filter_eq_self]
    refine forall₂_congr fun entry _ => ?_
    rw [decide_eq_true_iff]
    exact or_iff_right_of_imp (only entry.1)

end Fields

/-! ## Records found with a selection -/

/-- The options that ask for whole records and no relations. -/
def FindOptions.bare (options : FindOptions) : FindOptions :=
  { options with load := .empty, fields := .none }

namespace Adapter

variable {adapter : Adapter} {name : String} {mapper : Mapper}

theorem identified_eq_map (store : Store) (mapper : Mapper) (identity : Value)
    (options : FindOptions) :
    adapter.identified store mapper identity options =
      (adapter.identified store mapper identity options.bare).map (project options.projection) := by
  rw [identified, identified, Option.map_map]
  rfl

theorem answer_fetch_eq_map (collection : String) (query : CompiledQuery)
    (options : FindOptions) (records : List Document) :
    (Call.fetch collection query options.projection).answer records =
      ((Call.fetch collection query options.bare.projection).answer records).map
        (project options.projection) := by
  simp only [Call.fetch, List.map_map]
  rfl

/-- Without relations to load, the record that is identified is what a call for it gives. -/
theorem outcome_find_of_isExhausted (pace : Pace)
    (registered : adapter.catalog.get? name = some mapper) (session : Session) (identity : Value)
    {options : FindOptions} (unloaded : options.load.isExhausted = true) :
    ((adapter.find pace name identity options).outcome session).1 =
      if mapper.collectionName options.collection ∈ session.store.unavailable then
        .error (.unavailable (mapper.collectionName options.collection))
      else
        match adapter.identified session.store mapper identity options with
        | none => .error (.notFound (mapper.collectionName options.collection) identity)
        | some record => .ok record := by
  obtain ⟨after, _, outcome⟩ := adapter.outcome_find_after pace registered session identity options
  have resolves : ∀ record,
      ((adapter.resolveOne pace mapper record options.load).outcome after).1 = .ok record := by
    intro record
    rw [outcome_resolveOne_eq_ok_iff]
    exact resolved_of_isExhausted unloaded after.store .single [record]
  rw [outcome]
  split
  · rfl
  · cases adapter.identified session.store mapper identity options with
    | none => rfl
    | some record => exact resolves record

/-- Without relations to load, a selection changes what is found, and not whether it is. -/
theorem outcome_find_eq_map (pace : Pace) (registered : adapter.catalog.get? name = some mapper)
    (session : Session) (identity : Value) {options : FindOptions}
    (unloaded : options.load.isExhausted = true) :
    ((adapter.find pace name identity options).outcome session).1 =
      ((adapter.find pace name identity options.bare).outcome session).1.map
        (project options.projection) := by
  have bareUnloaded : options.bare.load.isExhausted = true := rfl
  have sameCollection : options.bare.collection = options.collection := rfl
  rw [outcome_find_of_isExhausted pace registered session identity unloaded,
    outcome_find_of_isExhausted pace registered session identity bareUnloaded, identified_eq_map,
    sameCollection]
  split
  · rfl
  · cases adapter.identified session.store mapper identity options.bare <;> rfl

theorem outcome_findAll_eq_map (pace : Pace) (registered : adapter.catalog.get? name = some mapper)
    (session : Session) (selection : Selection) {options : FindOptions}
    (unloaded : options.load.isExhausted = true) :
    ((adapter.findAll pace name selection options).outcome session).1 =
      ((adapter.findAll pace name selection options.bare).outcome session).1.map
        (List.map (project options.projection)) := by
  have bareUnloaded : options.bare.load.isExhausted = true := rfl
  rw [outcome_findAll_of_isExhausted pace registered unloaded,
    outcome_findAll_of_isExhausted pace registered bareUnloaded]
  apply Store.outcome_reply_map
  · rfl
  · exact answer_fetch_eq_map _ selection.compile options

/-- A record that is found is a stored one as it is projected, with changes only at the fields of
relations. -/
theorem exists_stored_of_find (pace : Pace) (registered : adapter.catalog.get? name = some mapper)
    (session : Session) {identity : Value} {options : FindOptions} {found : Document}
    (finds : ((adapter.find pace name identity options).outcome session).1 = .ok found) :
    ∃ record ∈ session.store.records (mapper.collectionName options.collection),
      ((adapter.find pace name identity options.bare).outcome session).1 = .ok record ∧
        Document.Extends
          ((options.load.selected mapper).map fun relation => firstSegment relation.localField)
          (project options.projection record) found := by
  rw [outcome_find_eq_ok_iff pace registered, identified_eq_map] at finds
  obtain ⟨accepted, _, projected, resolves⟩ := finds
  obtain ⟨record, identified, rfl⟩ := Option.map_eq_some_iff.mp projected
  obtain ⟨stored, isFirst, rfl⟩ := Option.map_eq_some_iff.mp identified
  refine ⟨stored, List.mem_of_mem_filter (List.mem_of_head? isFirst), ?_, ?_⟩
  · rw [outcome_find_eq_ok_iff pace registered]
    exact ⟨accepted, stored, identified, resolved_of_isExhausted rfl session.store .single [stored]⟩
  · exact (List.forall₂_cons.mp (extends_of_resolved resolves)).1

theorem exists_stored_of_findAll (pace : Pace)
    (registered : adapter.catalog.get? name = some mapper) (session : Session)
    {selection : Selection} {options : FindOptions} {found : List Document}
    (finds : ((adapter.findAll pace name selection options).outcome session).1 = .ok found) :
    ∃ records ⊆ session.store.records (mapper.collectionName options.collection),
      ((adapter.findAll pace name selection options.bare).outcome session).1 = .ok records ∧
        List.Forall₂
          (Document.Extends
            ((options.load.selected mapper).map fun relation => firstSegment relation.localField))
          (records.map (project options.projection)) found := by
  rw [outcome_findAll_eq_ok_iff pace registered, answer_fetch_eq_map] at finds
  obtain ⟨accepted, resolves⟩ := finds
  refine ⟨_, ?_, ?_, extends_of_resolved resolves⟩
  · intro record member
    obtain ⟨stored, arranged, rfl⟩ := List.mem_map.mp member
    exact List.mem_of_mem_filter (arrange_subset _ _ arranged)
  · rw [outcome_findAll_eq_ok_iff pace registered]
    exact ⟨accepted, resolved_of_isExhausted rfl session.store .many _⟩

/-- A selection of fields gives the entries that it names and the identity of the store, in stored
order; but whole records, if it names nothing but the identity of the store.  Which records are
found is what it is without a selection, and relations add to them only. -/
theorem found_with_fields (pace : Pace) (registered : adapter.catalog.get? name = some mapper)
    (session : Session) {options : FindOptions} {fields : Fields}
    (selects : options.fields = some fields) :
    (∀ record,
      (project options.projection record =
          record.filter (fun entry => entry.1 ∈ fields.names ∨ entry.1 = "_id") ↔
        (∃ field ∈ fields.names, field ≠ "_id") ∨ ∀ entry ∈ record, entry.1 = "_id") ∧
      ((∀ field ∈ fields.names, field = "_id") → project options.projection record = record)) ∧
    (options.load.isExhausted = true →
      (∀ identity, ((adapter.find pace name identity options).outcome session).1 =
        ((adapter.find pace name identity options.bare).outcome session).1.map
          (project options.projection)) ∧
      ∀ selection, ((adapter.findAll pace name selection options).outcome session).1 =
        ((adapter.findAll pace name selection options.bare).outcome session).1.map
          (List.map (project options.projection))) ∧
    (∀ identity found,
      ((adapter.find pace name identity options).outcome session).1 = .ok found →
        ∃ record ∈ session.store.records (mapper.collectionName options.collection),
          ((adapter.find pace name identity options.bare).outcome session).1 = .ok record ∧
            Document.Extends
              ((options.load.selected mapper).map fun relation => firstSegment relation.localField)
              (project options.projection record) found) ∧
    ∀ selection found,
      ((adapter.findAll pace name selection options).outcome session).1 = .ok found →
        ∃ records ⊆ session.store.records (mapper.collectionName options.collection),
          ((adapter.findAll pace name selection options.bare).outcome session).1 = .ok records ∧
            List.Forall₂
              (Document.Extends
                ((options.load.selected mapper).map fun relation =>
                  firstSegment relation.localField))
              (records.map (project options.projection)) found := by
  have projection : options.projection = some fields.projection := by
    rw [FindOptions.projection, selects]
    rfl
  refine ⟨?_, ?_, ?_, ?_⟩
  · intro record
    rw [projection]
    exact ⟨fields.project_eq_kept_iff record, fun only => Fields.project_of_forall only record⟩
  · intro unloaded
    exact ⟨fun identity => outcome_find_eq_map pace registered session identity unloaded,
      fun selection => outcome_findAll_eq_map pace registered session selection unloaded⟩
  · intro identity found finds
    exact exists_stored_of_find pace registered session finds
  · intro selection found finds
    exact exists_stored_of_findAll pace registered session finds

end Adapter

/-! ## Users with badges -/

def badgeUser : Document :=
  [("name", .string "Ann"), ("_id", .string "k"), ("id", .string "1"), ("team", .string "b")]

def badgeStore : Store where
  collections := [("users", [badgeUser])]
  unavailable := []
  log := []

/-- The options that ask for names and teams, or for nothing but the identity of the store. -/
def badgeOptions (fields : Fields) : FindOptions := ⟨.empty, some fields, none⟩

/-- The options that ask for a reference and for the desk that it leads to. -/
def deskOptions : FindOptions := ⟨⟨["at"]⟩, some (.one "of"), none⟩

def seatedWriter : Document := [("of", .string "d"), ("at", .object [("id", .string "d")])]

set_option maxRecDepth 100000 in
/-- Names and teams come with the identity of the store, in stored order.  The identity alone comes
with everything else.  A desk is added to the reference that leads to it. -/
theorem found_with_fields_badges :
    ((roster.find .direct "u" (.string "1") (badgeOptions (.many ["team", "name"]))).outcome
        ⟨badgeStore, []⟩).1 =
      .ok [("name", .string "Ann"), ("_id", .string "k"), ("team", .string "b")] ∧
    ((roster.findAll .direct "u" .empty (badgeOptions (.one "team"))).outcome
        ⟨badgeStore, []⟩).1 = .ok [[("_id", .string "k"), ("team", .string "b")]] ∧
    ((roster.find .direct "u" (.string "1") (badgeOptions (.one "_id"))).outcome
        ⟨badgeStore, []⟩).1 = .ok badgeUser ∧
    badgeUser ≠ badgeUser.filter (fun entry => entry.1 ∈ ["_id"] ∨ entry.1 = "_id") ∧
    (∃ record ∈ magazineStore.records "w",
      Document.Extends ["at"] (project deskOptions.projection record) seatedWriter) ∧
    ∃ records ⊆ magazineStore.records "w",
      List.Forall₂ (Document.Extends ["at"]) (records.map (project deskOptions.projection))
        [seatedWriter] := by
  have registered : roster.catalog.get? "u" = some ((Mapper.named "u").withTable "users") := by
    decide
  have chosen : ∀ fields, (badgeOptions fields).fields = some fields := fun _ => rfl
  have bareFinds : ∀ fields, ((roster.find .direct "u" (.string "1")
      (badgeOptions fields).bare).outcome ⟨badgeStore, []⟩).1 = .ok badgeUser := by
    intro fields
    cbv
  have bareLists : ∀ fields, ((roster.findAll .direct "u" .empty
      (badgeOptions fields).bare).outcome ⟨badgeStore, []⟩).1 = .ok [badgeUser] := by
    intro fields
    cbv
  have writerRegistered : magazine.catalog.get? "w" = some magazineWriter := by cbv
  have seats : ((magazine.find .direct "w" (.string "w") deskOptions).outcome
      ⟨magazineStore, []⟩).1 = .ok seatedWriter := by
    cbv
  have seatsAll : ((magazine.findAll .direct "w" .empty deskOptions).outcome
      ⟨magazineStore, []⟩).1 = .ok [seatedWriter] := by
    cbv
  obtain ⟨shown, unloaded, _⟩ := Adapter.found_with_fields .direct registered ⟨badgeStore, []⟩
    (chosen (.many ["team", "name"]))
  obtain ⟨shownTeam, unloadedTeam, _⟩ := Adapter.found_with_fields .direct registered
    ⟨badgeStore, []⟩ (chosen (.one "team"))
  obtain ⟨shownIdentity, unloadedIdentity, _⟩ := Adapter.found_with_fields .direct registered
    ⟨badgeStore, []⟩ (chosen (.one "_id"))
  obtain ⟨_, _, finding, listing⟩ := Adapter.found_with_fields .direct writerRegistered
    ⟨magazineStore, []⟩ (show deskOptions.fields = some (.one "of") from rfl)
  refine ⟨?_, ?_, ?_, by decide, ?_, ?_⟩
  · rw [(unloaded rfl).1, bareFinds, Except.map, (shown badgeUser).1.mpr (Or.inl (by decide))]
    decide
  · rw [(unloadedTeam rfl).2, bareLists, Except.map, List.map_singleton,
      (shownTeam badgeUser).1.mpr (Or.inl (by decide))]
    decide
  · rw [(unloadedIdentity rfl).1, bareFinds, Except.map,
      (shownIdentity badgeUser).2 (by decide)]
  · obtain ⟨record, stored, _, kept⟩ := finding _ _ seats
    exact ⟨record, stored, kept⟩
  · obtain ⟨records, stored, _, kept⟩ := listing _ _ seatsAll
    exact ⟨records, stored, kept⟩

end RecordGraph
