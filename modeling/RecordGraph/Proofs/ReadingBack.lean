import RecordGraph.Adapter.FindOptions
import RecordGraph.Catalog
import RecordGraph.Config
import RecordGraph.Proofs.ReadingText
import RecordGraph.Proofs.SortKeys
import RecordGraph.Query.OptionsDocument

/-!
# Written definitions read back

Mappers, options and settings are written as objects that leave out what is missing, and what is
read from such an object is what was written.
-/

namespace RecordGraph

/-! ## Fields of a written structure -/

theorem lookup_eq_none_of_fresh {α : Type} {entries : List (String × α)} {key : String}
    (fresh : key ∉ entries.map Prod.fst) : entries.lookup key = none := by
  rw [List.lookup_eq_none_iff]
  intro entry member
  rw [bne_iff_ne]
  rintro rfl
  exact fresh (List.mem_map_of_mem member)

namespace Tree

theorem namedEntries?_of_nodup {names : List String} {entries : List (String × Tree)}
    (unique : (entries.map Prod.fst).Nodup) (named : ∀ entry ∈ entries, entry.1 ∈ names) :
    namedEntries? names (entries.map fun entry => (some entry.1, entry.2)) = some entries := by
  induction entries with
  | nil => rfl
  | cons entry rest inductionHypothesis =>
      rcases entry with ⟨key, tree⟩
      rw [List.map_cons, List.nodup_cons] at unique
      rw [List.forall_mem_cons] at named
      rw [List.map_cons, namedEntries?, inductionHypothesis unique.2 named.2]
      simp [named.1, lookup_eq_none_of_fresh unique.1]

theorem lookup_written (document : Document) (name : String) :
    (document.map fun entry => (entry.1, ofValue entry.2)).lookup name =
      (document.get? name).map ofValue := by
  induction document with
  | nil => rfl
  | cons entry rest inductionHypothesis =>
      rcases entry with ⟨key, value⟩
      rw [List.map_cons, List.lookup_cons, inductionHypothesis, Document.get?, Document.get?,
        List.lookup_cons]
      cases name == key <;> rfl

end Tree

namespace Document

/-- What a present entry holds is found under its key. -/
theorem get?_ofPresent {entries : List (String × Option Value)}
    (unique : (entries.map Prod.fst).Nodup) (key : String) :
    (ofPresent entries).get? key = (entries.lookup key).join := by
  induction entries with
  | nil => rfl
  | cons entry rest inductionHypothesis =>
      rcases entry with ⟨first, held⟩
      rw [List.map_cons, List.nodup_cons] at unique
      have found := inductionHypothesis unique.2
      cases held with
      | none =>
          have shape : ofPresent ((first, none) :: rest) = ofPresent rest := rfl
          rw [shape, found, List.lookup_cons]
          split
          · rename_i same
            rw [beq_iff_eq.mp same, lookup_eq_none_of_fresh unique.1]
            rfl
          · rfl
      | some value =>
          have shape : ofPresent ((first, some value) :: rest) =
              (first, value) :: ofPresent rest := rfl
          rw [shape, get?_cons, found, List.lookup_cons]
          by_cases same : key = first
          · simp [same]
          · rw [if_neg same, beq_eq_false_iff_ne.mpr same]

theorem keys_ofPresent (entries : List (String × Option Value)) :
    (ofPresent entries).keys.Sublist (entries.map Prod.fst) := by
  induction entries with
  | nil => exact .slnil
  | cons entry rest inductionHypothesis =>
      rcases entry with ⟨first, _ | value⟩
      · exact inductionHypothesis.cons first
      · exact inductionHypothesis.cons_cons first

end Document

namespace Tree

/-- The fields of a written structure are the entries that are there. -/
theorem exists_fields (entries : List (String × Option Value)) {document : Document}
    (written : document = Document.ofPresent entries)
    (unique : (entries.map Prod.fst).Nodup) :
    ∃ fields, fields? (entries.map Prod.fst) (ofValue (.object document)) = some fields ∧
      ∀ name, fields.lookup name = (entries.lookup name).join.map ofValue := by
  have keys := Document.keys_ofPresent entries
  rw [← written] at keys
  refine ⟨document.map fun entry => (entry.1, ofValue entry.2), ?_, ?_⟩
  · have shape : ofValue (.object document) =
        .object ((document.map fun entry => (entry.1, ofValue entry.2)).map
          fun entry => (some entry.1, entry.2)) := by
      rw [ofValue, ofEntries_eq_map, List.map_map]
      rfl
    rw [shape, fields?]
    apply namedEntries?_of_nodup
    · rw [List.map_map]
      exact keys.nodup unique
    · intro entry member
      obtain ⟨source, isSource, rfl⟩ := List.mem_map.mp member
      exact keys.subset (List.mem_map_of_mem isSource)
  · intro name
    rw [lookup_written, written, Document.get?_ofPresent unique]

/-! ### Reading the fields -/

section Fields

variable {α : Type} {fields : List (String × Tree)} {name : String}

theorem required_of_lookup {read : Tree → Option α} {value : Value} {result : α}
    (reads : read (ofValue value) = some result)
    (found : fields.lookup name = some (ofValue value)) :
    required read fields name = some result := by
  rw [required, found]
  exact reads

theorem defaulted_of_lookup {read : Tree → Option α} {value : Value} {result : α}
    (reads : read (ofValue value) = some result)
    (found : fields.lookup name = some (ofValue value)) (default : α) :
    defaulted default read fields name = some result := by
  rw [defaulted, found]
  exact reads

/-- A field that may be missing reads back if nothing in it is written as null. -/
theorem optional_of_lookup {read : Tree → Option α} {write : α → Value} {held : Option α}
    (reads : ∀ result ∈ held, read (ofValue (write result)) = some result)
    (notNull : ∀ result ∈ held, write result ≠ .null)
    (found : fields.lookup name = (held.map write).map ofValue) :
    optional read fields name = some held := by
  rw [optional, found]
  cases held with
  | none => rfl
  | some result =>
      have readBack := reads result rfl
      have there := notNull result rfl
      cases written : write result with
      | null => exact absurd written there
      | _ =>
          rw [written] at readBack
          simp only [Option.map_some, written, ofValue] at readBack ⊢
          rw [readBack]
          rfl

theorem text?_string (text : String) : text? (ofValue (.string text)) = some text := rfl

theorem optional_text (held : Option String)
    (found : fields.lookup name = (held.map Value.string).map ofValue) :
    optional text? fields name = some held :=
  optional_of_lookup (fun _ _ => rfl) (fun _ _ => Value.noConfusion) found

theorem list?_map {read : Tree → Option α} {write : α → Value}
    (reads : ∀ result, read (ofValue (write result)) = some result) (results : List α) :
    list? read (ofValue (.array (results.map write))) = some results := by
  rw [ofValue, ofValues_eq_map, list?]
  induction results with
  | nil => rfl
  | cons result rest inductionHypothesis =>
      rw [List.map_cons, List.map_cons, List.mapM_cons, reads, inductionHypothesis]
      rfl

end Fields

end Tree

/-! ## Mappers -/

theorem RelationType.ofTree?_name (type : RelationType) :
    ofTree? (Tree.ofValue (.string type.name)) = some type := by
  cases type <;> rfl

theorem Relation.ofTree?_toDocument (relation : Relation) :
    ofTree? (Tree.ofValue (.object relation.toDocument)) = some relation := by
  obtain ⟨fields, written, found⟩ := Tree.exists_fields _ (rfl : relation.toDocument = _)
    (by simp)
  have type := Tree.required_of_lookup (RelationType.ofTree?_name relation.type) (found "type")
  have target := Tree.required_of_lookup (Tree.text?_string relation.target) (found "relation")
  have localField := Tree.required_of_lookup (Tree.text?_string relation.localField)
    (found "localField")
  have foreignKey := Tree.optional_text relation.foreignKey (found "foreignKey")
  have localKey := Tree.optional_text relation.localKey (found "localKey")
  have localKeys := Tree.optional_text relation.localKeys (found "localKeys")
  have foreignKeys := Tree.optional_text relation.foreignKeys (found "foreignKeys")
  rw [ofTree?]
  refine Option.bind_eq_some_iff.mpr ⟨fields, written, ?_⟩
  simp only [type, target, localField, foreignKey, localKey, localKeys, foreignKeys,
    Option.bind_eq_bind, Option.bind_some, Option.pure_def]

theorem Mapper.ofTree?_toDocument (mapper : Mapper) :
    ofTree? (Tree.ofValue (.object mapper.toDocument)) = some mapper := by
  obtain ⟨fields, written, found⟩ := Tree.exists_fields _ (rfl : mapper.toDocument = _)
    (by simp)
  have name := Tree.required_of_lookup (Tree.text?_string mapper.name) (found "name")
  have idAttribute := Tree.optional_text mapper.idAttribute (found "idAttribute")
  have table := Tree.optional_text mapper.table (found "table")
  have collection := Tree.optional_text mapper.collection (found "collection")
  have relations := Tree.defaulted_of_lookup
    (Tree.list?_map Relation.ofTree?_toDocument mapper.relations) (found "relations") []
  rw [ofTree?]
  refine Option.bind_eq_some_iff.mpr ⟨fields, written, ?_⟩
  simp only [name, idAttribute, table, collection, relations, Option.bind_eq_bind,
    Option.bind_some, Option.pure_def]

/-! ## Settings and options -/

theorem PrunePolicy.ofTree?_name (policy : PrunePolicy) :
    ofTree? (Tree.ofValue (.string policy.name)) = some policy := by
  cases policy <;> rfl

theorem Config.ofTree?_toDocument (config : Config) :
    ofTree? (Tree.ofValue (.object config.toDocument)) = some config := by
  obtain ⟨fields, written, found⟩ := Tree.exists_fields
    [("prunePolicy", some (.string config.prunePolicy.name)),
      ("defaultIdAttribute", some (.string config.defaultIdAttribute))]
    (rfl : config.toDocument = _) (by simp)
  have prunePolicy := Tree.defaulted_of_lookup (PrunePolicy.ofTree?_name config.prunePolicy)
    (found "prunePolicy") default.prunePolicy
  have defaultIdAttribute := Tree.defaulted_of_lookup
    (Tree.text?_string config.defaultIdAttribute) (found "defaultIdAttribute")
    default.defaultIdAttribute
  rw [ofTree?]
  refine Option.bind_eq_some_iff.mpr ⟨fields, written, ?_⟩
  simp only [prunePolicy, defaultIdAttribute, Option.bind_eq_bind, Option.bind_some,
    Option.pure_def]

theorem Fields.ofTree?_toValue (selected : Fields) :
    ofTree? (Tree.ofValue selected.toValue) = some selected := by
  cases selected with
  | one name => rfl
  | many names =>
      exact congrArg (Option.map Fields.many) (Tree.list?_map Tree.text?_string names)

theorem FindOptions.ofTree?_toDocument (options : FindOptions) :
    ofTree? (Tree.ofValue (.object options.toDocument)) = some options := by
  obtain ⟨fields, written, found⟩ := Tree.exists_fields _ (rfl : options.toDocument = _) (by simp)
  have load := Tree.defaulted_of_lookup (Tree.list?_map Tree.text?_string options.load.entries)
    (found "with") []
  have selected := Tree.optional_of_lookup (fun selected _ => Fields.ofTree?_toValue selected)
    (fun selected _ => by cases selected <;> exact Value.noConfusion) (found "fields")
  have collection := Tree.optional_text options.collection (found "collection")
  rw [ofTree?]
  refine Option.bind_eq_some_iff.mpr ⟨fields, written, ?_⟩
  simp only [load, selected, collection, Option.bind_eq_bind, Option.bind_some, Option.pure_def]

/-! ## Values inside options -/

/-- Entries with keys of their own are written behind those that are there. -/
theorem Document.foldl_set_of_nodup {document entries : Document}
    (unique : (document ++ entries).UniqueKeys) :
    entries.foldl (fun held entry => set held entry.1 entry.2) document = document ++ entries := by
  induction entries generalizing document with
  | nil => exact (List.append_nil document).symm
  | cons entry rest inductionHypothesis =>
      rcases entry with ⟨key, value⟩
      rw [UniqueKeys, keys, List.map_append] at unique
      have fresh : key ∉ document.map Prod.fst :=
        fun member => List.disjoint_of_nodup_append unique member List.mem_cons_self
      have extended : (document ++ [(key, value)] ++ rest).UniqueKeys := by
        rwa [UniqueKeys, keys, List.append_assoc, List.map_append]
      rw [List.foldl_cons, set_of_not_mem fresh, inductionHypothesis extended, List.append_assoc]
      rfl

theorem Document.ofEntries_eq_self {document : Document} (unique : document.UniqueKeys) :
    ofEntries document = document :=
  foldl_set_of_nodup unique

namespace Tree

mutual

/-- A tree made from a well-formed value spells it. -/
theorem toValue?_ofValue (value : Value) (formed : value.WellFormed) {depth : Nat}
    (deep : (ofValue value).depth ≤ depth) : (ofValue value).toValue? depth = some value := by
  match value with
  | .null => simp [ofValue, toValue?]
  | .bool truth => simp [ofValue, toValue?]
  | .number numeral => simp [ofValue, toValue?]
  | .string text => simp [ofValue, toValue?]
  | .array items =>
      rw [ofValue, Tree.depth] at deep
      obtain ⟨below, rfl⟩ : ∃ below, depth = below + 1 := ⟨depth - 1, by omega⟩
      rw [ofValue, toValue?, toValues?_ofValues items formed (by omega)]
      rfl
  | .object entries =>
      rw [ofValue, Tree.depth] at deep
      obtain ⟨below, rfl⟩ : ∃ below, depth = below + 1 := ⟨depth - 1, by omega⟩
      rw [ofValue, toValue?, toEntries?_ofEntries entries formed.2 (by omega), Option.map_some,
        Document.ofEntries_eq_self formed.1]

theorem toValues?_ofValues (items : List Value) (formed : Value.WellFormedItems items)
    {depth : Nat} (deep : depthOfItems (ofValues items) ≤ depth) :
    toValues? depth (ofValues items) = some items := by
  match items with
  | [] => rfl
  | item :: rest =>
      rw [ofValues, depthOfItems] at deep
      rw [ofValues, toValues?, toValue?_ofValue item formed.1 (by omega),
        toValues?_ofValues rest formed.2 (by omega)]

theorem toEntries?_ofEntries (entries : List (String × Value))
    (formed : Value.WellFormedEntries entries) {depth : Nat}
    (deep : depthOfEntries (ofEntries entries) ≤ depth) :
    toEntries? depth (ofEntries entries) = some entries := by
  match entries with
  | [] => rfl
  | (key, value) :: rest =>
      rw [ofEntries, depthOfEntries] at deep
      have readValue : (ofValue value).toValue? depth = some value :=
        toValue?_ofValue value formed.1 (by omega)
      have readRest : toEntries? depth (ofEntries rest) = some rest :=
        toEntries?_ofEntries rest formed.2 (by omega)
      simp only [ofEntries, toEntries?, readValue, readRest]

end

theorem value?_ofValue {value : Value} (formed : value.WellFormed) :
    value? (ofValue value) = some value :=
  toValue?_ofValue value formed le_rfl

end Tree

/-! ## Options of a query -/

theorem Tree.count?_ofCount (count : Count) : count? (ofValue (.ofCount count)) = some count :=
  Value.count?_ofCount count

/-- Options read back unless their ordering is null, which is read as a missing one. -/
theorem QueryOptions.ofTree?_toDocument_iff {options : QueryOptions}
    (formed : ∀ order ∈ options.sort, order.WellFormed) :
    ofTree? (Tree.ofValue (.object options.toDocument)) = some options ↔
      options.sort ≠ some .null := by
  obtain ⟨fields, written, found⟩ := Tree.exists_fields _ (rfl : options.toDocument = _) (by simp)
  have skip := Tree.optional_of_lookup (fun count _ => Tree.count?_ofCount count)
    (fun _ _ => Value.noConfusion) (found "skip")
  have limit := Tree.optional_of_lookup (fun count _ => Tree.count?_ofCount count)
    (fun _ _ => Value.noConfusion) (found "limit")
  have sortFound : fields.lookup "sort" = (options.sort.map id).map Tree.ofValue := by
    rw [Option.map_id]
    cases held : options.sort <;> simpa [held] using found "sort"
  have fieldsRead : Tree.fields? ["sort", "skip", "limit"]
      (Tree.ofValue (.object options.toDocument)) = some fields := written
  have read : ofTree? (Tree.ofValue (.object options.toDocument)) =
      (Tree.optional Tree.value? fields "sort").map fun sort => { options with sort } := by
    simp only [ofTree?, fieldsRead, skip, limit, Option.bind_eq_bind, Option.bind_some,
      Option.pure_def]
    exact Option.map_eq_bind.symm
  rw [read]
  constructor
  · intro readBack isNull
    rw [Tree.optional, sortFound, isNull] at readBack
    -- The null that was written is read as a missing ordering.
    have noSort : some .none = some options.sort := congrArg (Option.map sort) readBack
    rw [isNull] at noSort
    cases noSort
  · intro notNull
    have sort := Tree.optional_of_lookup
      (fun order member => Tree.value?_ofValue (formed order member))
      (fun order member isNull => notNull (isNull ▸ member)) sortFound
    rw [sort]
    rfl

namespace Selection

theorem wellFormed_normalEntry (entry : Value) (formed : entry.WellFormed) :
    (normalEntry entry).WellFormed := by
  cases entry with
  | string field => simp [normalEntry, ascendingPair, Value.WellFormed, Value.WellFormedItems]
  | _ => exact formed

theorem wellFormed_normalOrder {order : Value} (formed : order.WellFormed) :
    (normalOrder order).WellFormed := by
  cases order with
  | string field => exact ⟨wellFormed_normalEntry (.string field) trivial, trivial⟩
  | array entries =>
      apply (Value.wellFormedItems_iff _).mpr
      intro item member
      obtain ⟨entry, isEntry, rfl⟩ := List.mem_map.mp member
      exact wellFormed_normalEntry entry (formed.item isEntry)
  | _ => exact formed

/-- The ordering in the options of a query is well formed and is not null. -/
theorem wellFormed_sort {selection : Selection}
    (formed : (Value.object selection.entries).WellFormed) {sorted : Value}
    (isSorted : selection.options.sort = some sorted) : sorted.WellFormed ∧ sorted ≠ .null := by
  obtain ⟨order, ordered, rfl⟩ := (sort_eq_some_iff sorted).mp isSorted
  have stated : order.WellFormed ∧ order.truthy = true := by
    cases ordered with
    | preferred found truthy => exact ⟨formed.get? found, truthy⟩
    | fallback _ found truthy => exact ⟨formed.get? found, truthy⟩
  refine ⟨wellFormed_normalOrder stated.1, fun isNull => ?_⟩
  have truthy := truthy_normalOrder stated.2
  rw [isNull] at truthy
  cases truthy

theorem ofTree?_options {selection : Selection}
    (formed : (Value.object selection.entries).WellFormed) :
    QueryOptions.ofTree? (Tree.ofValue (.object selection.options.toDocument)) =
      some selection.options := by
  apply (QueryOptions.ofTree?_toDocument_iff fun sorted isSorted =>
    (wellFormed_sort formed isSorted).1).mpr
  intro isNull
  exact (wellFormed_sort formed isNull).2 rfl

end Selection

/-! ## Catalogs -/

namespace Catalog

/-- The mappers of a catalog stand in the order of their names, and no name stands twice. -/
def Ordered (mappers : List Mapper) : Prop :=
  mappers.Pairwise fun first second => first.name < second.name

theorem mem_place {mapper other : Mapper} {mappers : List Mapper}
    (member : other ∈ place mapper mappers) : other = mapper ∨ other ∈ mappers := by
  induction mappers with
  | nil => exact Or.inl (List.mem_singleton.mp member)
  | cons first rest inductionHypothesis =>
      rw [place] at member
      split at member
      · exact (List.mem_cons.mp member).imp_right (List.mem_cons_of_mem first)
      · split at member
        · exact List.mem_cons.mp member
        · rcases List.mem_cons.mp member with isFirst | inRest
          · exact Or.inr (isFirst ▸ List.mem_cons_self)
          · exact (inductionHypothesis inRest).imp_right (List.mem_cons_of_mem first)

theorem ordered_place {mappers : List Mapper} (ordered : Ordered mappers) (mapper : Mapper) :
    Ordered (place mapper mappers) := by
  induction mappers with
  | nil => exact List.pairwise_singleton _ _
  | cons first rest inductionHypothesis =>
      obtain ⟨below, restOrdered⟩ := List.pairwise_cons.mp ordered
      rw [place]
      split
      · rename_i same
        exact List.pairwise_cons.mpr ⟨fun other member => same ▸ below other member, restOrdered⟩
      · rename_i different
        split
        · rename_i before
          refine List.pairwise_cons.mpr ⟨?_, ordered⟩
          intro other member
          rcases List.mem_cons.mp member with rfl | inRest
          · exact before
          · exact String.lt_trans before (below other inRest)
        · rename_i notBefore
          refine List.pairwise_cons.mpr ⟨?_, inductionHypothesis restOrdered⟩
          intro other member
          rcases mem_place member with rfl | inRest
          · exact lt_of_le_of_ne (String.not_lt.mp notBefore) (Ne.symm different)
          · exact below other inRest

/-- A mapper with a name of its own is added to the others. -/
theorem perm_place {mapper : Mapper} {mappers : List Mapper}
    (fresh : mapper.name ∉ mappers.map Mapper.name) :
    (place mapper mappers).Perm (mapper :: mappers) := by
  induction mappers with
  | nil => exact .refl _
  | cons first rest inductionHypothesis =>
      rw [List.map_cons, List.mem_cons, not_or] at fresh
      rw [place, if_neg fresh.1]
      split
      · exact .refl _
      · exact ((inductionHypothesis fresh.2).cons first).trans (.swap mapper first rest)

theorem ordered_foldl_register (catalog : Catalog) (ordered : Ordered catalog.mappers)
    (added : List Mapper) : Ordered (added.foldl register catalog).mappers := by
  induction added generalizing catalog with
  | nil => exact ordered
  | cons mapper rest inductionHypothesis =>
      exact inductionHypothesis (catalog.register mapper) (ordered_place ordered mapper)

theorem perm_foldl_register (catalog : Catalog) (added : List Mapper)
    (unique : ((added ++ catalog.mappers).map Mapper.name).Nodup) :
    (added.foldl register catalog).mappers.Perm (added ++ catalog.mappers) := by
  induction added generalizing catalog with
  | nil => exact .refl _
  | cons mapper rest inductionHypothesis =>
      rw [List.cons_append, List.map_cons, List.nodup_cons] at unique
      have fresh : mapper.name ∉ catalog.mappers.map Mapper.name := by
        intro member
        apply unique.1
        rw [List.map_append]
        exact List.mem_append_right _ member
      have placed : (rest ++ (catalog.register mapper).mappers).Perm
          (mapper :: (rest ++ catalog.mappers)) :=
        ((perm_place fresh).append_left rest).trans List.perm_middle
      apply (inductionHypothesis _ _).trans placed
      apply ((placed.map Mapper.name).nodup_iff).mpr
      rw [List.map_cons]
      exact List.nodup_cons.mpr unique

theorem ordered_ofMappers (registered : List Mapper) : Ordered (ofMappers registered).mappers :=
  ordered_foldl_register empty List.Pairwise.nil registered

/-- The mappers of a catalog can be registered in any order. -/
theorem ofMappers_of_perm {registered written : List Mapper}
    (reordered : written.Perm (ofMappers registered).mappers) :
    ofMappers written = ofMappers registered := by
  have ordered := ordered_ofMappers registered
  have unique : (written.map Mapper.name).Nodup := by
    apply ((reordered.map Mapper.name).nodup_iff).mpr
    apply List.pairwise_map.mpr
    apply List.Pairwise.imp _ ordered
    intro first second before same
    rw [same] at before
    exact String.lt_irrefl _ before
  have permuted : (ofMappers written).mappers.Perm (ofMappers registered).mappers := by
    have added := perm_foldl_register empty written (by rwa [empty, List.append_nil])
    rw [empty, List.append_nil] at added
    exact added.trans reordered
  -- Both lists are sorted by name, so that there is nothing left to reorder.
  have sameMappers := permuted.eq_of_pairwise
    (fun first second _ _ before after => absurd after (String.lt_asymm before))
    (ordered_ofMappers written) ordered
  exact congrArg Catalog.mk sameMappers

end Catalog

/-! ## Schema texts -/

namespace Value

/-- No numeral is needed to write a value. -/
def Numberless (value : Value) : Prop := ∀ number, .number number ∉ value.tokens

theorem Numberless.numeralsRead {value : Value} (numberless : value.Numberless) :
    Lexer.NumeralsRead value.tokens :=
  fun number member => absurd member (numberless (some number))

theorem numberless_string (text : String) : (string text).Numberless := by
  intro number member
  cases List.mem_singleton.mp member

theorem number_mem_itemTokens {number : Option Number} {items : List Value}
    (member : .number number ∈ itemTokens items) : ∃ item ∈ items, .number number ∈ item.tokens := by
  induction items with
  | nil => cases member
  | cons item rest inductionHypothesis =>
      cases rest with
      | nil => exact ⟨item, List.mem_singleton_self item, member⟩
      | cons next rest =>
          rw [itemTokens, List.mem_append, List.mem_cons] at member
          rcases member with inItem | isComma | inRest
          · exact ⟨item, List.mem_cons_self, inItem⟩
          · cases isComma
          · obtain ⟨other, isOther, inOther⟩ := inductionHypothesis inRest
            exact ⟨other, List.mem_cons_of_mem item isOther, inOther⟩

theorem number_mem_entryTokens {number : Option Number} {entries : List (String × Value)}
    (member : .number number ∈ entryTokens entries) :
    ∃ entry ∈ entries, .number number ∈ entry.2.tokens := by
  induction entries with
  | nil => cases member
  | cons entry rest inductionHypothesis =>
      rcases entry with ⟨key, value⟩
      cases rest with
      | nil =>
          simp only [entryTokens, List.mem_cons, reduceCtorEq, false_or] at member
          exact ⟨_, List.mem_cons_self, member⟩
      | cons next rest =>
          simp only [entryTokens, List.mem_cons, List.mem_append, reduceCtorEq, false_or] at member
          rcases member with inValue | inRest
          · exact ⟨_, List.mem_cons_self, inValue⟩
          · obtain ⟨other, isOther, inOther⟩ := inductionHypothesis inRest
            exact ⟨other, List.mem_cons_of_mem _ isOther, inOther⟩

theorem numberless_array {items : List Value} (numberless : ∀ item ∈ items, item.Numberless) :
    (array items).Numberless := by
  intro number member
  simp only [tokens, List.mem_cons, List.mem_append, List.not_mem_nil, reduceCtorEq, false_or,
    or_false] at member
  obtain ⟨item, isItem, inItem⟩ := number_mem_itemTokens member
  exact numberless item isItem number inItem

theorem numberless_object {entries : List (String × Value)}
    (numberless : ∀ entry ∈ entries, entry.2.Numberless) : (object entries).Numberless := by
  intro number member
  simp only [tokens, List.mem_cons, List.mem_append, List.not_mem_nil, reduceCtorEq, false_or,
    or_false] at member
  obtain ⟨entry, isEntry, inEntry⟩ := number_mem_entryTokens member
  exact numberless entry isEntry number inEntry

theorem numberless_ofPresent {entries : List (String × Option Value)}
    (numberless : ∀ entry ∈ entries, ∀ value ∈ entry.2, value.Numberless) :
    (object (Document.ofPresent entries)).Numberless := by
  apply numberless_object
  intro present member
  obtain ⟨⟨key, held⟩, isEntry, isPresent⟩ := List.mem_filterMap.mp member
  obtain ⟨value, isHeld, rfl⟩ := Option.map_eq_some_iff.mp isPresent
  exact numberless _ isEntry value isHeld

theorem numberless_text {held : Option String} :
    ∀ value ∈ held.map string, value.Numberless := by
  intro value member
  obtain ⟨text, _, rfl⟩ := Option.map_eq_some_iff.mp member
  exact numberless_string text

end Value

theorem Relation.numberless_toDocument (relation : Relation) :
    (Value.object relation.toDocument).Numberless := by
  apply Value.numberless_ofPresent
  simp [Value.numberless_text]

theorem Mapper.numberless_toDocument (mapper : Mapper) :
    (Value.object mapper.toDocument).Numberless := by
  have relations : (Value.array (mapper.relations.map fun relation =>
      .object relation.toDocument)).Numberless := by
    apply Value.numberless_array
    intro item member
    obtain ⟨relation, _, rfl⟩ := List.mem_map.mp member
    exact relation.numberless_toDocument
  apply Value.numberless_ofPresent
  simp [Value.numberless_text, relations]

namespace Catalog

/-- A schema that lists mappers. -/
def schema (mappers : List Mapper) : Document :=
  [("mappers", .array (mappers.map fun mapper => .object mapper.toDocument))]

theorem numberless_schema (mappers : List Mapper) : (Value.object (schema mappers)).Numberless := by
  apply Value.numberless_object
  intro entry member
  obtain rfl := List.mem_singleton.mp member
  apply Value.numberless_array
  intro item isItem
  obtain ⟨mapper, _, rfl⟩ := List.mem_map.mp isItem
  exact mapper.numberless_toDocument

theorem mappersOfTree?_schema (mappers : List Mapper) :
    mappersOfTree? (Tree.ofValue (.object (schema mappers))) = some mappers := by
  obtain ⟨fields, written, found⟩ := Tree.exists_fields
    [("mappers", some (.array (mappers.map fun mapper => .object mapper.toDocument)))]
    (rfl : schema mappers = _) (by simp)
  have listed := Tree.defaulted_of_lookup (Tree.list?_map Mapper.ofTree?_toDocument mappers)
    (found "mappers") []
  rw [mappersOfTree?]
  exact Option.bind_eq_some_iff.mpr ⟨fields, written, listed⟩

/-- Any text of a schema that lists the mappers of a sound catalog is read as the catalog. -/
theorem ofText_schema {registered written : List Mapper}
    (valid : (ofMappers registered).validate = .ok ())
    (reordered : written.Perm (ofMappers registered).mappers) {text : String}
    (parsed : Tree.parse? text = some (Tree.ofValue (.object (schema written)))) :
    ofText text = .ok (ofMappers registered) := by
  have listed : (Tree.parse? text).bind mappersOfTree? = some written := by
    rw [parsed, Option.bind_some, mappersOfTree?_schema]
  simp only [ofText, listed, ofMappers_of_perm reordered, valid]

theorem parse?_schema (mappers : List Mapper) :
    Tree.parse? (Value.object (schema mappers)).compact =
      some (Tree.ofValue (.object (schema mappers))) :=
  Tree.parse?_compact (numberless_schema mappers).numeralsRead

end Catalog

/-! ## All written definitions -/

/-- Mappers, find options, settings and the options of a query read back from the objects they are
written as; of all options just those do not whose ordering is null.  A sound catalog, however it
was registered, reads back from a schema text that lists its mappers in any order. -/
theorem definitions_read_back :
    (∀ mapper : Mapper, Mapper.ofTree? (.ofValue (.object mapper.toDocument)) = some mapper) ∧
    (∀ options : FindOptions,
      FindOptions.ofTree? (.ofValue (.object options.toDocument)) = some options) ∧
    (∀ config : Config, Config.ofTree? (.ofValue (.object config.toDocument)) = some config) ∧
    (∀ selection : Selection, (Value.object selection.entries).WellFormed →
      QueryOptions.ofTree? (.ofValue (.object selection.options.toDocument)) =
        some selection.options) ∧
    (∀ options : QueryOptions, (∀ order ∈ options.sort, order.WellFormed) →
      (QueryOptions.ofTree? (.ofValue (.object options.toDocument)) = some options ↔
        options.sort ≠ some .null)) ∧
    ∀ registered written : List Mapper, (Catalog.ofMappers registered).validate = .ok () →
      written.Perm (Catalog.ofMappers registered).mappers →
      Catalog.ofText (Value.object (Catalog.schema written)).compact =
          .ok (Catalog.ofMappers registered) ∧
        ∀ text, Tree.parse? text = some (.ofValue (.object (Catalog.schema written))) →
          Catalog.ofText text = .ok (Catalog.ofMappers registered) := by
  refine ⟨Mapper.ofTree?_toDocument, FindOptions.ofTree?_toDocument, Config.ofTree?_toDocument,
    fun _ formed => Selection.ofTree?_options formed,
    fun _ formed => QueryOptions.ofTree?_toDocument_iff formed, ?_⟩
  intro registered written valid reordered
  exact ⟨Catalog.ofText_schema valid reordered (Catalog.parse?_schema written),
    fun text parsed => Catalog.ofText_schema valid reordered parsed⟩

/-- A pupil belongs to a class. -/
def pupilMapper : Mapper :=
  (Mapper.named "Pupil").withRelation (.belongsTo "Class" "class" "classId")

/-- A class lists its pupils, which are stored elsewhere. -/
def classMapper : Mapper :=
  (((Mapper.named "Class").withIdAttribute "code").withTable "classes").withRelation
    (.hasManyListed "Pupil" "members.pupils" "pupilIds")

/-- A query with an ordering and a page. -/
def pupilsByName : Selection where
  entries :=
    [("orderBy", .array [.array [.string "age", .string "DESC"], .string "name"]),
      ("limit", .number (.ofNat 20)), ("class", .string "4b")]

/-- A schema text with blanks in it. -/
def pupilText : String :=
  "\x7b\"mappers\": [ \x7b\"name\": \"Pupil\", \"relations\": []\x7d ]\x7d"

theorem definitions_read_back_school :
    (Value.object pupilsByName.entries).WellFormed ∧
    QueryOptions.ofTree? (.ofValue (.object pupilsByName.options.toDocument)) =
      some pupilsByName.options ∧
    (∀ order ∈ QueryOptions.sort ⟨some .null, none, none⟩, order.WellFormed) ∧
    QueryOptions.ofTree? (.ofValue (.object (QueryOptions.toDocument ⟨some .null, none, none⟩))) ≠
      some ⟨some .null, none, none⟩ ∧
    (Catalog.ofMappers [.named "Pupil", pupilMapper, classMapper]).validate = .ok () ∧
    [pupilMapper, classMapper].Perm
      (Catalog.ofMappers [.named "Pupil", pupilMapper, classMapper]).mappers ∧
    Catalog.ofText (Value.object (Catalog.schema [pupilMapper, classMapper])).compact =
      .ok (Catalog.ofMappers [.named "Pupil", pupilMapper, classMapper]) ∧
    Tree.parse? pupilText = some (.ofValue (.object (Catalog.schema [.named "Pupil"]))) ∧
    Catalog.ofText pupilText = .ok (Catalog.ofMappers [.named "Pupil"]) := by
  obtain ⟨_, _, _, selections, options, catalogs⟩ := definitions_read_back
  have formed : (Value.object pupilsByName.entries).WellFormed := by
    simp [pupilsByName, Value.WellFormed, Value.WellFormedItems, Value.WellFormedEntries]
  have nullFormed : ∀ order ∈ QueryOptions.sort ⟨some .null, none, none⟩, order.WellFormed := by
    simp [Value.WellFormed]
  have notReadBack := mt (options _ nullFormed).mp (not_not.mpr rfl)
  have valid : (Catalog.ofMappers [.named "Pupil", pupilMapper, classMapper]).validate =
      .ok () := by
    cbv
  have reordered : [pupilMapper, classMapper].Perm
      (Catalog.ofMappers [.named "Pupil", pupilMapper, classMapper]).mappers := by
    decide +kernel
  have parsed : Tree.parse? pupilText =
      some (.ofValue (.object (Catalog.schema [.named "Pupil"]))) := by
    cbv
  exact ⟨formed, selections _ formed, nullFormed, notReadBack, valid, reordered,
    (catalogs _ _ valid reordered).1, parsed,
    (catalogs [.named "Pupil"] [.named "Pupil"] rfl (.refl _)).2 _ parsed⟩

end RecordGraph
