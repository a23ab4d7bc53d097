import RecordGraph.Catalog.Mapper

/-!
# The catalog

A catalog holds mappers by name.  It is sound when every relation in it targets a
registered mapper and names a field to attach to; catalogs read from a schema
text are checked for this.
-/

namespace RecordGraph

/-- Why a catalog is refused. -/
inductive CatalogError where
  /-- The schema text is not JSON or not of the right shape. -/
  | malformed
  /-- A relation targets a mapper that is not registered. -/
  | unknownTarget (target mapper localField : String)
  /-- A relation has no field to attach to. -/
  | emptyLocalField (target mapper : String)
  deriving DecidableEq, Repr

/-- The wording of an error; malformed text has none of its own. -/
def CatalogError.message : CatalogError → String
  | .malformed => ""
  | .unknownTarget target mapper localField =>
      "unknown mapper: " ++ target ++ " (target of " ++ mapper ++ "." ++ localField ++ ")"
  | .emptyLocalField target mapper =>
      "invalid data: relation " ++ target ++ " on " ++ mapper ++ " has an empty localField"

/-- The registered mappers, sorted by name. -/
structure Catalog where
  mappers : List Mapper
  deriving DecidableEq, Repr

namespace Catalog

def empty : Catalog := ⟨[]⟩

/-- Put a mapper at its place among mappers sorted by name. -/
def place (mapper : Mapper) : List Mapper → List Mapper
  | [] => [mapper]
  | first :: rest =>
      if mapper.name = first.name then mapper :: rest
      else if mapper.name < first.name then mapper :: first :: rest
      else first :: place mapper rest

/-- Register a mapper in the place of one with the same name, if there is one. -/
def register (catalog : Catalog) (mapper : Mapper) : Catalog :=
  ⟨place mapper catalog.mappers⟩

def ofMappers (mappers : List Mapper) : Catalog := mappers.foldl register empty

def get? (catalog : Catalog) (name : String) : Option Mapper :=
  catalog.mappers.find? fun mapper => mapper.name == name

theorem get?_register_self (catalog : Catalog) (mapper : Mapper) :
    (catalog.register mapper).get? mapper.name = some mapper := by
  rcases catalog with ⟨mappers⟩
  simp only [get?, register]
  induction mappers with
  | nil => simp [place]
  | cons first rest inductionHypothesis =>
      unfold place
      split
      · simp
      · rename_i different
        split
        · simp
        · rw [List.find?_cons_of_neg (by simpa using fun equality => different equality.symm)]
          exact inductionHypothesis

/-- Registering a mapper leaves every other name alone. -/
theorem get?_register_of_ne {mapper : Mapper} {name : String} (different : name ≠ mapper.name)
    (catalog : Catalog) : (catalog.register mapper).get? name = catalog.get? name := by
  have skipped : (mapper.name == name) = false := by
    simpa using fun equality : mapper.name = name => different equality.symm
  rcases catalog with ⟨mappers⟩
  simp only [get?, register]
  induction mappers with
  | nil => simp [place, skipped]
  | cons first rest inductionHypothesis =>
      unfold place
      split
      · rename_i sameName
        simp only [List.find?_cons, skipped, sameName ▸ skipped]
      · split
        · simp only [List.find?_cons, skipped]
        · simp only [List.find?_cons, inductionHypothesis]

/-- The names of the mappers, sorted. -/
def names (catalog : Catalog) : List String := catalog.mappers.map Mapper.name

/-! ## Soundness -/

def checkRelation (catalog : Catalog) (mapper : Mapper) (relation : Relation) :
    Except CatalogError Unit :=
  if (catalog.get? relation.target).isNone then
    .error (.unknownTarget relation.target mapper.name relation.localField)
  else if relation.localField = "" then
    .error (.emptyLocalField relation.target mapper.name)
  else
    .ok ()

/-- Check every relation, mapper by mapper in the order of names. -/
def validate (catalog : Catalog) : Except CatalogError Unit :=
  catalog.mappers.forM fun mapper => mapper.relations.forM (catalog.checkRelation mapper)

/-! ## Schema text -/

def mappersOfTree? (tree : Tree) : Option (List Mapper) := do
  let fields ← tree.fields? ["mappers"]
  Tree.defaulted [] (Tree.list? Mapper.ofTree?) fields "mappers"

def ofText (text : String) : Except CatalogError Catalog :=
  match (Tree.parse? text).bind mappersOfTree? with
  | none => .error .malformed
  | some mappers =>
      let catalog := ofMappers mappers
      match catalog.validate with
      | .ok () => .ok catalog
      | .error error => .error error

end Catalog

end RecordGraph
