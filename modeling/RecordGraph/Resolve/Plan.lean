import RecordGraph.Catalog
import RecordGraph.Config
import RecordGraph.EagerLoad

/-!
# Loading plans

An eager-load list selects relations of a mapper and, below each of them,
relations of its target.  The plan lists what is selected before any record is
read: it depends on the catalog, the configuration and the list alone.  Every
level has a smaller list than the one above it, so plans are finite even when
mappers refer to each other in circles.
-/

namespace RecordGraph

/-- A relation that is to be loaded. -/
structure Step where
  relation : Relation
  join : Join
  target : Mapper
  /-- The identity field of the owners. -/
  ownerIdentity : String
  /-- The identity field of the related records. -/
  targetIdentity : String
  deriving DecidableEq, Repr

/-- What is to be loaded at a level, in the order of the relations, and below it.
The level below a relation is worked out when it is entered, so a plan costs no
more than the part of it that is used. -/
inductive Plan where
  /-- Nothing more. -/
  | done
  /-- A selected relation targets a mapper that is not registered. -/
  | unknown (target : String)
  /-- A relation, the level below it, and what follows at the same level. -/
  | load (step : Step) (below : Unit → Plan) (rest : Plan)

namespace Plan

/-- Put a relation in front of a level.  A level with an unregistered target loads
nothing, so it stays as it is. -/
def cons (step : Step) (below : Unit → Plan) : Plan → Plan
  | .unknown target => .unknown target
  | rest => .load step below rest

def height : Plan → Nat
  | .done => 0
  | .unknown _ => 0
  | .load _ below rest => max ((below ()).height + 1) rest.height

/-! ## Making a plan -/

/-- The plan for some relations of a mapper.  Relations that the list does not
select, and those without a usable key, are left out. -/
def ofRelations (catalog : Catalog) (config : Config) (mapper : Mapper) (load : EagerLoad) :
    List Relation → Plan
  | [] => .done
  | relation :: rest =>
      match _selected : load.matched? relation.target relation.localField with
      | none => ofRelations catalog config mapper load rest
      | some name =>
          match catalog.get? relation.target with
          | none => .unknown relation.target
          | some target =>
              match relation.join? with
              | none => ofRelations catalog config mapper load rest
              | some join =>
                  let step : Step :=
                    { relation, join, target
                      ownerIdentity := mapper.identity config.defaultIdAttribute
                      targetIdentity := target.identity config.defaultIdAttribute }
                  let below := load.descend config.prunePolicy name
                  .cons step (fun _ => ofRelations catalog config target below target.relations)
                    (ofRelations catalog config mapper load rest)
termination_by relations => (load.size, relations.length)
decreasing_by
  · exact Prod.Lex.right _ (by simp)
  · exact Prod.Lex.right _ (by simp)
  · exact Prod.Lex.left _ _
      (EagerLoad.size_descend_lt _ (EagerLoad.contains_of_matched? _selected))
  · exact Prod.Lex.right _ (by simp)

def ofMapper (catalog : Catalog) (config : Config) (mapper : Mapper) (load : EagerLoad) : Plan :=
  ofRelations catalog config mapper load mapper.relations

end Plan

end RecordGraph
