import Mathlib.Data.List.Nodup
import RecordGraph.Proofs.LooseEquality

/-!
# Equality up to the order of keys

Equality of content is told without looking up keys: an object may have its values replaced by
alike ones, at any depth, and its entries put in another order.  Numbers of different forms are
never alike, but the two zeros among the doubles are.  Where no key is repeated this is what the
comparison by lookup decides, and loose equality adds only the numbers that are one double.
-/

namespace RecordGraph

/-! ## Alike values -/

mutual

/-- Two values have the same content, whatever the order of keys. -/
inductive Value.Alike : Value → Value → Prop
  | null : Value.Alike .null .null
  | bool (truth : Bool) : Value.Alike (.bool truth) (.bool truth)
  | whole (value : Whole) : Value.Alike (.number (.whole value)) (.number (.whole value))
  | double {x y : Double} :
      x.equal y = true → Value.Alike (.number (.double x)) (.number (.double y))
  | string (text : String) : Value.Alike (.string text) (.string text)
  | array {items others : List Value} :
      AlikeItems items others → Value.Alike (.array items) (.array others)
  | object {entries replaced others : List (String × Value)} :
      AlikeEntries entries replaced → replaced.Perm others →
        Value.Alike (.object entries) (.object others)

/-- Two lists have alike values at the same places. -/
inductive AlikeItems : List Value → List Value → Prop
  | nil : AlikeItems [] []
  | cons {item other : Value} {rest others : List Value} :
      Value.Alike item other → AlikeItems rest others → AlikeItems (item :: rest) (other :: others)

/-- Two lists of entries have the same keys and alike values at the same places. -/
inductive AlikeEntries : List (String × Value) → List (String × Value) → Prop
  | nil : AlikeEntries [] []
  | cons {key : String} {value other : Value} {rest others : List (String × Value)} :
      Value.Alike value other → AlikeEntries rest others →
        AlikeEntries ((key, value) :: rest) ((key, other) :: others)

end

theorem Double.equal_self (x : Double) : x.equal x = true := by
  rw [equal, beq_self_eq_true]

/-- Numbers of one form are one whole number or doubles of one value. -/
theorem Number.forms_of_same {left right : Number} (sameForm : left.same right = true) :
    (∃ value, left = .whole value ∧ right = .whole value) ∨
      ∃ x y, left = .double x ∧ right = .double y ∧ x.equal y = true := by
  cases left with
  | whole value =>
      cases right with
      | whole other =>
          obtain rfl : value = other := beq_iff_eq.mp sameForm
          exact .inl ⟨value, rfl, rfl⟩
      | double => cases sameForm
  | double x =>
      cases right with
      | whole => cases sameForm
      | double y => exact .inr ⟨x, y, rfl, rfl, sameForm⟩

theorem Number.equal_of_same {left right : Number} (sameForm : left.same right = true) :
    left.equal right = true := by
  rcases forms_of_same sameForm with ⟨value, rfl, rfl⟩ | ⟨x, y, rfl, rfl, sameValue⟩
  · exact Double.equal_self _
  · exact sameValue

namespace Value

mutual

theorem alike_self (value : Value) : value.Alike value := by
  match value with
  | .null => exact .null
  | .bool truth => exact .bool truth
  | .number (.whole value) => exact .whole value
  | .number (.double x) => exact .double x.equal_self
  | .string text => exact .string text
  | .array items => exact .array (alikeItems_self items)
  | .object entries => exact .object (alikeEntries_self entries) (.refl entries)

theorem alikeItems_self (items : List Value) : AlikeItems items items := by
  match items with
  | [] => exact .nil
  | item :: rest => exact .cons (alike_self item) (alikeItems_self rest)

theorem alikeEntries_self (entries : List (String × Value)) : AlikeEntries entries entries := by
  match entries with
  | [] => exact .nil
  | (_, value) :: rest => exact .cons (alike_self value) (alikeEntries_self rest)

end

/-! ## Comparing by lookup -/

theorem keys_of_alikeEntries {entries replaced : List (String × Value)}
    (alike : AlikeEntries entries replaced) :
    replaced.map Prod.fst = entries.map Prod.fst := by
  induction entries generalizing replaced with
  | nil => cases alike with | nil => rfl
  | cons entry rest inductionHypothesis =>
      cases alike with
      | cons _ alikeRest => rw [List.map_cons, List.map_cons, inductionHypothesis alikeRest]

theorem length_of_alikeEntries {entries replaced : List (String × Value)}
    (alike : AlikeEntries entries replaced) : replaced.length = entries.length := by
  have sameKeys := congrArg List.length (keys_of_alikeEntries alike)
  rwa [List.length_map, List.length_map] at sameKeys

mutual

theorem same_of_alike (left right : Value) (rightFormed : right.WellFormed)
    (alike : left.Alike right) : left.same right = true := by
  match left with
  | .null => cases alike with | null => rfl
  | .bool truth => cases alike with | bool => simp [same]
  | .number (.whole value) => cases alike with | whole => simp [same, Number.same]
  | .number (.double x) => cases alike with | double sameValue => exact sameValue
  | .string text => cases alike with | string => simp [same]
  | .array items =>
      cases alike with
      | array alikeItems =>
          rw [same]
          exact sameItems_of_alikeItems items _ rightFormed alikeItems
  | .object entries =>
      cases alike with
      | @object _ replaced others alikeEntries permuted =>
          have replacedFormed : WellFormedEntries replaced := by
            rw [wellFormedEntries_iff]
            intro entry member
            exact (wellFormedEntries_iff others).mp rightFormed.2 entry (permuted.subset member)
          rw [same, Bool.and_eq_true, beq_iff_eq]
          refine ⟨?_, ?_⟩
          · rw [← length_of_alikeEntries alikeEntries, permuted.length_eq]
          · apply sameEntries_of_counterparts
            intro entry member
            obtain ⟨other, inReplaced, held⟩ :=
              counterparts_of_alikeEntries entries replaced replacedFormed alikeEntries entry member
            refine ⟨other, ?_, held⟩
            exact Document.get?_of_mem rightFormed.1 (permuted.subset inReplaced)

theorem sameItems_of_alikeItems (left right : List Value) (rightFormed : WellFormedItems right)
    (alike : AlikeItems left right) : sameItems left right = true := by
  match left with
  | [] => cases alike with | nil => rfl
  | item :: rest =>
      cases alike with
      | cons alikeItem alikeRest =>
          rw [sameItems, Bool.and_eq_true]
          exact ⟨same_of_alike item _ rightFormed.1 alikeItem,
            sameItems_of_alikeItems rest _ rightFormed.2 alikeRest⟩

theorem counterparts_of_alikeEntries (entries replaced : List (String × Value))
    (replacedFormed : WellFormedEntries replaced) (alike : AlikeEntries entries replaced) :
    ∀ entry ∈ entries, ∃ other, (entry.1, other) ∈ replaced ∧ entry.2.same other = true := by
  match entries with
  | [] => simp
  | (key, value) :: rest =>
      cases alike with
      | @cons _ _ other _ others alikeValue alikeRest =>
          rw [List.forall_mem_cons]
          constructor
          · exact ⟨other, List.mem_cons_self, same_of_alike value other replacedFormed.1 alikeValue⟩
          · intro entry member
            obtain ⟨found, inOthers, held⟩ :=
              counterparts_of_alikeEntries rest others replacedFormed.2 alikeRest entry member
            exact ⟨found, List.mem_cons_of_mem _ inOthers, held⟩

end

theorem alike_of_sameNumber {left right : Number} (sameForm : left.same right = true) :
    Alike (.number left) (.number right) := by
  rcases Number.forms_of_same sameForm with ⟨value, rfl, rfl⟩ | ⟨x, y, rfl, rfl, sameValue⟩
  · exact .whole value
  · exact .double sameValue

mutual

theorem alike_of_same (left right : Value) (leftFormed : left.WellFormed)
    (sameContent : left.same right = true) : left.Alike right := by
  match left with
  | .null =>
      cases right with
      | null => exact .null
      | _ => simp [same] at sameContent
  | .bool truth =>
      cases right with
      | bool other =>
          obtain rfl : truth = other := by simpa [same] using sameContent
          exact .bool truth
      | _ => simp [same] at sameContent
  | .number numeral =>
      cases right with
      | number other => exact alike_of_sameNumber sameContent
      | _ => simp [same] at sameContent
  | .string text =>
      cases right with
      | string other =>
          obtain rfl : text = other := by simpa [same] using sameContent
          exact .string text
      | _ => simp [same] at sameContent
  | .array items =>
      cases right with
      | array others =>
          rw [same] at sameContent
          exact .array (alikeItems_of_sameItems items others leftFormed sameContent)
      | _ => simp [same] at sameContent
  | .object entries =>
      cases right with
      | object others =>
          rw [same, Bool.and_eq_true, beq_iff_eq] at sameContent
          obtain ⟨sameLength, sameHeld⟩ := sameContent
          obtain ⟨replaced, alikeEntries, inOthers⟩ :=
            exists_alikeEntries entries others leftFormed.2 sameHeld
          -- As many different entries as there are must be all of them.
          have distinct : replaced.Nodup := by
            apply List.Nodup.of_map Prod.fst
            rw [keys_of_alikeEntries alikeEntries]
            exact leftFormed.1
          apply Alike.object alikeEntries
          apply (List.subperm_of_subset distinct inOthers).perm_of_length_le
          rw [length_of_alikeEntries alikeEntries, sameLength]
      | _ => simp [same] at sameContent

theorem alikeItems_of_sameItems (left right : List Value) (leftFormed : WellFormedItems left)
    (sameContent : sameItems left right = true) : AlikeItems left right := by
  match left, right with
  | [], [] => exact .nil
  | [], _ :: _ => simp [sameItems] at sameContent
  | _ :: _, [] => simp [sameItems] at sameContent
  | item :: rest, other :: otherRest =>
      rw [sameItems, Bool.and_eq_true] at sameContent
      exact .cons (alike_of_same item other leftFormed.1 sameContent.1)
        (alikeItems_of_sameItems rest otherRest leftFormed.2 sameContent.2)

theorem exists_alikeEntries (entries others : List (String × Value))
    (formed : WellFormedEntries entries) (sameContent : sameEntries entries others = true) :
    ∃ replaced, AlikeEntries entries replaced ∧ replaced ⊆ others := by
  match entries with
  | [] => exact ⟨[], .nil, List.nil_subset others⟩
  | (key, value) :: rest =>
      rw [sameEntries, Bool.and_eq_true] at sameContent
      obtain ⟨held, restHeld⟩ := sameContent
      obtain ⟨replaced, alikeRest, inOthers⟩ := exists_alikeEntries rest others formed.2 restHeld
      split at held
      · rename_i other found
        refine ⟨(key, other) :: replaced, ?_, ?_⟩
        · exact .cons (alike_of_same value other formed.1 held) alikeRest
        · exact List.cons_subset.mpr ⟨Document.mem_of_get? found, inOthers⟩
      · cases held

end

/-- Comparing by lookup decides whether values without repeated keys are alike. -/
theorem same_iff_alike {left right : Value} (leftFormed : left.WellFormed)
    (rightFormed : right.WellFormed) : left.same right = true ↔ left.Alike right :=
  ⟨alike_of_same left right leftFormed, same_of_alike left right rightFormed⟩

/-! ## Loose equality -/

theorem equal_of_same {left right : Value} (sameContent : left.same right = true) :
    left.equal right = true := by
  cases left with
  | number x =>
      cases right with
      | number y => exact Number.equal_of_same sameContent
      | _ => exact sameContent
  | _ => exact sameContent

theorem same_or_numbers_of_equal {left right : Value} (sameValue : left.equal right = true) :
    left.same right = true ∨
      ∃ x y, left = .number x ∧ right = .number y ∧ x.equal y = true := by
  cases left with
  | number x =>
      cases right with
      | number y => exact .inr ⟨x, y, rfl, rfl, sameValue⟩
      | _ => exact .inl sameValue
  | _ => exact .inl sameValue

theorem equal_iff_alike {left right : Value} (leftFormed : left.WellFormed)
    (rightFormed : right.WellFormed) :
    left.equal right = true ↔
      left.Alike right ∨ ∃ x y, left = .number x ∧ right = .number y ∧ x.equal y = true := by
  rw [← same_iff_alike leftFormed rightFormed]
  constructor
  · exact same_or_numbers_of_equal
  · rintro (sameContent | ⟨x, y, rfl, rfl, sameNumber⟩)
    · exact equal_of_same sameContent
    · exact sameNumber

end Value

/-- A value in which no object has a key twice. -/
abbrev FormedValue : Type := {value : Value // value.WellFormed}

theorem FormedValue.equal_self (value : FormedValue) : value.val.equal value.val = true :=
  (Value.equal_iff_alike value.property value.property).mpr (.inl value.val.alike_self)

/-- Loose equality is an equivalence of the values without repeated keys.  It holds of alike
values, with keys in any order at any depth, and of two numbers that are one double, and it
tells apart all others.  Equal values are true or false together. -/
theorem loose_equality_is_equivalence :
    Equivalence (fun left right : FormedValue => left.val.equal right.val = true) ∧
      ∀ left right : FormedValue,
        (left.val.equal right.val = true ↔
          left.val.Alike right.val ∨
            ∃ x y, left.val = .number x ∧ right.val = .number y ∧ x.equal y = true) ∧
        (left.val.equal right.val = true → left.val.truthy = right.val.truthy) := by
  constructor
  · constructor
    case refl => exact FormedValue.equal_self
    case symm =>
      intro left right sameValue
      exact Value.equal_symm left.property right.property sameValue
    case trans =>
      intro left middle right first second
      exact Value.equal_trans first second
  · intro left right
    exact ⟨Value.equal_iff_alike left.property right.property, Value.truthy_eq_of_equal⟩

-- A whole number equals a double of its value, but an item of the one form none of the other.
example :
    let whole : Value := .number (.whole ⟨0, by decide, by decide⟩)
    let double : Value := .number (.double .zero)
    whole.equal double = true ∧ (Value.array [whole]).equal (.array [double]) = false := by
  decide +kernel

/-! ## A parcel written twice -/

/-- A parcel with nothing in it, the weight as a double. -/
def parcel : FormedValue :=
  ⟨.object
    [("unit", .string "kg"),
      ("parts", .array [.object [("net", .number (.double .zero)), ("tare", .null)]])],
    by decide, trivial, ⟨⟨by decide, trivial, trivial, trivial⟩, trivial⟩, trivial⟩

/-- The same parcel with all keys in another order and the weight as negative zero. -/
def parcelAgain : FormedValue :=
  ⟨.object
    [("parts", .array
        [.object [("tare", .null), ("net", .number (.double (Double.zero.withSign true)))]]),
      ("unit", .string "kg")],
    by decide, ⟨⟨by decide, trivial, trivial, trivial⟩, trivial⟩, trivial, trivial⟩

theorem parcel_alike : parcel.val.Alike parcelAgain.val := by
  have part : Value.Alike
      (.object [("net", .number (.double .zero)), ("tare", .null)])
      (.object [("tare", .null), ("net", .number (.double (Double.zero.withSign true)))]) :=
    .object (.cons (.double (by decide)) (.cons .null .nil)) (.swap _ _ [])
  exact .object (.cons (.string "kg") (.cons (.array (.cons part .nil)) .nil)) (.swap _ _ [])

/-- The parcels are equal in both directions, and each is true. -/
theorem loose_equality_is_equivalence_parcel :
    parcel.val ≠ parcelAgain.val ∧ parcel.val.Alike parcelAgain.val ∧
      parcel.val.equal parcelAgain.val = true ∧ parcelAgain.val.equal parcel.val = true ∧
      parcelAgain.val.truthy = true := by
  obtain ⟨equivalence, laws⟩ := loose_equality_is_equivalence
  obtain ⟨equal_iff, truthy_eq⟩ := laws parcel parcelAgain
  have sameValue := equal_iff.mpr (.inl parcel_alike)
  exact ⟨by decide, parcel_alike, sameValue, equivalence.symm sameValue,
    (truthy_eq sameValue).symm⟩

end RecordGraph
