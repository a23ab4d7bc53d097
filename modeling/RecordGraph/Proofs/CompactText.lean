import RecordGraph.Json.Unique
import RecordGraph.Proofs.NumberText

/-!
# Different values have different compact texts

Compact text is read from the front: its first character tells the kind of the
value, and every value ends where its closing mark stands or, for a number, at the
first character that no numeral contains.  Hence values that repeat an earlier
text are repeats of an earlier value.
-/

namespace RecordGraph

/-! ## Strings -/

/-- The character that an escaped text starts with, and what follows it. -/
def unescape? : List Char → Option (Char × List Char)
  | '\\' :: 'u' :: _ :: _ :: high :: low :: rest =>
      (Lexer.hexValue? high).bind fun sixteens =>
        (Lexer.hexValue? low).map fun ones => (Char.ofNat (16 * sixteens + ones), rest)
  | '\\' :: char :: rest => (Lexer.escapedBy? char).map (·, rest)
  | char :: rest => some (char, rest)
  | [] => none

theorem hexValue?_hexDigit {digit : Nat} (small : digit < 16) :
    Lexer.hexValue? (hexDigit digit) = some digit := by
  have all : ∀ digit : Fin 16, Lexer.hexValue? (hexDigit digit) = some digit.val := by decide
  exact all ⟨digit, small⟩

theorem unescape?_of_ne_backslash {char : Char} (plain : char ≠ '\\') (rest : List Char) :
    unescape? (char :: rest) = some (char, rest) := by
  unfold unescape?
  split
  · rename_i equality
    exact absurd (List.cons.inj equality).1 plain
  · rename_i equality
    exact absurd (List.cons.inj equality).1 plain
  · rename_i equality
    obtain ⟨rfl, rfl⟩ := List.cons.inj equality
    rfl
  · rename_i equality
    exact absurd equality (List.cons_ne_nil _ _)

/-- An escaped character is read back. -/
theorem unescape?_escapedChar (char : Char) (rest : List Char) :
    unescape? (escapedChar char ++ rest) = some (char, rest) := by
  by_cases backslash : char = '\\'
  · subst backslash
    rfl
  · have high : Lexer.hexValue? (hexDigit (char.toNat / 16 % 16)) = some (char.toNat / 16 % 16) :=
      hexValue?_hexDigit (by omega)
    have low : Lexer.hexValue? (hexDigit (char.toNat % 16)) = some (char.toNat % 16) :=
      hexValue?_hexDigit (by omega)
    have rebuilt : Char.ofNat (16 * (char.toNat / 16) + char.toNat % 16) = char := by
      rw [Nat.div_add_mod]
      exact Char.ofNat_toNat char
    unfold escapedChar
    repeat' split
    all_goals first
      | (subst_vars; rfl)
      | exact unescape?_of_ne_backslash backslash rest
      | skip
    rename_i control
    rw [Nat.mod_eq_of_lt (by omega : char.toNat / 16 < 16)] at high
    simp [unescape?, high, low, rebuilt]

theorem escapedChar_ne_quote (char : Char) (first second : List Char) :
    escapedChar char ++ first ≠ '"' :: second := by
  intro quote
  have read := congrArg unescape? quote
  rw [unescape?_escapedChar, unescape?_of_ne_backslash (by decide), Option.some.injEq,
    Prod.mk.injEq] at read
  obtain ⟨rfl, rfl⟩ := read
  simp [escapedChar] at quote

/-- An escaped text ends at the first quote that is not escaped. -/
theorem escaped_injective {first second firstRest secondRest : List Char}
    (sameText : first.flatMap escapedChar ++ '"' :: firstRest =
      second.flatMap escapedChar ++ '"' :: secondRest) :
    first = second ∧ firstRest = secondRest := by
  induction first generalizing second with
  | nil =>
      cases second with
      | nil => simpa using sameText
      | cons char rest =>
          rw [List.flatMap_cons, List.append_assoc] at sameText
          exact absurd sameText.symm (escapedChar_ne_quote char _ _)
  | cons char rest inductionHypothesis =>
      cases second with
      | nil =>
          rw [List.flatMap_cons, List.append_assoc] at sameText
          exact absurd sameText (escapedChar_ne_quote char _ _)
      | cons other otherRest =>
          rw [List.flatMap_cons, List.flatMap_cons, List.append_assoc, List.append_assoc]
            at sameText
          have read := congrArg unescape? sameText
          rw [unescape?_escapedChar, unescape?_escapedChar, Option.some.injEq,
            Prod.mk.injEq] at read
          obtain ⟨rfl, sameRest⟩ := read
          obtain ⟨rfl, sameEnd⟩ := inductionHypothesis sameRest
          exact ⟨rfl, sameEnd⟩

theorem quotedText_injective {first second : String} {firstRest secondRest : List Char}
    (sameText : quotedText first ++ firstRest = quotedText second ++ secondRest) :
    first = second ∧ firstRest = secondRest := by
  simp only [quotedText, List.cons_append, List.append_assoc, List.cons.injEq, true_and,
    List.nil_append] at sameText
  obtain ⟨sameChars, sameRest⟩ := escaped_injective sameText
  exact ⟨String.toList_injective sameChars, sameRest⟩

/-! ## Numbers -/

/-- What follows a number does not go on with it. -/
def EndsNumber (rest : List Char) : Prop :=
  ∀ char, rest.head? = some char → Lexer.isNumeralChar char = false

theorem endsNumber_nil : EndsNumber [] := by
  intro char isHead
  simp at isHead

theorem endsNumber_cons {char : Char} (ends : Lexer.isNumeralChar char = false)
    (rest : List Char) : EndsNumber (char :: rest) := by
  intro head isHead
  obtain rfl := Option.some.inj isHead
  exact ends

theorem takeWhile_numeral {text rest : List Char}
    (numeral : ∀ char ∈ text, Lexer.isNumeralChar char = true) (ends : EndsNumber rest) :
    (text ++ rest).takeWhile Lexer.isNumeralChar = text := by
  induction text with
  | nil =>
      cases rest with
      | nil => rfl
      | cons char rest => simp [ends char rfl]
  | cons char text inductionHypothesis =>
      simp only [List.forall_mem_cons] at numeral
      simp [numeral.1, inductionHypothesis numeral.2]

theorem numberText_injective {first second : Number} {firstRest secondRest : List Char}
    (firstEnds : EndsNumber firstRest) (secondEnds : EndsNumber secondRest)
    (sameText : first.text ++ firstRest = second.text ++ secondRest) :
    first = second ∧ firstRest = secondRest := by
  have sameNumeral := congrArg (List.takeWhile Lexer.isNumeralChar) sameText
  rw [takeWhile_numeral (fun _ => Number.isNumeralChar_of_mem_text) firstEnds,
    takeWhile_numeral (fun _ => Number.isNumeralChar_of_mem_text) secondEnds] at sameNumeral
  rw [sameNumeral] at sameText
  exact ⟨Number.text_injective sameNumeral, List.append_cancel_left sameText⟩

namespace Value

/-! ## Kinds -/

/-- The kind of a value whose text starts with the given character. -/
def kindOpenedBy? (char : Char) : Option Kind :=
  if char = 'n' then some .null
  else if char = 't' ∨ char = 'f' then some .boolean
  else if char = '"' then some .string
  else if char = '[' then some .array
  else if char = '\x7b' then some .object
  else if Lexer.isNumeralChar char then some .number
  else none

theorem kindOpenedBy?_of_isNumeralChar {char : Char}
    (numeral : Lexer.isNumeralChar char = true) : kindOpenedBy? char = some .number := by
  unfold kindOpenedBy?
  repeat' split
  all_goals first
    | rfl
    | (rename_i other; rcases other with rfl | rfl <;> simp [Lexer.isNumeralChar] at numeral)

/-- The text of a value starts with a character that tells its kind. -/
theorem exists_opening (value : Value) :
    ∃ char rest, value.compactChars = char :: rest ∧ kindOpenedBy? char = some value.kind := by
  cases value with
  | null => exact ⟨_, _, rfl, rfl⟩
  | bool truth => cases truth <;> exact ⟨_, _, rfl, rfl⟩
  | number numeral =>
      cases text : numeral.text with
      | nil => exact absurd text (Number.text_ne_nil numeral)
      | cons char rest =>
          refine ⟨char, rest, by simp [compactChars, tokens, Token.text, text], ?_⟩
          apply kindOpenedBy?_of_isNumeralChar
          have member : char ∈ numeral.text := text ▸ List.mem_cons_self
          exact Number.isNumeralChar_of_mem_text member
  | string text => exact ⟨_, _, rfl, rfl⟩
  | array items => exact ⟨_, _, rfl, rfl⟩
  | object entries => exact ⟨_, _, rfl, rfl⟩

theorem kind_eq_of_compactChars {first second : Value} {firstRest secondRest : List Char}
    (sameText : first.compactChars ++ firstRest = second.compactChars ++ secondRest) :
    first.kind = second.kind := by
  obtain ⟨firstChar, _, firstShape, firstKind⟩ := first.exists_opening
  obtain ⟨secondChar, _, secondShape, secondKind⟩ := second.exists_opening
  rw [firstShape, secondShape, List.cons_append, List.cons_append] at sameText
  obtain ⟨rfl, _⟩ := List.cons.inj sameText
  exact Option.some.inj (firstKind.symm.trans secondKind)

theorem compactChars_ne_of_closing {char : Char} (closing : kindOpenedBy? char = none)
    (value : Value) (first second : List Char) : char :: first ≠ value.compactChars ++ second := by
  intro sameText
  obtain ⟨opening, _, shape, kinds⟩ := value.exists_opening
  rw [shape, List.cons_append] at sameText
  obtain ⟨rfl, _⟩ := List.cons.inj sameText
  rw [closing] at kinds
  exact absurd kinds (by simp)

/-! ## Items and entries -/

/-- The text of items that follow another one, each after a comma. -/
def itemTail (items : List Value) : List Char :=
  items.flatMap fun item => ',' :: item.compactChars

/-- The text of entries that follow another one, each after a comma. -/
def entryTail (entries : List (String × Value)) : List Char :=
  entries.flatMap fun entry => ',' :: (quotedText entry.1 ++ ':' :: entry.2.compactChars)

theorem itemTail_cons (first : Value) (rest : List Value) :
    itemTail (first :: rest) = ',' :: (itemTokens (first :: rest)).flatMap Token.text := by
  induction rest generalizing first with
  | nil => simp [itemTail, itemTokens, compactChars]
  | cons next rest inductionHypothesis =>
      have tail := inductionHypothesis next
      simp only [itemTail, List.flatMap_cons] at tail ⊢
      rw [tail]
      simp [itemTokens, compactChars, Token.text]

theorem entryTail_cons (first : String × Value) (rest : List (String × Value)) :
    entryTail (first :: rest) = ',' :: (entryTokens (first :: rest)).flatMap Token.text := by
  induction rest generalizing first with
  | nil => simp [entryTail, entryTokens, compactChars, Token.text]
  | cons next rest inductionHypothesis =>
      have tail := inductionHypothesis next
      simp only [entryTail, List.flatMap_cons] at tail ⊢
      rw [tail]
      simp [entryTokens, compactChars, Token.text]

theorem compactChars_array (items : List Value) (rest : List Char) :
    (array items).compactChars ++ rest =
      '[' :: ((itemTokens items).flatMap Token.text ++ ']' :: rest) := by
  simp [compactChars, tokens, Token.text]

theorem compactChars_object (entries : List (String × Value)) (rest : List Char) :
    (object entries).compactChars ++ rest =
      '\x7b' :: ((entryTokens entries).flatMap Token.text ++ '\x7d' :: rest) := by
  simp [compactChars, tokens, Token.text]

theorem itemTail_of_itemTokens {first second : List Value} {firstRest secondRest : List Char}
    (sameText : (itemTokens first).flatMap Token.text ++ ']' :: firstRest =
      (itemTokens second).flatMap Token.text ++ ']' :: secondRest) :
    itemTail first ++ ']' :: firstRest = itemTail second ++ ']' :: secondRest := by
  have opened : ∀ (item : Value) (rest : List Value) (later : List Char),
      ∃ following, (itemTokens (item :: rest)).flatMap Token.text ++ later =
        item.compactChars ++ following := by
    intro item rest later
    cases rest with
    | nil => exact ⟨later, rfl⟩
    | cons next rest => exact ⟨_, by simp [itemTokens, compactChars]; rfl⟩
  have closing : kindOpenedBy? ']' = none := by decide
  cases first with
  | nil =>
      cases second with
      | nil => exact sameText
      | cons item rest =>
          obtain ⟨following, shape⟩ := opened item rest (']' :: secondRest)
          rw [shape] at sameText
          exact absurd sameText (compactChars_ne_of_closing closing item _ _)
  | cons item rest =>
      cases second with
      | nil =>
          obtain ⟨following, shape⟩ := opened item rest (']' :: firstRest)
          rw [shape] at sameText
          exact absurd sameText.symm (compactChars_ne_of_closing closing item _ _)
      | cons other otherRest =>
          rw [itemTail_cons, itemTail_cons, List.cons_append, List.cons_append, sameText]

theorem entryTail_of_entryTokens {first second : List (String × Value)}
    {firstRest secondRest : List Char}
    (sameText : (entryTokens first).flatMap Token.text ++ '\x7d' :: firstRest =
      (entryTokens second).flatMap Token.text ++ '\x7d' :: secondRest) :
    entryTail first ++ '\x7d' :: firstRest = entryTail second ++ '\x7d' :: secondRest := by
  have opened : ∀ (entry : String × Value) (rest : List (String × Value)) (later : List Char),
      ∃ following, (entryTokens (entry :: rest)).flatMap Token.text ++ later =
        '"' :: following := by
    intro entry rest later
    cases rest <;> exact ⟨_, rfl⟩
  cases first with
  | nil =>
      cases second with
      | nil => exact sameText
      | cons entry rest =>
          obtain ⟨following, shape⟩ := opened entry rest ('\x7d' :: secondRest)
          rw [shape] at sameText
          simp [entryTokens] at sameText
  | cons entry rest =>
      cases second with
      | nil =>
          obtain ⟨following, shape⟩ := opened entry rest ('\x7d' :: firstRest)
          rw [shape] at sameText
          simp [entryTokens] at sameText
      | cons other otherRest =>
          rw [entryTail_cons, entryTail_cons, List.cons_append, List.cons_append, sameText]

theorem endsNumber_itemTail (items : List Value) (rest : List Char) :
    EndsNumber (itemTail items ++ ']' :: rest) := by
  cases items <;> exact endsNumber_cons (by decide) _

theorem endsNumber_entryTail (entries : List (String × Value)) (rest : List Char) :
    EndsNumber (entryTail entries ++ '\x7d' :: rest) := by
  cases entries <;> exact endsNumber_cons (by decide) _

/-! ## Values -/

mutual

/-- A value and what follows it can be read off the text of both. -/
theorem compactChars_append_injective (first second : Value) {firstRest secondRest : List Char}
    (firstEnds : EndsNumber firstRest) (secondEnds : EndsNumber secondRest)
    (sameText : first.compactChars ++ firstRest = second.compactChars ++ secondRest) :
    first = second ∧ firstRest = secondRest := by
  have sameKind := kind_eq_of_compactChars sameText
  match first with
  | .null =>
      cases second <;> simp only [kind, reduceCtorEq] at sameKind
      exact ⟨rfl, List.append_cancel_left sameText⟩
  | .bool truth =>
      cases second <;> simp only [kind, reduceCtorEq] at sameKind
      rename_i other
      cases truth <;> cases other <;> simp_all [compactChars, tokens, Token.text]
  | .number numeral =>
      cases second <;> simp only [kind, reduceCtorEq] at sameKind
      rename_i other
      simp only [compactChars, tokens, Token.text, List.flatMap_cons, List.flatMap_nil,
        Option.map_some, Option.getD_some, List.append_nil] at sameText
      obtain ⟨rfl, sameRest⟩ := numberText_injective firstEnds secondEnds sameText
      exact ⟨rfl, sameRest⟩
  | .string text =>
      cases second <;> simp only [kind, reduceCtorEq] at sameKind
      rename_i other
      simp only [compactChars, tokens, Token.text, List.flatMap_cons, List.flatMap_nil,
        Option.map_some, Option.getD_some, List.append_nil] at sameText
      obtain ⟨rfl, sameRest⟩ := quotedText_injective sameText
      exact ⟨rfl, sameRest⟩
  | .array items =>
      cases second <;> simp only [kind, reduceCtorEq] at sameKind
      rename_i others
      rw [compactChars_array, compactChars_array, List.cons.injEq] at sameText
      obtain ⟨rfl, sameRest⟩ := itemTail_injective items others
        (itemTail_of_itemTokens sameText.2)
      exact ⟨rfl, sameRest⟩
  | .object entries =>
      cases second <;> simp only [kind, reduceCtorEq] at sameKind
      rename_i others
      rw [compactChars_object, compactChars_object, List.cons.injEq] at sameText
      obtain ⟨rfl, sameRest⟩ := entryTail_injective entries others
        (entryTail_of_entryTokens sameText.2)
      exact ⟨rfl, sameRest⟩

theorem itemTail_injective (first second : List Value) {firstRest secondRest : List Char}
    (sameText : itemTail first ++ ']' :: firstRest = itemTail second ++ ']' :: secondRest) :
    first = second ∧ firstRest = secondRest := by
  match first, second with
  | [], [] => simpa [itemTail] using sameText
  | [], _ :: _ => simp [itemTail] at sameText
  | _ :: _, [] => simp [itemTail] at sameText
  | item :: rest, other :: otherRest =>
      simp only [itemTail, List.flatMap_cons, List.cons_append, List.append_assoc,
        List.cons.injEq, true_and] at sameText
      obtain ⟨rfl, sameTail⟩ := compactChars_append_injective item other
        (endsNumber_itemTail rest firstRest) (endsNumber_itemTail otherRest secondRest) sameText
      obtain ⟨rfl, sameRest⟩ := itemTail_injective rest otherRest sameTail
      exact ⟨rfl, sameRest⟩

theorem entryTail_injective (first second : List (String × Value))
    {firstRest secondRest : List Char}
    (sameText : entryTail first ++ '\x7d' :: firstRest =
      entryTail second ++ '\x7d' :: secondRest) :
    first = second ∧ firstRest = secondRest := by
  match first, second with
  | [], [] => simpa [entryTail] using sameText
  | [], _ :: _ => simp [entryTail] at sameText
  | _ :: _, [] => simp [entryTail] at sameText
  | (key, value) :: rest, (otherKey, other) :: otherRest =>
      simp only [entryTail, List.flatMap_cons, List.cons_append, List.append_assoc,
        List.cons.injEq, true_and] at sameText
      obtain ⟨rfl, sameEntry⟩ := quotedText_injective sameText
      obtain ⟨rfl, sameTail⟩ := compactChars_append_injective value other
        (endsNumber_entryTail rest firstRest) (endsNumber_entryTail otherRest secondRest)
        (List.cons.inj sameEntry).2
      obtain ⟨rfl, sameRest⟩ := entryTail_injective rest otherRest sameTail
      exact ⟨rfl, sameRest⟩

end

theorem compact_injective {first second : Value} (sameText : first.compact = second.compact) :
    first = second := by
  have sameChars : first.compactChars ++ [] = second.compactChars ++ [] := by
    rw [List.append_nil, List.append_nil]
    exact String.ofList_injective sameText
  exact (compactChars_append_injective first second endsNumber_nil endsNumber_nil sameChars).1

/-! ## Distinct values -/

theorem mem_uniqueFrom_iff (values : List Value) (seen : List Value) (value : Value) :
    value ∈ uniqueFrom (seen.map compact) values ↔ value ∈ values ∧ value ∉ seen := by
  induction values generalizing seen with
  | nil => simp [uniqueFrom]
  | cons first rest inductionHypothesis =>
      have repeats : first.compact ∈ seen.map compact ↔ first ∈ seen := by
        constructor
        · intro member
          obtain ⟨earlier, earlierMember, sameText⟩ := List.mem_map.mp member
          rwa [← compact_injective sameText]
        · exact List.mem_map_of_mem
      simp only [uniqueFrom, repeats, List.mem_cons]
      by_cases known : first ∈ seen
      · rw [if_pos known, inductionHypothesis]
        constructor
        · exact fun found => ⟨Or.inr found.1, found.2⟩
        · intro found
          rcases found with ⟨rfl | inRest, unseen⟩
          · exact absurd known unseen
          · exact ⟨inRest, unseen⟩
      · have extended := inductionHypothesis (first :: seen)
        rw [List.map_cons] at extended
        rw [if_neg known, List.mem_cons, extended, List.mem_cons, not_or]
        constructor
        · intro found
          rcases found with rfl | ⟨inRest, _, unseen⟩
          · exact ⟨Or.inl rfl, known⟩
          · exact ⟨Or.inr inRest, unseen⟩
        · intro found
          by_cases isFirst : value = first
          · exact Or.inl isFirst
          · exact Or.inr ⟨found.1.resolve_left isFirst, isFirst, found.2⟩

/-- Only repeats are left out. -/
theorem mem_unique_iff (values : List Value) (value : Value) :
    value ∈ unique values ↔ value ∈ values := by
  simpa [unique] using mem_uniqueFrom_iff values [] value

end Value

end RecordGraph
