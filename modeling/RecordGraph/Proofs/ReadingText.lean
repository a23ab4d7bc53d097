import RecordGraph.Json.Tree
import RecordGraph.Proofs.CompactText

/-!
# Compact text reads back

The tokens of a value read as the tree of the value, whatever containers are open around it.  Its
compact text splits into these tokens: a mark or a string ends by itself, and a word or a numeral
ends at the mark behind it.  Only numerals are left to the reader of numbers, so a value whose
numerals read back is read back whole.
-/

namespace RecordGraph

/-! ## Tokens as a tree -/

namespace Tree

theorem ofValues_eq_map (items : List Value) : ofValues items = items.map ofValue := by
  induction items with
  | nil => rfl
  | cons item rest inductionHypothesis => rw [ofValues, inductionHypothesis, List.map_cons]

theorem ofEntries_eq_map (entries : List (String × Value)) :
    ofEntries entries = entries.map fun entry => (some entry.1, ofValue entry.2) := by
  induction entries with
  | nil => rfl
  | cons entry rest inductionHypothesis => rw [ofEntries, inductionHypothesis, List.map_cons]

end Tree

namespace Value

/-- The tokens of a value do not begin with the mark that ends an array. -/
theorem exists_tokens_cons (value : Value) :
    ∃ token rest, value.tokens = token :: rest ∧ token ≠ .closeArray := by
  cases value <;> exact ⟨_, _, rfl, Token.noConfusion⟩

theorem exists_itemTokens_cons (item : Value) (rest : List Value) :
    ∃ token following, itemTokens (item :: rest) = token :: following ∧ token ≠ .closeArray := by
  obtain ⟨token, following, shape, notClosing⟩ := item.exists_tokens_cons
  cases rest with
  | nil => exact ⟨token, following, shape, notClosing⟩
  | cons next rest =>
      refine ⟨token, following ++ .comma :: itemTokens (next :: rest), ?_, notClosing⟩
      rw [itemTokens, shape, List.cons_append]

end Value

namespace Reader

theorem step?_firstItem {token : Token} (notClosing : token ≠ .closeArray) (stack : List Frame) :
    step? (.firstItem stack) token = step? (.value (.array [] :: stack)) token := by
  cases token <;> first | rfl | exact absurd rfl notClosing

mutual

/-- The tokens of a value are read as its tree. -/
theorem foldlM_tokens (value : Value) (stack : List Frame) :
    value.tokens.foldlM step? (.value stack) = some (.after (Tree.ofValue value) stack) := by
  match value with
  | .null => rfl
  | .bool truth => rfl
  | .number number => rfl
  | .string text => rfl
  | .array [] => rfl
  | .array (item :: rest) =>
      obtain ⟨token, following, shape, notClosing⟩ := Value.exists_itemTokens_cons item rest
      have read := foldlM_itemTokens (item :: rest) (List.cons_ne_nil item rest) [] stack
      rw [shape, List.cons_append, List.foldlM_cons, ← step?_firstItem notClosing] at read
      rw [Value.tokens, shape, List.foldlM_cons]
      exact read
  | .object [] => rfl
  | .object (entry :: rest) =>
      have read := foldlM_entryTokens (entry :: rest) (List.cons_ne_nil entry rest) [] stack
      cases rest <;> exact read

theorem foldlM_itemTokens (items : List Value) (nonempty : items ≠ []) (reversed : List Tree)
    (stack : List Frame) :
    (Value.itemTokens items ++ [Token.closeArray]).foldlM step?
        (.value (.array reversed :: stack)) =
      some (.after (.array (reversed.reverse ++ Tree.ofValues items)) stack) := by
  match items with
  | [] => exact absurd rfl nonempty
  | [item] =>
      rw [Value.itemTokens, List.foldlM_append, foldlM_tokens item]
      simp [step?, stepAfter?, Tree.ofValues]
  | item :: next :: rest =>
      have read := foldlM_itemTokens (next :: rest) (List.cons_ne_nil next rest)
        (Tree.ofValue item :: reversed) stack
      rw [List.reverse_cons, List.append_assoc] at read
      rw [Value.itemTokens, List.append_assoc, List.foldlM_append, foldlM_tokens item]
      exact read

theorem foldlM_entryTokens (entries : List (String × Value)) (nonempty : entries ≠ [])
    (reversed : List (Option String × Tree)) (stack : List Frame) :
    (Value.entryTokens entries ++ [Token.closeObject]).foldlM step? (.nextKey reversed stack) =
      some (.after (.object (reversed.reverse ++ Tree.ofEntries entries)) stack) := by
  match entries with
  | [] => exact absurd rfl nonempty
  | [(key, held)] =>
      have read := foldlM_tokens held (.object reversed (some key) :: stack)
      show (held.tokens ++ [Token.closeObject]).foldlM step? _ = _
      rw [List.foldlM_append, read]
      simp [step?, stepAfter?, Tree.ofEntries]
  | (key, held) :: next :: rest =>
      have read := foldlM_tokens held (.object reversed (some key) :: stack)
      have readRest := foldlM_entryTokens (next :: rest) (List.cons_ne_nil next rest)
        ((some key, Tree.ofValue held) :: reversed) stack
      rw [List.reverse_cons, List.append_assoc] at readRest
      show ((held.tokens ++ .comma :: Value.entryTokens (next :: rest)) ++
        [Token.closeObject]).foldlM step? _ = _
      rw [List.append_assoc, List.foldlM_append, read]
      exact readRest

end

end Reader

/-- The tokens of a value are its tree. -/
theorem Tree.ofTokens?_tokens (value : Value) : ofTokens? value.tokens = some (ofValue value) := by
  rw [ofTokens?, Reader.start, Reader.foldlM_tokens]
  rfl

/-! ## Text as tokens -/

namespace Lexer

/-- A text begins with a character that no word or numeral goes on with. -/
def EndsLexeme (text : List Char) : Prop :=
  ∀ char, text.head? = some char → isNumeralChar char = false ∧ char.isLower = false

/-- Behind any tokens, a text is read as the given ones; the last of them may still be open. -/
def Reads (text : List Char) (tokens : List Token) : Prop :=
  ∀ earlier, ∃ lexer, text.foldlM step? ⟨earlier, .between⟩ = some lexer ∧
    lexer.close? = some ⟨tokens.reverse ++ earlier, .between⟩

/-- A character that ends lexemes is read as if the open one had been closed. -/
theorem step?_of_ends {lexer settled : Lexer} (closes : lexer.close? = some settled) {char : Char}
    (ends : isNumeralChar char = false ∧ char.isLower = false) :
    lexer.step? char = settled.begin? char := by
  rcases lexer with ⟨earlier, mode⟩
  cases mode with
  | between =>
      obtain rfl := Option.some.inj closes
      rfl
  | numeral reversed => simp [step?, ends.1, closes]
  | word reversed => simp [step?, ends.2, closes]
  | _ => cases closes

theorem Reads.append {first second : List Char} {tokens others : List Token}
    (readsFirst : Reads first tokens) (ends : EndsLexeme second)
    (readsSecond : Reads second others) : Reads (first ++ second) (tokens ++ others) := by
  intro earlier
  obtain ⟨lexer, read, closes⟩ := readsFirst earlier
  obtain ⟨last, readAll, closesAll⟩ := readsSecond (tokens.reverse ++ earlier)
  rw [List.reverse_append, List.append_assoc, List.foldlM_append, read]
  cases second with
  | nil =>
      obtain rfl := Option.some.inj readAll
      exact ⟨lexer, rfl, closes.trans closesAll⟩
  | cons char rest =>
      -- The next character closes what the first text left open.
      refine ⟨last, ?_, closesAll⟩
      rw [List.foldlM_cons] at readAll
      show (char :: rest).foldlM step? lexer = some last
      rw [List.foldlM_cons, step?_of_ends closes (ends char rfl)]
      exact readAll

/-- Behind a text that is read as a whole token anything may follow. -/
theorem Reads.cons {first : List Char} {token : Token}
    (whole : ∀ earlier, first.foldlM step? ⟨earlier, .between⟩ = some ⟨token :: earlier, .between⟩)
    {text : List Char} {tokens : List Token} (reads : Reads text tokens) :
    Reads (first ++ text) (token :: tokens) := by
  intro earlier
  obtain ⟨lexer, read, closes⟩ := reads (token :: earlier)
  rw [List.foldlM_append, whole, List.reverse_cons, List.append_assoc]
  exact ⟨lexer, read, closes⟩

theorem reads_nil : Reads [] [] := fun _ => ⟨_, rfl, rfl⟩

/-! ### Strings -/

/-- A control character is read from the four digits of its code. -/
theorem foldlM_codeUnit (earlier : List Token) (reversed : List Char) {char : Char}
    (control : char.toNat < 32) :
    ['\\', 'u', '0', '0', hexDigit (char.toNat / 16), hexDigit (char.toNat % 16)].foldlM step?
        ⟨earlier, .text ⟨reversed, none, true⟩⟩ =
      some ⟨earlier, .text ⟨char :: reversed, none, true⟩⟩ := by
  have high : hexValue? (hexDigit (char.toNat / 16)) = some (char.toNat / 16) :=
    hexValue?_hexDigit (by omega)
  have low : hexValue? (hexDigit (char.toNat % 16)) = some (char.toNat % 16) :=
    hexValue?_hexDigit (by omega)
  have zeros : ['\\', 'u', '0', '0'].foldlM step?
      (⟨earlier, .text ⟨reversed, none, true⟩⟩ : Lexer) =
        some ⟨earlier, .codeUnit ⟨reversed, none, true⟩ 2 0⟩ := rfl
  show (['\\', 'u', '0', '0'] ++
    [hexDigit (char.toNat / 16), hexDigit (char.toNat % 16)]).foldlM step? _ = _
  rw [List.foldlM_append, zeros]
  have pushed : StringDraft.pushUnit ⟨reversed, none, true⟩ char.toNat =
      ⟨char :: reversed, none, true⟩ := by
    rw [StringDraft.pushUnit, if_neg (by omega), if_neg (by omega), Char.ofNat_toNat]
    rfl
  simpa [step?, stepCodeUnit?, high, low, Nat.div_add_mod] using pushed

theorem foldlM_escapedChar (earlier : List Token) (reversed : List Char) (char : Char) :
    (escapedChar char).foldlM step? ⟨earlier, .text ⟨reversed, none, true⟩⟩ =
      some ⟨earlier, .text ⟨char :: reversed, none, true⟩⟩ := by
  unfold escapedChar
  split_ifs with quote backslash backspace tab newline feed carriage control
  all_goals first
    | (subst_vars; rfl)
    | exact foldlM_codeUnit earlier reversed control
    | simp [step?, stepText?, quote, backslash, control, StringDraft.push]

theorem foldlM_escaped (earlier : List Token) (reversed text : List Char) :
    (text.flatMap escapedChar).foldlM step? ⟨earlier, .text ⟨reversed, none, true⟩⟩ =
      some ⟨earlier, .text ⟨text.reverse ++ reversed, none, true⟩⟩ := by
  induction text generalizing reversed with
  | nil => rfl
  | cons char rest inductionHypothesis =>
      rw [List.flatMap_cons, List.foldlM_append, foldlM_escapedChar, List.reverse_cons,
        List.append_assoc]
      exact inductionHypothesis (char :: reversed)

theorem foldlM_quotedText (earlier : List Token) (text : String) :
    (quotedText text).foldlM step? ⟨earlier, .between⟩ =
      some ⟨.string (some text) :: earlier, .between⟩ := by
  have opened : step? ⟨earlier, .between⟩ '"' = some ⟨earlier, .text .empty⟩ := rfl
  rw [quotedText, List.foldlM_cons, opened]
  show (text.toList.flatMap escapedChar ++ ['"']).foldlM step? ⟨earlier, .text .empty⟩ = _
  rw [List.foldlM_append, StringDraft.empty, foldlM_escaped]
  simp [step?, stepText?, emit, StringDraft.finish]

/-! ### Values -/

/-- A text goes on with a mark that ends lexemes. -/
theorem Reads.mark {text : List Char} {tokens : List Token} (readsText : Reads text tokens)
    {char : Char} {token : Token} (ends : isNumeralChar char = false ∧ char.isLower = false)
    (whole : ∀ earlier, step? ⟨earlier, .between⟩ char = some ⟨token :: earlier, .between⟩)
    {rest : List Char} {others : List Token} (readsRest : Reads rest others) :
    Reads (text ++ char :: rest) (tokens ++ token :: others) := by
  have single : ∀ earlier, [char].foldlM step? ⟨earlier, .between⟩ =
      some ⟨token :: earlier, .between⟩ := by
    intro earlier
    rw [List.foldlM_cons, whole]
    rfl
  apply readsText.append _ (Reads.cons single readsRest)
  intro head isHead
  obtain rfl := Option.some.inj isHead
  exact ends

/-- The numerals among tokens are read as the numbers that they write. -/
def NumeralsRead (tokens : List Token) : Prop :=
  ∀ number, .number (some number) ∈ tokens → Reads number.text [.number (some number)]

theorem NumeralsRead.subset {tokens others : List Token} (numerals : NumeralsRead tokens)
    (subset : others ⊆ tokens) : NumeralsRead others :=
  fun number member => numerals number (subset member)

mutual

theorem reads_compactChars (value : Value) (numerals : NumeralsRead value.tokens) :
    Reads value.compactChars value.tokens := by
  match value with
  | .null => exact fun _ => ⟨_, rfl, rfl⟩
  | .bool true => exact fun _ => ⟨_, rfl, rfl⟩
  | .bool false => exact fun _ => ⟨_, rfl, rfl⟩
  | .number number =>
      have read := numerals number (List.mem_singleton_self _)
      rwa [← List.append_nil number.text] at read
  | .string text => exact Reads.cons (foldlM_quotedText · text) reads_nil
  | .array items =>
      have shape : (Value.array items).compactChars =
          ['['] ++ ((Value.itemTokens items).flatMap Token.text ++ [']']) := by
        simpa using Value.compactChars_array items []
      have readItems := reads_itemTokens items (numerals.subset fun token member =>
        List.mem_cons_of_mem _ (List.mem_append_left _ member))
      rw [shape, Value.tokens]
      exact Reads.cons (fun _ => rfl) (readItems.mark (by decide) (fun _ => rfl) reads_nil)
  | .object entries =>
      have shape : (Value.object entries).compactChars =
          ['\x7b'] ++ ((Value.entryTokens entries).flatMap Token.text ++ ['\x7d']) := by
        simpa using Value.compactChars_object entries []
      have readEntries := reads_entryTokens entries (numerals.subset fun token member =>
        List.mem_cons_of_mem _ (List.mem_append_left _ member))
      rw [shape, Value.tokens]
      exact Reads.cons (fun _ => rfl) (readEntries.mark (by decide) (fun _ => rfl) reads_nil)

theorem reads_itemTokens (items : List Value) (numerals : NumeralsRead (Value.itemTokens items)) :
    Reads ((Value.itemTokens items).flatMap Token.text) (Value.itemTokens items) := by
  match items with
  | [] => exact reads_nil
  | [item] => exact reads_compactChars item numerals
  | item :: next :: rest =>
      have readItem := reads_compactChars item (numerals.subset fun token member =>
        List.mem_append_left _ member)
      have readRest := reads_itemTokens (next :: rest) (numerals.subset fun token member =>
        List.mem_append_right _ (List.mem_cons_of_mem _ member))
      rw [Value.itemTokens, List.flatMap_append, List.flatMap_cons]
      exact readItem.mark (by decide) (fun _ => rfl) readRest

theorem reads_entryTokens (entries : List (String × Value))
    (numerals : NumeralsRead (Value.entryTokens entries)) :
    Reads ((Value.entryTokens entries).flatMap Token.text) (Value.entryTokens entries) := by
  match entries with
  | [] => exact reads_nil
  | [(key, value)] =>
      have readValue := reads_compactChars value (numerals.subset fun token member =>
        List.mem_cons_of_mem _ (List.mem_cons_of_mem _ member))
      rw [Value.entryTokens, List.flatMap_cons, List.flatMap_cons]
      exact Reads.cons (foldlM_quotedText · key) (Reads.cons (fun _ => rfl) readValue)
  | (key, value) :: next :: rest =>
      have readValue := reads_compactChars value (numerals.subset fun token member =>
        List.mem_cons_of_mem _ (List.mem_cons_of_mem _ (List.mem_append_left _ member)))
      have readRest := reads_entryTokens (next :: rest) (numerals.subset fun token member =>
        List.mem_cons_of_mem _ (List.mem_cons_of_mem _
          (List.mem_append_right _ (List.mem_cons_of_mem _ member))))
      rw [Value.entryTokens, List.flatMap_cons, List.flatMap_cons, List.flatMap_append,
        List.flatMap_cons]
      exact Reads.cons (foldlM_quotedText · key) (Reads.cons (fun _ => rfl)
        (readValue.mark (by decide) (fun _ => rfl) readRest))

end

theorem tokens?_of_reads {text : List Char} {tokens : List Token} (reads : Reads text tokens) :
    tokens? text = some tokens := by
  obtain ⟨lexer, read, closes⟩ := reads []
  rw [tokens?, start, read]
  show lexer.finish? = some tokens
  rw [finish?, closes]
  simp

end Lexer

/-- The compact text of a value whose numerals read back is read as the tree of the value. -/
theorem Tree.parse?_compact {value : Value} (numerals : Lexer.NumeralsRead value.tokens) :
    parse? value.compact = some (ofValue value) := by
  rw [parse?, Value.compact, String.toList_ofList,
    Lexer.tokens?_of_reads (Lexer.reads_compactChars value numerals)]
  exact ofTokens?_tokens value

end RecordGraph
