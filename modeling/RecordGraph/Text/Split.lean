/-!
# Splitting text

Cutting a text at every character of a class leaves one piece more than there
are such characters; pieces may be empty.
-/

namespace RecordGraph

/-- The pieces of a text between the characters that separate them. -/
def splitWhere (separates : Char → Bool) : List Char → List (List Char)
  | [] => [[]]
  | char :: rest =>
      if separates char then [] :: splitWhere separates rest
      else
        match splitWhere separates rest with
        | [] => [[char]]
        | piece :: pieces => (char :: piece) :: pieces

theorem splitWhere_ne_nil (separates : Char → Bool) (text : List Char) :
    splitWhere separates text ≠ [] := by
  cases text with
  | nil => simp [splitWhere]
  | cons char rest =>
      unfold splitWhere
      split
      · simp
      · split <;> simp

/-- A text in which nothing separates is one piece. -/
theorem splitWhere_of_keeps {separates : Char → Bool} {text : List Char}
    (keeps : ∀ char ∈ text, separates char = false) : splitWhere separates text = [text] := by
  induction text with
  | nil => rfl
  | cons first rest inductionHypothesis =>
      obtain ⟨firstKeeps, restKeeps⟩ := List.forall_mem_cons.mp keeps
      simp [splitWhere, firstKeeps, inductionHypothesis restKeeps]

/-- The first piece ends at the first character that separates. -/
theorem splitWhere_append_cons {separates : Char → Bool} {piece : List Char}
    (keeps : ∀ char ∈ piece, separates char = false) {mark : Char}
    (isMark : separates mark = true) (rest : List Char) :
    splitWhere separates (piece ++ mark :: rest) = piece :: splitWhere separates rest := by
  induction piece with
  | nil => simp [splitWhere, isMark]
  | cons first piece inductionHypothesis =>
      obtain ⟨firstKeeps, restKeeps⟩ := List.forall_mem_cons.mp keeps
      simp [splitWhere, firstKeeps, inductionHypothesis restKeeps]

end RecordGraph
