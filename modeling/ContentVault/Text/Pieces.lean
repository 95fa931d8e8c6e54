/-!
# Pieces of a text

Cutting a list at each occurrence of a separator.

* there is always at least one piece, and no piece holds the separator;
* joining the pieces with the separator gives the list back.
-/

namespace ContentVault

/-- Put one item before the pieces of what follows it. -/
def consPiece {α : Type} [DecidableEq α] (separator item : α) :
    List (List α) → List (List α)
  | [] => [[item]]
  | first :: others =>
      if item = separator then [] :: first :: others else (item :: first) :: others

/-- The pieces between the separators, empty ones included. -/
def pieces {α : Type} [DecidableEq α] (separator : α) (items : List α) : List (List α) :=
  items.foldr (consPiece separator) [[]]

/-- Join pieces with a separator between neighbours. -/
def joinPieces {α : Type} (separator : α) : List (List α) → List α
  | [] => []
  | first :: rest => first ++ rest.foldr (fun piece joined => separator :: (piece ++ joined)) []

variable {α : Type} [DecidableEq α]

theorem consPiece_ne_nil (separator item : α) (cut : List (List α)) :
    consPiece separator item cut ≠ [] := by
  cases cut with
  | nil =>
      simp [consPiece]
  | cons first others =>
      rw [consPiece]
      split <;> simp

theorem pieces_ne_nil (separator : α) (items : List α) :
    pieces separator items ≠ [] := by
  cases items with
  | nil =>
      simp [pieces]
  | cons item rest =>
      exact consPiece_ne_nil separator item _

theorem pieces_cons (separator item : α) (rest : List α) :
    pieces separator (item :: rest) = consPiece separator item (pieces separator rest) :=
  rfl

theorem joinPieces_consPiece (separator item : α) (cut : List (List α))
    (nonempty : cut ≠ []) :
    joinPieces separator (consPiece separator item cut) =
      item :: joinPieces separator cut := by
  cases cut with
  | nil =>
      exact absurd rfl nonempty
  | cons first others =>
      rw [consPiece]
      split
      · rename_i same
        simp [joinPieces, same]
      · simp [joinPieces]

theorem joinPieces_pieces (separator : α) (items : List α) :
    joinPieces separator (pieces separator items) = items := by
  induction items with
  | nil =>
      rfl
  | cons item rest inductionHypothesis =>
      rw [pieces_cons, joinPieces_consPiece _ _ _ (pieces_ne_nil separator rest),
        inductionHypothesis]

theorem separator_not_mem_pieces (separator : α) (items : List α) :
    ∀ piece ∈ pieces separator items, separator ∉ piece := by
  induction items with
  | nil =>
      simp [pieces]
  | cons item rest inductionHypothesis =>
      rw [pieces_cons]
      cases shape : pieces separator rest with
      | nil =>
          exact absurd shape (pieces_ne_nil separator rest)
      | cons first others =>
          rw [shape] at inductionHypothesis
          rw [consPiece]
          split
          · intro piece member
            rcases List.mem_cons.1 member with rfl | inRest
            · simp
            · exact inductionHypothesis piece inRest
          · rename_i different
            intro piece member
            rcases List.mem_cons.1 member with rfl | inOthers
            · have absent := inductionHypothesis first (by simp)
              simp only [List.mem_cons, not_or]
              exact ⟨fun same => different same.symm, absent⟩
            · exact inductionHypothesis piece (by simp [inOthers])

end ContentVault
