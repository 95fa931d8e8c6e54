import ContentVault.Proofs.Text.LetterCase
import ContentVault.Vault.Listing

/-!
# Orders that texts choose

How a caller says by which column and in which direction a listing is ordered.

* `name`, `size` and `type` choose their columns; every other text, and none, chooses the
  time of the last update;
* `asc` chooses the ascending direction; every other text, and none, the descending one;
* blanks around a word do not matter, nor does the case of its letters.
-/

namespace ContentVault

/-- The column that a text chooses. -/
def SortKey.IsChosenBy (text : Option String) : SortKey → Prop
  | .name => ∃ given ∈ text, Spells given "name"
  | .size => ∃ given ∈ text, Spells given "size"
  | .fileType => ∃ given ∈ text, Spells given "type"
  | .date =>
      ∀ given ∈ text, ¬ Spells given "name" ∧ ¬ Spells given "size" ∧ ¬ Spells given "type"

/-- The direction that a text chooses. -/
def SortDirection.IsChosenBy (text : Option String) : SortDirection → Prop
  | .ascending => ∃ given ∈ text, Spells given "asc"
  | .descending => ∀ given ∈ text, ¬ Spells given "asc"

/-- What is left of a text after trimming tells which of the words it spells. -/
theorem spells_iff {given word : String} (isWord : word ∈ ["name", "size", "type", "asc"]) :
    Spells given word ↔ asciiLowercase (trim given) = word := by
  have plain : ∀ word ∈ ["name", "size", "type", "asc"],
      IsTidy word ∧ asciiLowercase word = word := by
    decide +kernel
  exact (asciiLowercase_trim_eq_iff (plain word isWord).1 (plain word isWord).2).symm

theorem sortKeyOf_eq_iff {text : Option String} {key : SortKey} :
    Vault.sortKeyOf text = key ↔ key.IsChosenBy text := by
  cases text with
  | none => cases key <;> simp [Vault.sortKeyOf, SortKey.IsChosenBy]
  | some given =>
      have name : Spells given "name" ↔ _ := spells_iff (by simp)
      have size : Spells given "size" ↔ _ := spells_iff (by simp)
      have fileType : Spells given "type" ↔ _ := spells_iff (by simp)
      simp only [Vault.sortKeyOf, Option.map_some]
      generalize asciiLowercase (trim given) = word at name size fileType ⊢
      split <;> cases key <;> simp_all [SortKey.IsChosenBy]

theorem directionOf_eq_iff {text : Option String} {direction : SortDirection} :
    Vault.directionOf text = direction ↔ direction.IsChosenBy text := by
  cases text with
  | none => cases direction <;> simp [Vault.directionOf, SortDirection.IsChosenBy]
  | some given =>
      have ascending : Spells given "asc" ↔ _ := spells_iff (by simp)
      simp only [Vault.directionOf, Option.map_some]
      generalize asciiLowercase (trim given) = word at ascending ⊢
      split <;> cases direction <;> simp_all [SortDirection.IsChosenBy]

example :
    Vault.sortKeyOf (some " Size ") = .size ∧ Vault.directionOf (some "ASC") = .ascending := by
  decide +kernel

end ContentVault
