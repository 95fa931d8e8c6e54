import ContentVault.Text.Blank
import ContentVault.Text.Pieces

/-!
# Names of tags between commas

* each piece between commas is trimmed, and blank pieces are dropped;
* a name counts where it is mentioned first.
-/

namespace ContentVault

/-- Keep the first mention of each item, given the items kept so far. -/
def firstMentions {α : Type} [DecidableEq α] : List α → List α → List α
  | kept, [] => kept
  | kept, item :: rest => firstMentions (if item ∈ kept then kept else kept ++ [item]) rest

/-- The names that a text lists between commas. -/
def parseTags (text : String) : List String :=
  let trimmed := (pieces ',' text.toList).map trimChars
  let named := trimmed.filter fun name => !name.isEmpty
  firstMentions [] (named.map String.ofList)

end ContentVault
