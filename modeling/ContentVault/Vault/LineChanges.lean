import ContentVault.Vault.Models
import Std.Data.HashMap

/-!
# Changed lines

How many lines one text has that another has not, counted with repetitions and
regardless of their order.

* a line ends at a line feed, and a carriage return before it belongs to the end;
* each line of one text is matched with one equal line of the other while there
  are any left; lines without a match are counted.
-/

namespace ContentVault

/-- Drop a carriage return, the newest character of a line that is held newest
first. -/
def closeLine : List Char → List Char
  | '\r' :: line => line.reverse
  | line => line.reverse

/-- Cut a text into lines behind the lines found so far, newest first; `line`
holds the characters of the unfinished line, newest first. -/
def linesOnto (done : List (List Char)) (line : List Char) : List Char → List (List Char)
  | [] => (if line = [] then done else line.reverse :: done).reverse
  | '\n' :: rest => linesOnto (closeLine line :: done) [] rest
  | character :: rest => linesOnto done (character :: line) rest

/-- The lines of a text. -/
def linesOf (text : String) : List String :=
  (linesOnto [] [] text.toList).map String.ofList

/-- How often each line occurs. -/
abbrev LineCounts := Std.HashMap String Nat

/-- Count the lines of a list. -/
def countLines : LineCounts → List String → LineCounts
  | counts, [] => counts
  | counts, line :: rest => countLines (counts.insert line (counts.getD line 0 + 1)) rest

/-- How many lines are left when each is matched with an available one. -/
def unmatchedLines : LineCounts → Nat → List String → Nat
  | _, left, [] => left
  | available, left, line :: rest =>
      match available.getD line 0 with
      | 0 => unmatchedLines available (left + 1) rest
      | count + 1 => unmatchedLines (available.insert line count) left rest

/-- How many lines the second list has that the first has not. -/
def surplusLines (first second : List String) : Nat :=
  unmatchedLines (countLines ∅ first) 0 second

/-- The lines that a text gained and lost. -/
def lineChanges (before after : String) : LineChanges where
  added := surplusLines (linesOf before) (linesOf after)
  removed := surplusLines (linesOf after) (linesOf before)

end ContentVault
