/-!
# Readers

A reader takes a prefix off a list of characters and gives what it stands for and
the characters that are left, or fails.

* repetitions are bounded by the number of characters that are left when they
  start, so that every reader ends.
-/

namespace ContentVault

/-- Repeat a step at most a number of times, until it gives a result. -/
def loopWithin {σ β γ : Type} (step : β → StateT σ Option (β ⊕ γ)) :
    Nat → β → StateT σ Option γ
  | 0, _ => fun _ => none
  | fuel + 1, progress => fun state =>
      match step progress state with
      | none => none
      | some (.inl following, state) => loopWithin step fuel following state
      | some (.inr result, state) => some (result, state)

/-- Takes a prefix off the characters, or fails. -/
abbrev Reader (α : Type) := StateT (List Char) Option α

namespace Reader

variable {α β γ : Type}

/-- The next character, which stays. -/
def peek? : Reader (Option Char) :=
  fun input => some (input.head?, input)

/-- Take the next character. -/
def next : Reader Char
  | [] => none
  | character :: rest => some (character, rest)

/-- Take a character if it is the next one, and tell whether it was. -/
def skip? (character : Char) : Reader Bool
  | [] => some (false, [])
  | first :: rest =>
      if first = character then some (true, rest) else some (false, first :: rest)

/-- Take a character that must be the next one. -/
def exactly (character : Char) : Reader Unit
  | [] => none
  | first :: rest => if first = character then some ((), rest) else none

/-- Take a text if it comes next, and tell whether it did. -/
def skipText? (expected : List Char) : Reader Bool :=
  fun input =>
    if expected.isPrefixOf input then
      some (true, input.drop expected.length)
    else
      some (false, input)

/-- Take the longest prefix whose characters satisfy a condition. -/
def takeWhile (condition : Char → Bool) : Reader (List Char) :=
  fun input => some (input.span condition)

/-- Take the longest prefix whose characters satisfy a condition; it must not be
empty. -/
def takeSome (condition : Char → Bool) : Reader (List Char) := do
  let taken ← takeWhile condition
  if taken.isEmpty then failure else return taken

/-- Drop the longest prefix whose characters satisfy a condition. -/
def skipWhile (condition : Char → Bool) : Reader Unit :=
  fun input => some ((), input.dropWhile condition)

/-- Nothing may be left. -/
def atEnd : Reader Unit
  | [] => some ((), [])
  | _ :: _ => none

/-- Try a reader; if it fails, nothing has been taken. -/
def ifPossible? (reader : Reader α) : Reader (Option α) :=
  fun input =>
    match reader input with
    | some (value, rest) => some (some value, rest)
    | none => some (none, input)

/-- Repeat a step until it gives a result.  A step that goes on has to take at
least one character. -/
def loop (step : β → Reader (β ⊕ γ)) (progress : β) : Reader γ :=
  fun input => loopWithin step (input.length + 1) progress input

/-- Read a whole text. -/
def run? (reader : Reader α) (text : String) : Option α :=
  match reader text.toList with
  | some (value, []) => some value
  | _ => none

end Reader

end ContentVault
