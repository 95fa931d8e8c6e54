import ContentVault.CommandLine.Argument
import ContentVault.CommandLine.Word

/-!
# Levels of a command line

The words of a command line belong to two levels: those before the name of the
command, and those after it.  Both are read in the same way.

* words for an argument are looked at only when it is certain that no further word
  belongs to it, and then the first thing that is wrong is reported;
* an option without a value behind its name takes the next word, unless that looks
  like an option itself;
* a word that looks like a negative number is a value only where one is allowed;
* behind two dashes every word is an ordinary one.
-/

namespace ContentVault

/-- What can be given on a level. -/
structure Level where
  options : List Argument
  positions : List Argument
  /-- The names of the commands that lead to the next level. -/
  commands : List String
  /-- Whether the version of the program can be asked for. -/
  tellsVersion : Bool

/-- An argument whose words are still being collected. -/
structure Pending where
  argument : Argument
  words : List String

/-- How far a level has been read. -/
structure Progress where
  given : Table String GivenValues
  pending : Option Pending
  /-- How many positions have been filled. -/
  position : Nat
  /-- Whether the two dashes have been seen. -/
  isTrailing : Bool

namespace Progress

/-- Nothing has been read. -/
def start : Progress := ⟨[], none, 0, false⟩

/-- Look at the words that have been collected. -/
def resolve (progress : Progress) : Except UsageError Progress :=
  match progress.pending with
  | none => .ok progress
  | some pending => do
      let given ← acceptWords pending.argument false pending.words progress.given
      return { progress with given, pending := none }

/-- Whether an option waits for its value. -/
def awaitsValue (progress : Progress) : Bool :=
  progress.pending.any fun pending => pending.words.isEmpty

/-- Whether the last word was one of any number for a position. -/
def isRepeating (progress : Progress) : Bool :=
  progress.pending.any fun pending => pending.argument.isRepeated

/-- Add a word for an argument to those that are collected. -/
def collect (progress : Progress) (argument : Argument) (word : String) : Progress :=
  let earlier := (progress.pending.map Pending.words).getD []
  { progress with pending := some ⟨argument, earlier ++ [word]⟩ }

end Progress

namespace Level

/-- The option with a name. -/
def option? (level : Level) (name : String) : Option Argument :=
  level.options.find? fun argument => argument.name = name

/-- The option with a letter. -/
def letterOption? (level : Level) (letter : Char) : Option Argument :=
  level.options.find? fun argument => argument.letter = some letter

/-- Why a word that fits nowhere is refused. -/
def refusal (level : Level) (progress : Progress) (word : String) : UsageError :=
  if level.commands.isEmpty || (progress.isTrailing && level.commands.contains word) then
    .argumentUnknown
  else
    .commandUnknown

/-- Read an option. -/
def readOption (progress : Progress) (argument : Argument) (attached : Option String) :
    Except UsageError Progress := do
  let progress ← progress.resolve
  match attached with
  | some value =>
      return { progress with given := ← acceptWords argument false [value] progress.given }
  | none => return { progress with pending := some ⟨argument, []⟩ }

/-- Read something that is asked for instead of a result. -/
def readRequest {α : Type} (progress : Progress) (request : UsageError) :
    Except UsageError α := do
  let _ ← progress.resolve
  throw request

/-- Read a word that names an option. -/
def readLong (level : Level) (progress : Progress) (name : String) (attached : Option String) :
    Except UsageError Progress :=
  match level.option? name with
  | some argument => readOption progress argument attached
  | none =>
      if name = "help" ∨ (name = "version" ∧ level.tellsVersion) then
        if attached.isSome then
          .error .valueUnexpected
        else
          readRequest progress (if name = "help" then .helpRequested else .versionRequested)
      else
        .error .argumentUnknown

/-- Read a word that starts with the letter of an option. -/
def readShort (level : Level) (progress : Progress) (letter : Char) (attached : Option String) :
    Except UsageError Progress :=
  match level.letterOption? letter with
  | some argument => readOption progress argument attached
  | none =>
      if letter = 'h' then
        readRequest progress .helpRequested
      else if letter = 'V' ∧ level.tellsVersion then
        readRequest progress .versionRequested
      else
        .error .argumentUnknown

/-- Read an ordinary word. -/
def readPlain (level : Level) (progress : Progress) (word : String) :
    Except UsageError Progress :=
  match progress.pending with
  | some pending =>
      if pending.words.isEmpty && !progress.isTrailing then
        .ok (progress.collect pending.argument word)
      else
        atPosition
  | none => atPosition
where
  /-- Give the word to the next position. -/
  atPosition : Except UsageError Progress :=
    match level.positions[progress.position]? with
    | none => .error (level.refusal progress word)
    | some argument =>
        if argument.isRepeated then do
          let progress ← if progress.isRepeating then pure progress else progress.resolve
          return progress.collect argument word
        else do
          let progress ← progress.resolve
          return { progress.collect argument word with position := progress.position + 1 }

/-- Whether a negative number may be the next word. -/
def permitsNegative (level : Level) (progress : Progress) : Bool :=
  progress.pending.any (fun pending => pending.words.isEmpty && pending.argument.allowsNegative) ||
    level.positions[progress.position]?.any Argument.allowsNegative

/-- Read one word that is not the name of a command. -/
def readWord (level : Level) (progress : Progress) (word : String) :
    Except UsageError Progress :=
  if progress.isTrailing then
    level.readPlain progress word
  else
    match WordShape.of word with
    | .separator => .ok { progress with isTrailing := true }
    | .long name attached => level.readLong progress name attached
    | .short letter attached =>
        if isNegativeNumber word && level.permitsNegative progress then
          level.readPlain progress word
        else
          level.readShort progress letter attached
    | .plain => level.readPlain progress word

/-- Whether a word is the name of a command where it stands. -/
def namesCommand (level : Level) (progress : Progress) (word : String) : Bool :=
  !progress.isTrailing && !progress.awaitsValue && !progress.isRepeating &&
    level.commands.contains word

/-- Read words up to the name of a command, and tell that name and the words behind
it. -/
def readWords (level : Level) (progress : Progress) :
    List String → Except UsageError (Progress × Option (String × List String))
  | [] => .ok (progress, none)
  | word :: rest =>
      if level.namesCommand progress word then
        .ok (progress, some (word, rest))
      else do
        level.readWords (← level.readWord progress word) rest

/-- Let environment variables stand in for options that were not given. -/
def addVariables (level : Level) (bindings : Table String String)
    (given : Table String GivenValues) : Except UsageError (Table String GivenValues) :=
  level.options.foldlM
    (fun given argument =>
      match argument.environmentName.bind bindings.get? with
      | some value =>
          if (given.get? argument.name).isSome then
            .ok given
          else
            acceptWords argument true [value] given
      | none => .ok given)
    given

/-- Bring the reading of a level to its end. -/
def finish (level : Level) (bindings : Table String String) (progress : Progress) :
    Except UsageError (Table String GivenValues) := do
  let progress ← progress.resolve
  level.addVariables bindings progress.given

/-- Refuse a level on which a position was not filled. -/
def requirePositions (level : Level) (given : Table String GivenValues) :
    Except UsageError Unit :=
  if level.positions.all fun argument => (given.get? argument.name).isSome then
    .ok ()
  else
    .error .argumentMissing

end Level

end ContentVault
