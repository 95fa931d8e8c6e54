import ContentVault.Document.Number
import ContentVault.Table

/-!
# Arguments

What a command takes, and the values that it was given.

* a value is a text, a path or an integer; a path is not empty, and an integer has
  at most 63 bits and a sign;
* an argument is given once, unless it can be repeated;
* the reason why a command line is refused says whether help was asked for.
-/

namespace ContentVault

/-- Why a command line is not carried out. -/
inductive UsageError where
  | helpRequested
  | versionRequested
  /-- Nothing at all was given. -/
  | nothingGiven
  | commandMissing
  | commandUnknown
  | argumentUnknown
  | argumentMissing
  | argumentRepeated
  /-- An option without values was given one. -/
  | valueUnexpected
  /-- A value is missing or empty. -/
  | valueMissing
  /-- A value is no number of the right size. -/
  | valueMalformed
  deriving DecidableEq, Repr

/-- Whether a user who gets this instead of a result asked for it. -/
def UsageError.isRequested : UsageError → Bool
  | .helpRequested | .versionRequested => true
  | _ => false

/-- The number with which the process ends. -/
def UsageError.exitCode (error : UsageError) : Nat :=
  if error.isRequested then 0 else 2

/-- The text of the error. -/
def UsageError.message : UsageError → String
  | .helpRequested | .nothingGiven => "usage: cairn [options] <command> [arguments]"
  | .versionRequested => "cairn"
  | .commandMissing => "a command is required"
  | .commandUnknown => "unknown command"
  | .argumentUnknown => "unexpected argument"
  | .argumentMissing => "a required argument is missing"
  | .argumentRepeated => "an argument was given more than once"
  | .valueUnexpected => "an option takes no value"
  | .valueMissing => "a value is required"
  | .valueMalformed => "a value is not a valid number"

/-- What the values of an argument are. -/
inductive ValueKind where
  | text
  | path
  | integer
  deriving DecidableEq, Repr

/-- A value. -/
inductive ArgumentValue where
  | text (value : String)
  | integer (value : Int)
  deriving DecidableEq, Repr

/-- One thing that a command can be given. -/
structure Argument where
  name : String
  kind : ValueKind
  /-- The letter that stands for an option. -/
  letter : Option Char
  /-- The environment variable that stands in for a missing option. -/
  environmentName : Option String
  /-- Whether a value may look like a negative number. -/
  allowsNegative : Bool
  /-- Whether a position takes any number of values. -/
  isRepeated : Bool
  deriving DecidableEq, Repr

/-- An argument with texts as values. -/
def Argument.text (name : String) : Argument where
  name
  kind := .text
  letter := none
  environmentName := none
  allowsNegative := false
  isRepeated := false

/-- An argument with paths as values. -/
def Argument.path (name : String) : Argument :=
  { Argument.text name with kind := .path }

/-- An argument with integers as values. -/
def Argument.integer (name : String) : Argument :=
  { Argument.text name with kind := .integer }

/-- The number that digits behind a sign spell, if it is in range. -/
def signedInteger? (isNegative : Bool) (digits : List Char) : Option Int := do
  let magnitude ← natOfDigits? 10 digits
  let value : Int := if isNegative then -magnitude else magnitude
  if -0x8000000000000000 ≤ value ∧ value < 0x8000000000000000 then some value else none

/-- Read an integer, which may have a sign. -/
def readInteger? (text : String) : Option Int :=
  match text.toList with
  | '-' :: digits => signedInteger? true digits
  | '+' :: digits => signedInteger? false digits
  | digits => signedInteger? false digits

/-- Read a value. -/
def ArgumentValue.read (kind : ValueKind) (word : String) :
    Except UsageError ArgumentValue :=
  match kind with
  | .text => .ok (.text word)
  | .path => if word = "" then .error .valueMissing else .ok (.text word)
  | .integer =>
      match readInteger? word with
      | some value => .ok (.integer value)
      | none => .error .valueMalformed

/-- The values of an argument. -/
structure GivenValues where
  values : List ArgumentValue
  /-- Whether an environment variable stood in for the option. -/
  isFromEnvironment : Bool
  deriving DecidableEq, Repr

/-- Take the words for an argument into account. -/
def acceptWords
    (argument : Argument) (isFromEnvironment : Bool) (words : List String)
    (given : Table String GivenValues) : Except UsageError (Table String GivenValues) := do
  let earlier := given.get? argument.name
  if words.isEmpty then
    throw .valueMissing
  if earlier.isSome && !argument.isRepeated then
    throw .argumentRepeated
  let values ← words.mapM (ArgumentValue.read argument.kind)
  let before := (earlier.map GivenValues.values).getD []
  return given.put argument.name ⟨before ++ values, isFromEnvironment⟩

end ContentVault
