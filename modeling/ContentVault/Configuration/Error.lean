/-!
# Errors of the configuration

Why no configuration could be loaded: a file is missing or of an unknown format, a
source does not have the expected shape, or the settings cannot work together.
-/

namespace ContentVault

/-- Why no configuration could be loaded. -/
inductive ConfigurationError where
  | fileNotFound (path : String)
  | unsupportedFormat (path : String)
  | malformed (reason : String)
  | unusable (reason : String)
  deriving DecidableEq, Repr

/-- The text of an error. -/
def ConfigurationError.message : ConfigurationError → String
  | .fileNotFound path => "configuration file not found: " ++ path
  | .unsupportedFormat path => "unsupported configuration format: " ++ path
  | .malformed reason => "could not parse configuration: " ++ reason
  | .unusable reason => "invalid configuration: " ++ reason

end ContentVault
