import SampleForge.Files.Fault
import SampleForge.Text.Quoted

/-!
# Why logging cannot start

A choice of filter, format or output that is not known, or a log file that cannot be opened.
-/

namespace SampleForge

/-- A reason to refuse the pattern of a field. -/
inductive PatternFault where
  /-- It is not well formed. -/
  | malformed
  /-- It asks for a boundary of words among all the characters of Unicode. -/
  | wordBoundary
  deriving DecidableEq, Repr

/-- The wording of a reason. -/
def PatternFault.message : PatternFault → String
  | .malformed => "error building NFA"
  | .wordBoundary =>
      "unsupported regex feature for DFAs: cannot build DFAs for regexes with Unicode word " ++
        "boundaries; switch to ASCII word boundaries, or heuristically enable Unicode word " ++
        "boundaries or use a different regex engine"

/-- A reason to refuse a filter directive. -/
inductive DirectiveFault where
  /-- It does not have the form of a directive. -/
  | malformed
  /-- Its level is not known. -/
  | unknownLevel
  /-- The pattern of a field is refused. -/
  | badField (fault : PatternFault)
  deriving DecidableEq, Repr

/-- The wording of a reason. -/
def DirectiveFault.message : DirectiveFault → String
  | .malformed => "invalid filter directive"
  | .unknownLevel =>
      "error parsing level filter: expected one of \"off\", \"error\", \"warn\", \"info\", " ++
        "\"debug\", \"trace\", or a number 0-5"
  | .badField fault => "invalid field filter: " ++ fault.message

/-- A reason why logging cannot start. -/
inductive LogFault where
  /-- A directive of the settings is refused. -/
  | badDirective (fault : DirectiveFault)
  /-- A directive of the environment is refused. -/
  | badDirectiveFromEnvironment (fault : DirectiveFault)
  /-- The format is not known. -/
  | badFormat (format : String)
  /-- The output is not known. -/
  | badOutput (output : String)
  /-- The directory of the log file cannot be made. -/
  | noDirectory (fault : SystemFault)
  /-- The log file cannot be opened. -/
  | noFile (path : String) (fault : SystemFault)
  deriving DecidableEq, Repr

/-- The refusal of a format, which the settings use as well. -/
def badFormatMessage (format : String) : String :=
  "Invalid log format: " ++ format ++ " (must be 'json' or 'text')"

/-- The refusal of an output, which the settings use as well. -/
def badOutputMessage (output : String) : String :=
  "Invalid log output: " ++ output ++ " (must be 'stdout', 'stderr', or 'file')"

/-- The wording of a reason. -/
def LogFault.message : LogFault → String
  | .badDirective fault => "Invalid log directive: " ++ fault.message
  | .badDirectiveFromEnvironment fault => "Invalid log directive from env: " ++ fault.message
  | .badFormat format => badFormatMessage format
  | .badOutput output => badOutputMessage output
  | .noDirectory fault => "Failed to create log directory: " ++ fault.message
  | .noFile path fault =>
      "Failed to open log file " ++ Text.quoted path ++ ": " ++ fault.message

end SampleForge
