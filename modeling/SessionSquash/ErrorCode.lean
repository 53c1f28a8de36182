namespace SessionSquash

inductive ErrorCode where
  | inputNotFound
  | configParseError
  | logParseFailed
  | unsupportedLogVersion
  | invalidEndTime
  | verificationFailed
  | logWriteFailed
  | internalUnexpected
deriving DecidableEq, Repr, Inhabited

namespace ErrorCode

def all : List ErrorCode :=
  [.inputNotFound, .configParseError, .logParseFailed, .unsupportedLogVersion, .invalidEndTime,
    .verificationFailed, .logWriteFailed, .internalUnexpected]

/-- The name a caller uses for the code. -/
def name : ErrorCode → String
  | .inputNotFound => "InputNotFound"
  | .configParseError => "ConfigParseError"
  | .logParseFailed => "LogParseFailed"
  | .unsupportedLogVersion => "UnsupportedLogVersion"
  | .invalidEndTime => "InvalidEndTime"
  | .verificationFailed => "VerificationFailed"
  | .logWriteFailed => "LogWriteFailed"
  | .internalUnexpected => "InternalUnexpected"

def ofName? (s : String) : Option ErrorCode := all.find? (·.name == s)

/-- The stable `E####` identifier. -/
def code : ErrorCode → String
  | .inputNotFound => "E1001"
  | .configParseError => "E1002"
  | .logParseFailed => "E2001"
  | .unsupportedLogVersion => "E2002"
  | .invalidEndTime => "E2003"
  | .verificationFailed => "E3001"
  | .logWriteFailed => "E5001"
  | .internalUnexpected => "E9001"

def message : ErrorCode → String
  | .inputNotFound => "Input file not found"
  | .configParseError => "Config file parse error"
  | .logParseFailed => "Record log parse error"
  | .unsupportedLogVersion => "Unsupported record log version"
  | .invalidEndTime => "End time precedes last record"
  | .verificationFailed => "Squashed replay does not match original"
  | .logWriteFailed => "Record log write failed"
  | .internalUnexpected => "Internal unexpected error"

def hint : ErrorCode → Option String
  | .inputNotFound => some "Check the path, or pass `-` to read from stdin."
  | .configParseError => some "Fix syntax in recap.toml and retry."
  | .logParseFailed => some "The reported line number points at the bad record."
  | .unsupportedLogVersion => some "Upgrade recap to read logs from newer writers."
  | .invalidEndTime => some "Pass an --end-time at or after the last record, or omit it."
  | .verificationFailed =>
    some "Report a bug with the input log attached; rerun with --no-verify to keep the output."
  | .logWriteFailed => some "Check disk space and write permissions."
  | .internalUnexpected => some "Retry once. If persistent, report a bug with logs."

end ErrorCode

end SessionSquash
