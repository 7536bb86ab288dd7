import SessionGate.Json.Error

/- Failures of a storage backend. -/
namespace SessionGate.Storage

inductive PathError where
  | notFound
  | busy
  | alreadyExists
  | notDirectory
  | isDirectory
  | nameTooLong
  /-- The system is not asked for a path with a null character. -/
  | nullCharacter
  deriving DecidableEq, Repr

namespace PathError

def number? : PathError → Option Nat
  | .notFound => some 2
  | .busy => some 16
  | .alreadyExists => some 17
  | .notDirectory => some 20
  | .isDirectory => some 21
  | .nameTooLong => some 36
  | .nullCharacter => none

def reason : PathError → String
  | .notFound => "No such file or directory"
  | .busy => "Device or resource busy"
  | .alreadyExists => "File exists"
  | .notDirectory => "Not a directory"
  | .isDirectory => "Is a directory"
  | .nameTooLong => "File name too long"
  | .nullCharacter => "file name contained an unexpected NUL byte"

def kind : PathError → String
  | .notFound => "NotFound"
  | .busy => "ResourceBusy"
  | .alreadyExists => "AlreadyExists"
  | .notDirectory => "NotADirectory"
  | .isDirectory => "IsADirectory"
  | .nameTooLong => "InvalidFilename"
  | .nullCharacter => "InvalidInput"

def message (e : PathError) : String :=
  match e.number? with
  | some n => e.reason ++ " (os error " ++ toString n ++ ")"
  | none => e.reason

def inspect (e : PathError) : String :=
  match e.number? with
  | some n => Text.showRecord "Os" [("code", toString n), ("kind", e.kind),
      ("message", Text.quote e.reason)]
  | none => Text.showRecord "Error" [("kind", e.kind), ("message", Text.quote e.reason)]

end PathError

inductive Error where
  | path (cause : PathError)
  | medium (cause : String)
  | malformed (cause : Json.Error)
  deriving DecidableEq

def Error.message : Error → String
  | .path cause => "storage io failed: " ++ cause.message
  | .medium cause => "storage io failed: " ++ cause
  | .malformed cause => "storage document malformed: " ++ cause.message

def Error.inspect : Error → String
  | .path cause => "Io(" ++ cause.inspect ++ ")"
  | .medium cause =>
    "Io(" ++ Text.showRecord "Custom" [("kind", "Other"), ("error", Text.quote cause)] ++ ")"
  | .malformed cause => "Serialize(Error(" ++ Text.quote cause.message ++ "))"

end SessionGate.Storage
