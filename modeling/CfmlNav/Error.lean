import CfmlNav.Position
import CfmlNav.Text.Basic

/-!
# Errors

What can go wrong before or beside a definition request: a written pattern is not usable, or a
file cannot be read. A request itself never fails.
-/

namespace CfmlNav

/-- Why the text of a file cannot be read. -/
inductive ReadError where
  | notFound
  | notDirectory
  | isDirectory
  | nameTooLong
  | nulInName
  | notText
  deriving DecidableEq, Repr

/-- The system's words for a failed read. -/
def ReadError.message : ReadError → String
  | notFound => "No such file or directory (os error 2)"
  | notDirectory => "Not a directory (os error 20)"
  | isDirectory => "Is a directory (os error 21)"
  | nameTooLong => "File name too long (os error 36)"
  | nulInName => "file name contained an unexpected NUL byte"
  | notText => "stream did not contain valid UTF-8"

/-- What can go wrong. -/
inductive Error where
  /-- A written pattern is malformed. -/
  | invalidPattern (name : Text)
  /-- A pattern captures no path. -/
  | missingPathGroup (name : Text)
  /-- A file cannot be read. -/
  | unreadable (path : Text) (cause : ReadError)
  /-- No file has this number. -/
  | unknownFile (file : FileId)
  deriving DecidableEq, Repr

/-- The text of an error. -/
def Error.message : Error → String
  | invalidPattern name => "Invalid reference pattern '" ++ String.ofList name ++ "': "
  | missingPathGroup name =>
    "Reference pattern '" ++ String.ofList name ++ "' has no `path` capture group"
  | unreadable path cause => "IO error reading " ++ String.ofList path ++ ": " ++ cause.message
  | unknownFile file => "Unknown file: " ++ file.label

end CfmlNav
