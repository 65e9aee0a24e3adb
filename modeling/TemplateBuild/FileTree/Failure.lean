/-!
# Failures of file operations

Why an operation on files failed, with the wording and the number that the system gives.
-/

set_option autoImplicit false

namespace TemplateBuild

inductive FileFailure where
  | notFound
  | busy
  | exists
  | notDirectory
  | isDirectory
  | invalid
  | nameTooLong
  | notEmpty
  | tooManyLinks
  /-- A path with a zero byte, which the system cannot be asked about. -/
  | zeroInPath
  /-- A file read as text whose bytes are not UTF-8. -/
  | notText
deriving DecidableEq, Repr

namespace FileFailure

/-- The system's words for a failure, and its number if the system reported it. -/
def reason : FileFailure → String × Option Nat
  | .notFound => ("No such file or directory", some 2)
  | .busy => ("Device or resource busy", some 16)
  | .exists => ("File exists", some 17)
  | .notDirectory => ("Not a directory", some 20)
  | .isDirectory => ("Is a directory", some 21)
  | .invalid => ("Invalid argument", some 22)
  | .nameTooLong => ("File name too long", some 36)
  | .notEmpty => ("Directory not empty", some 39)
  | .tooManyLinks => ("Too many levels of symbolic links", some 40)
  | .zeroInPath => ("file name contained an unexpected NUL byte", none)
  | .notText => ("stream did not contain valid UTF-8", none)

def message (failure : FileFailure) : String :=
  match failure.reason with
  | (text, some number) => text ++ " (os error " ++ toString number ++ ")"
  | (text, none) => text

end FileFailure

end TemplateBuild
