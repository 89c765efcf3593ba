/-!
Failures of the operating system, with their texts.
-/

set_option autoImplicit false

namespace PxeLaunch

/-- Why the operating system, or a stream that it gave, could not do as it was asked. -/
inductive Failure where
  | notFound
  | notExecutable
  | denied
  | alreadyThere
  | notDirectory
  | isDirectory
  | nameTooLong
  | zeroInName
  | zeroInWord
  | notText
  | brokenPipe
  | stated (text : String)
  deriving Repr, DecidableEq

namespace Failure

/-- The text of a failure. -/
def message : Failure → String
  | .notFound => "No such file or directory (os error 2)"
  | .notExecutable => "Exec format error (os error 8)"
  | .denied => "Permission denied (os error 13)"
  | .alreadyThere => "File exists (os error 17)"
  | .notDirectory => "Not a directory (os error 20)"
  | .isDirectory => "Is a directory (os error 21)"
  | .nameTooLong => "File name too long (os error 36)"
  | .zeroInName => "file name contained an unexpected NUL byte"
  | .zeroInWord => "nul byte found in provided data"
  | .notText => "stream did not contain valid UTF-8"
  | .brokenPipe => "broken pipe"
  | .stated text => text

end Failure

end PxeLaunch
