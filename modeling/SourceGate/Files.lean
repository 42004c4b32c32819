/-! # Files

Why a text cannot be read.
-/

namespace SourceGate

inductive FileError where
  | notFound | notDirectory | isDirectory | nameTooLong | denied
  /-- The bytes are not UTF-8. -/
  | notText
  /-- Another failure, in the words and with the number of the system. -/
  | other (details : String) (number : Nat)
  deriving DecidableEq, Repr, Inhabited

def FileError.message : FileError → String
  | notFound => "No such file or directory (os error 2)"
  | notDirectory => "Not a directory (os error 20)"
  | isDirectory => "Is a directory (os error 21)"
  | nameTooLong => "File name too long (os error 36)"
  | denied => "Permission denied (os error 13)"
  | notText => "stream did not contain valid UTF-8"
  | other details number => s!"{details} (os error {number})"

end SourceGate
