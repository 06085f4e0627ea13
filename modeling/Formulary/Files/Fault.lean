/-!
Why a file operation fails, in the words of the system.
-/

namespace Formulary.Files

inductive FileFault where
  | notFound
  | noDevice
  | permissionDenied
  | exists
  | notADirectory
  | isADirectory
  | noSpace
  | nameTooLong
  /-- A path has a character that no path can have. -/
  | invalidArgument
  /-- A text that is handed to the system has the character in it that ends such texts. -/
  | zeroCharacter
  | notText
  /-- Reported by something else, in its own words. -/
  | told (reason : String)
deriving DecidableEq, Repr

def FileFault.message : FileFault → String
  | notFound => "No such file or directory (os error 2)"
  | noDevice => "No such device or address (os error 6)"
  | permissionDenied => "Permission denied (os error 13)"
  | .exists => "File exists (os error 17)"
  | notADirectory => "Not a directory (os error 20)"
  | isADirectory => "Is a directory (os error 21)"
  | noSpace => "No space left on device (os error 28)"
  | nameTooLong => "File name too long (os error 36)"
  | invalidArgument => "Invalid argument (os error 22)"
  | zeroCharacter => "nul byte found in provided data"
  | notText => "stream did not contain valid UTF-8"
  | told reason => reason

end Formulary.Files
