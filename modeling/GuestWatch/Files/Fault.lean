/-! # Refusals of a file system

The words of the system, with its number for the refusal where it has one.
-/
namespace GuestWatch.Files

inductive Fault
  | noEntry
  | noDevice
  | noExecutable
  | accessDenied
  | notDirectory
  | isDirectory
  | notTerminal
  | nameTooLong
  | nulInName
  | nulInArgument
  | notText
deriving DecidableEq, Repr

def Fault.message : Fault → String
  | .noEntry => "No such file or directory (os error 2)"
  | .noDevice => "No such device or address (os error 6)"
  | .noExecutable => "Exec format error (os error 8)"
  | .accessDenied => "Permission denied (os error 13)"
  | .notDirectory => "Not a directory (os error 20)"
  | .isDirectory => "Is a directory (os error 21)"
  | .notTerminal => "Inappropriate ioctl for device (os error 25)"
  | .nameTooLong => "File name too long (os error 36)"
  | .nulInName => "file name contained an unexpected NUL byte"
  | .nulInArgument => "nul byte found in provided data"
  | .notText => "stream did not contain valid UTF-8"

end GuestWatch.Files
