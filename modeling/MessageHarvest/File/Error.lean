import MessageHarvest.Text.Quoted

/-!
# Why a file cannot be used
-/
namespace MessageHarvest.File

/-- Why a path leads to no file that can be used. -/
inductive Fault where
  | missing
  | inputOutput
  | noAccess
  | notDirectory
  | isDirectory
  | noSpace
  | nameTooLong
  | tooManyLinks
  | embeddedNul
deriving DecidableEq

namespace Fault

/-- The number that systems give the fault, and the fault in words. No system is asked about a path
that holds a NUL. -/
def system? : Fault → Option (Nat × Text)
  | missing => some (2, "No such file or directory".toList)
  | inputOutput => some (5, "Input/output error".toList)
  | noAccess => some (13, "Permission denied".toList)
  | notDirectory => some (20, "Not a directory".toList)
  | isDirectory => some (21, "Is a directory".toList)
  | noSpace => some (28, "No space left on device".toList)
  | nameTooLong => some (36, "File name too long".toList)
  | tooManyLinks => some (40, "Too many levels of symbolic links".toList)
  | embeddedNul => none

/-- The line that reports the fault where no path is known. -/
def message (f : Fault) : Text :=
  match f.system? with
  | some (number, words) => "[Errno ".toList ++ Text.ofNat number ++ "] ".toList ++ words
  | none => "embedded null byte".toList

end Fault

/-- A fault, and the path as it was given. -/
structure Error where
  fault : Fault
  path : Text
deriving DecidableEq

/-- The line that reports the fault. -/
def Error.message (e : Error) : Text :=
  match e.fault.system? with
  | some _ => e.fault.message ++ ": ".toList ++ Text.quoted e.path
  | none => e.fault.message

end MessageHarvest.File
