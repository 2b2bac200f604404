import TrackFinder.Error

/-! Why a path leads nowhere, in the system's words. -/

namespace TrackFinder

inductive PathFault where
  | notFound
  | accessDenied
  | notDirectory
  | nameTooLong
  | tooManyLinks
  | zeroByte
deriving DecidableEq

namespace PathFault

def all : List PathFault :=
  [notFound, accessDenied, notDirectory, nameTooLong, tooManyLinks, zeroByte]

/-- The system's number of a fault. A path with a zero byte does not get as far as the system. -/
def code? : PathFault → Option Nat
  | notFound => some 2
  | accessDenied => some 13
  | notDirectory => some 20
  | nameTooLong => some 36
  | tooManyLinks => some 40
  | zeroByte => none

def words : PathFault → String
  | notFound => "No such file or directory"
  | accessDenied => "Permission denied"
  | notDirectory => "Not a directory"
  | nameTooLong => "File name too long"
  | tooManyLinks => "Too many levels of symbolic links"
  | zeroByte => "file name contained an unexpected NUL byte"

/-- Words with the system's number for them. -/
def withCode (words : String) : Option Nat → String
  | some code => words ++ " (os error " ++ toString code ++ ")"
  | none => words

def message (fault : PathFault) : String := withCode fault.words fault.code?

def ofCode? (code : Nat) : Option PathFault := all.find? fun fault => fault.code? == some code

end PathFault

/-- Said of an operation on a path that failed. -/
def Path.operationFailed (path : Path) (message : String) : String :=
  "IO error for operation on " ++ path.display ++ ": " ++ message

/-- The failure to read a directory at `path`. -/
def ReadFailure.ofMessage (path : Path) (missing : Bool) (message : String) : ReadFailure :=
  ⟨missing, path.operationFailed message, some message⟩

/-- Said of a link that leads back to the directory it was found in. -/
def Path.loopFound (path dir : Path) : String :=
  "File system loop found: " ++ path.display ++ " points to an ancestor " ++ dir.display

end TrackFinder
