namespace ScriptRunner.Posix

inductive Errno where
  | notPermitted | noEntry | noProcess | tooLong | notExecutable | badHandle | noChild | denied | exists
  | notDirectory | isDirectory | invalid | noSpace | brokenPipe | nameTooLong | notEmpty
  deriving DecidableEq, Repr

namespace Errno

def number : Errno → Nat
  | .notPermitted => 1
  | .noEntry => 2
  | .noProcess => 3
  | .tooLong => 7
  | .notExecutable => 8
  | .badHandle => 9
  | .noChild => 10
  | .denied => 13
  | .exists => 17
  | .notDirectory => 20
  | .isDirectory => 21
  | .invalid => 22
  | .noSpace => 28
  | .brokenPipe => 32
  | .nameTooLong => 36
  | .notEmpty => 39

def text : Errno → String
  | .notPermitted => "Operation not permitted"
  | .noEntry => "No such file or directory"
  | .noProcess => "No such process"
  | .tooLong => "Argument list too long"
  | .notExecutable => "Exec format error"
  | .badHandle => "Bad file descriptor"
  | .noChild => "No child processes"
  | .denied => "Permission denied"
  | .exists => "File exists"
  | .notDirectory => "Not a directory"
  | .isDirectory => "Is a directory"
  | .invalid => "Invalid argument"
  | .noSpace => "No space left on device"
  | .brokenPipe => "Broken pipe"
  | .nameTooLong => "File name too long"
  | .notEmpty => "Directory not empty"

def message (e : Errno) : String := e.text ++ " (os error " ++ toString e.number ++ ")"

def all : List Errno :=
  [.notPermitted, .noEntry, .noProcess, .tooLong, .notExecutable, .badHandle, .noChild, .denied, .exists,
    .notDirectory, .isDirectory, .invalid, .noSpace, .brokenPipe, .nameTooLong, .notEmpty]

def ofNumber? (n : Nat) : Option Errno := all.find? (·.number == n)

end Errno

end ScriptRunner.Posix
