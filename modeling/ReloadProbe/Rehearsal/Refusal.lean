/-! Why a model machine refuses what a program asks of it. -/
namespace ReloadProbe.Rehearsal

inductive Refusal where
  | notPermitted
  | noEntry
  | noProcess
  | interrupted
  | tooLong
  | noProgram
  | badDescriptor
  | noChild
  | denied
  | busy
  | alreadyThere
  | notDirectory
  | isDirectory
  | invalid
  | noSpace
  | illegalSeek
  | brokenPipe
  | nameTooLong
  | notEmpty
  | tooManyLinks
  | nulInside
  deriving DecidableEq

namespace Refusal

def reason : Refusal → String
  | notPermitted => "Operation not permitted"
  | noEntry => "No such file or directory"
  | noProcess => "No such process"
  | interrupted => "Interrupted system call"
  | tooLong => "Argument list too long"
  | noProgram => "Exec format error"
  | badDescriptor => "Bad file descriptor"
  | noChild => "No child processes"
  | denied => "Permission denied"
  | busy => "Device or resource busy"
  | alreadyThere => "File exists"
  | notDirectory => "Not a directory"
  | isDirectory => "Is a directory"
  | invalid => "Invalid argument"
  | noSpace => "No space left on device"
  | illegalSeek => "Illegal seek"
  | brokenPipe => "Broken pipe"
  | nameTooLong => "File name too long"
  | notEmpty => "Directory not empty"
  | tooManyLinks => "Too many levels of symbolic links"
  | nulInside => "nul byte found in provided data"

/-- The number that the system gives the refusal; a string that cannot be passed on does not come
that far. -/
def number? : Refusal → Option Nat
  | notPermitted => some 1
  | noEntry => some 2
  | noProcess => some 3
  | interrupted => some 4
  | tooLong => some 7
  | noProgram => some 8
  | badDescriptor => some 9
  | noChild => some 10
  | denied => some 13
  | busy => some 16
  | alreadyThere => some 17
  | notDirectory => some 20
  | isDirectory => some 21
  | invalid => some 22
  | noSpace => some 28
  | illegalSeek => some 29
  | brokenPipe => some 32
  | nameTooLong => some 36
  | notEmpty => some 39
  | tooManyLinks => some 40
  | nulInside => none

def message (r : Refusal) : String :=
  match r.number? with
  | some n => s!"{r.reason} (os error {n})"
  | none => r.reason

end Refusal
end ReloadProbe.Rehearsal
