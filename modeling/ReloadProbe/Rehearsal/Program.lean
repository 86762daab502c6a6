import ReloadProbe.Rehearsal.Accounts
import ReloadProbe.Rehearsal.Machine
import ReloadProbe.Rehearsal.Shell.Start
import ReloadProbe.Rehearsal.Utility.Table

/-!
The programs that lie on a model machine, and the files that there are at first. The command of a
broker is any program with any arguments, mostly a shell with a script; so there are a shell and the
small programs that scripts call.
-/
namespace ReloadProbe.Rehearsal

def Manner.ofName? : String → Option Manner
  | "good" => some .good
  | "bad" => some .bad
  | "crash" => some .crash
  | "silent" => some .silent
  | _ => none

namespace ModelBroker

def program : String := "/usr/local/bin/model-broker"

def ofArguments? : List String → Option ModelBroker
  | ["__broker", manner, port] => do
    return { manner := ← Manner.ofName? manner, port := ← port.toNat? }
  | _ => none

end ModelBroker

def library : Machine.Library where
  start
    | .errand e => e.process
    | .program message arguments environment => Search.process message arguments environment
  load e arguments environment :=
    match e with
    | .shell => .process (Shell.process arguments environment)
    | .utility name => .process (Utility.process name arguments environment)
    | .broker =>
      match ModelBroker.ofArguments? (arguments.drop 1) with
      | some b => .broker b
      | none => .process (.done 2)

namespace Files

def firstDirectories : List String :=
  ["/boot", "/dev", "/etc", "/home", "/media", "/mnt", "/opt", "/proc", "/root", "/run", "/srv",
    "/sys", "/tmp", "/usr", "/usr/bin", "/usr/games", "/usr/include", "/usr/lib", "/usr/lib64",
    "/usr/local", "/usr/local/bin", "/usr/local/lib", "/usr/local/sbin", "/usr/sbin",
    "/usr/share", "/usr/src", "/var", "/var/cache", "/var/lib", "/var/log", "/var/mail",
    "/var/spool", "/var/tmp"]

def firstLinks : List (String × String) :=
  [("/bin", "usr/bin"), ("/lib", "usr/lib"), ("/lib64", "usr/lib64"), ("/sbin", "usr/sbin"),
    ("/dev/fd", "/proc/self/fd"), ("/dev/stdin", "/proc/self/fd/0"),
    ("/dev/stdout", "/proc/self/fd/1"), ("/dev/stderr", "/proc/self/fd/2"),
    ("/usr/bin/sh", "dash"), ("/var/run", "/run")]

def first : Files :=
  let directory (place : String) : Node :=
    if place = "/tmp" || place = "/var/tmp" then { Node.directory with mode := 0o1777 }
    else if place = "/root" then { Node.directory with mode := 0o700 }
    else .directory
  let f := firstDirectories.foldl (fun f place => f.add place (directory place)) empty
  let f := firstLinks.foldl (fun f (place, target) =>
    f.add place { kind := .link target, mode := 0o777 }) f
  let device (d : Device) : Node := { kind := .device d, mode := 0o666 }
  let f := [("/dev/null", Device.null), ("/dev/zero", .zero), ("/dev/full", .full)].foldl
    (fun f (place, d) => f.add place (device d)) f
  let program (e : Executable) : Node := { kind := .program e, mode := 0o755 }
  let f := ["dash", "bash"].foldl (fun f name => f.add s!"/usr/bin/{name}" (program .shell)) f
  let f := Utility.names.foldl (fun f name =>
    f.add s!"/usr/bin/{name}" (program (.utility name))) f
  let f := f.add ModelBroker.program (program .broker)
  let accounts := String.join (Account.all.map Account.line)
  let hosts := "127.0.0.1\tlocalhost\n::1\tlocalhost ip6-localhost ip6-loopback\n"
  [("/etc/passwd", accounts), ("/etc/hosts", hosts), ("/etc/hostname", "localhost\n")].foldl
    (fun f (place, text) => f.addFile place (Octets.toBytes text)) f

end Files

def Machine.first : Machine := { files := .first }

end ReloadProbe.Rehearsal
