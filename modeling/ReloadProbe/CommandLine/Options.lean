import ReloadProbe.Path
import ReloadProbe.Time.Units

/-!
The options of the command line. Arguments are read from left to right. The value of an option that
stands in an argument of its own is only looked at when the next option is met or the arguments end;
an argument that is no option is found out at once, so it wins over a bad value just before it.
-/
namespace ReloadProbe.CommandLine

structure Options where
  config : Option Path := none
  broker : Option String := none
  plugin : Option Path := none
  basePort : Option UInt16 := none
  protocolVersion : Option UInt8 := none
  variants : List Bool := []
  reloadCycles : Option UInt32 := none
  notificationTimeout : Option Duration := none
  json : Bool := false
  noFailFast : Bool := false
  verbose : Bool := false
  debug : Bool := false

inductive Usage where
  | unknownArgument
  /-- A value is missing, or it is none of those allowed. -/
  | invalidValue
  /-- A value cannot be read. -/
  | valueValidation
  /-- An option that may be given once is given again. -/
  | argumentConflict
  /-- An option that takes no value has one. -/
  | tooManyValues
  | help
  | version
  deriving DecidableEq

def Usage.kind : Usage → String
  | unknownArgument => "UnknownArgument"
  | invalidValue => "InvalidValue"
  | valueValidation => "ValueValidation"
  | argumentConflict => "ArgumentConflict"
  | tooManyValues => "TooManyValues"
  | help => "DisplayHelp"
  | version => "DisplayVersion"

/-- To be told about the program is no error. -/
def Usage.exitCode : Usage → Nat
  | help | version => 0
  | _ => 2

inductive Valued where
  | config | broker | plugin | basePort | protocolVersion | variant | reloadCycles
  | notificationTimeout
  deriving DecidableEq

inductive Switch where
  | json | noFailFast | verbose | debug | help | version
  deriving DecidableEq

def long? : String → Option (Valued ⊕ Switch)
  | "config" => some (.inl .config)
  | "broker" => some (.inl .broker)
  | "plugin" => some (.inl .plugin)
  | "base-port" => some (.inl .basePort)
  | "protocol-version" => some (.inl .protocolVersion)
  | "variant" => some (.inl .variant)
  | "reload-cycles" => some (.inl .reloadCycles)
  | "notification-timeout" => some (.inl .notificationTimeout)
  | "json" => some (.inr .json)
  | "no-fail-fast" => some (.inr .noFailFast)
  | "verbose" => some (.inr .verbose)
  | "debug" => some (.inr .debug)
  | "help" => some (.inr .help)
  | "version" => some (.inr .version)
  | _ => none

def short? : Char → Option (Valued ⊕ Switch)
  | 'c' => some (.inl .config)
  | 'v' => some (.inr .verbose)
  | 'h' => some (.inr .help)
  | 'V' => some (.inr .version)
  | _ => none

def digits? (cs : List Char) : Option Nat :=
  if cs.isEmpty || !cs.all Char.isDigit then none
  else some (cs.foldl (fun n c => n * 10 + (c.toNat - 48)) 0)

def integer? (s : String) : Option Int :=
  match s.toList with
  | '-' :: cs => (digits? cs).map fun n => -(n : Int)
  | '+' :: cs => (digits? cs).map Int.ofNat
  | cs => (digits? cs).map Int.ofNat

def ranged (low high : Nat) (s : String) : Except Usage Nat :=
  match integer? s with
  | some n => if low ≤ n ∧ n ≤ high then .ok n.toNat else .error .valueValidation
  | none => .error .valueValidation

def duration? (s : String) : Option Duration :=
  let seconds? := match s.toList with
    | '+' :: cs => digits? cs
    | cs => digits? cs
  match seconds? with
  | some n =>
    if n < 18446744073709551616 then some (.ofSeconds (UInt64.ofNat n)) else Duration.parse? s
  | none => Duration.parse? s

def path (s : String) : Except Usage Path :=
  if s.isEmpty then .error .invalidValue else .ok (.ofText s)

def once {α : Type} (before : Option α) (value : Except Usage α) : Except Usage (Option α) :=
  if before.isSome then .error .argumentConflict else value.map some

def Options.set (o : Options) (option : Valued) (value : String) : Except Usage Options :=
  match option with
  | .config => return { o with config := ← once o.config (path value) }
  | .broker => return { o with broker := ← once o.broker (.ok value) }
  | .plugin => return { o with plugin := ← once o.plugin (path value) }
  | .basePort =>
    return { o with basePort := ← once o.basePort ((ranged 0 65535 value).map UInt16.ofNat) }
  | .protocolVersion =>
    return { o with
      protocolVersion := ← once o.protocolVersion ((ranged 3 5 value).map UInt8.ofNat) }
  | .variant =>
    match value with
    | "true" => return { o with variants := o.variants ++ [true] }
    | "false" => return { o with variants := o.variants ++ [false] }
    | _ => .error .invalidValue
  | .reloadCycles =>
    return { o with
      reloadCycles := ← once o.reloadCycles ((ranged 0 4294967295 value).map UInt32.ofNat) }
  | .notificationTimeout =>
    let read : Except Usage Duration := match duration? value with
      | some d => .ok d
      | none => .error .valueValidation
    return { o with notificationTimeout := ← once o.notificationTimeout read }

def turnOn (before : Bool) : Except Usage Bool :=
  if before then .error .argumentConflict else .ok true

def Options.switch (o : Options) : Switch → Except Usage Options
  | .json => return { o with json := ← turnOn o.json }
  | .noFailFast => return { o with noFailFast := ← turnOn o.noFailFast }
  | .verbose => return { o with verbose := ← turnOn o.verbose }
  | .debug => return { o with debug := ← turnOn o.debug }
  | .help => .error .help
  | .version => .error .version

structure Reading where
  options : Options := {}
  /-- An option that was met and is not set yet, with its value if that was met. -/
  pending : Option (Valued × Option String) := none
  /-- After `--` there are no options. -/
  trailing : Bool := false

namespace Reading

def settle (r : Reading) : Except Usage Reading :=
  match r.pending with
  | none => .ok r
  | some (_, none) => .error .invalidValue
  | some (option, some value) => do
    return { r with options := ← r.options.set option value, pending := none }

def meetValued (r : Reading) (option : Valued) (value : Option String) : Except Usage Reading := do
  let r ← r.settle
  match value with
  | some value => return { r with options := ← r.options.set option value }
  | none => return { r with pending := some (option, none) }

def meetSwitch (r : Reading) (switch : Switch) : Except Usage Reading := do
  let r ← r.settle
  return { r with options := ← r.options.switch switch }

def meetLong (r : Reading) (body : List Char) : Except Usage Reading :=
  let name := String.ofList (body.takeWhile (· != '='))
  let value := match body.dropWhile (· != '=') with
    | _ :: value => some (String.ofList value)
    | [] => none
  match long? name, value with
  | none, _ => .error .unknownArgument
  | some (.inl option), value => r.meetValued option value
  | some (.inr _), some _ => .error .tooManyValues
  | some (.inr switch), none => r.meetSwitch switch

/-- An argument without its one dash. Letters after an option with a value are the value. -/
def meetShort (r : Reading) : List Char → Except Usage Reading
  | [] => .ok r
  | c :: cs =>
    match short? c with
    | none => .error .unknownArgument
    | some (.inl option) =>
      r.meetValued option (match cs with
        | [] => none
        | '=' :: value | value => some (String.ofList value))
    | some (.inr switch) => do (← r.meetSwitch switch).meetShort cs

def meet (r : Reading) (argument : String) : Except Usage Reading :=
  if r.trailing then .error .unknownArgument
  else
    match argument.toList, r.pending with
    | ['-', '-'], _ => .ok { r with trailing := true }
    | '-' :: '-' :: body, _ => r.meetLong body
    | '-' :: c :: cs, _ => r.meetShort (c :: cs)
    | _, some (option, none) => .ok { r with pending := some (option, some argument) }
    | _, _ => .error .unknownArgument

end Reading

def parse (arguments : List String) : Except Usage Options := do
  let r ← arguments.foldlM Reading.meet {}
  return (← r.settle).options

end ReloadProbe.CommandLine
