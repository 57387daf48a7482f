import Chip8.Instruction.Basic

namespace Chip8

structure Settings where
  rom : String
  architecture : Architecture := .chip
  /-- Instructions in a frame. -/
  speed : Nat := 11
  /-- Timer ticks in a second. -/
  timerRate : Nat := 60
  scale : Nat := 16
  mute : Bool := false
  deriving DecidableEq, Repr

inductive UsageError where
  | missingRom
  /-- An option without its value, an unknown architecture, or an empty file name. -/
  | invalidValue
  | invalidNumber
  | unknownArgument
  | tooManyValues
  | repeatedOption
  | help
  | version
  deriving DecidableEq, Repr

def UsageError.message : UsageError → String
  | .missingRom => "a program file is required"
  | .invalidValue => "a value is missing or not one of those allowed"
  | .invalidNumber => "a number is malformed or out of range"
  | .unknownArgument => "an argument is not known here"
  | .tooManyValues => "a switch takes no value"
  | .repeatedOption => "an option is given twice"
  | .help =>
      "usage: chip8 [-a|--arch chip|cosmac] [-s|--speed 1-1000] [--timer-hz 1-1000] " ++
        "[--scale N] [-m|--mute] [-h|--help] [-V|--version] ROM"
  | .version => "chip8 0.1.0"

/-- Asking for help or the version is no mistake. -/
def UsageError.exitCode : UsageError → UInt32
  | .help | .version => 0
  | _ => 2

namespace CommandLine

inductive Parameter where
  | rom | architecture | speed | timerRate | scale
  deriving DecidableEq, Repr

inductive Flag where
  | valued (parameter : Parameter)
  | mute
  | help
  | version
  deriving DecidableEq, Repr

def longFlag? : String → Option Flag
  | "arch" => some (.valued .architecture)
  | "speed" => some (.valued .speed)
  | "timer-hz" => some (.valued .timerRate)
  | "scale" => some (.valued .scale)
  | "mute" => some .mute
  | "help" => some .help
  | "version" => some .version
  | _ => none

def shortFlag? : Char → Option Flag
  | 'a' => some (.valued .architecture)
  | 's' => some (.valued .speed)
  | 'm' => some .mute
  | 'h' => some .help
  | 'V' => some .version
  | _ => none

/-- The shape of an argument. A single dash is plain. -/
inductive Shape where
  | terminator
  | long (name : String) (value : Option String)
  | cluster (letters : List Char)
  | plain
  deriving DecidableEq, Repr

def shape (argument : String) : Shape :=
  match argument.toList with
  | ['-', '-'] => .terminator
  | '-' :: '-' :: letters =>
      let name := String.ofList (letters.takeWhile (· ≠ '='))
      match letters.dropWhile (· ≠ '=') with
      | [] => .long name none
      | _ :: value => .long name (some (String.ofList value))
  | ['-'] => .plain
  | '-' :: letters => .cluster letters
  | _ => .plain

structure Given where
  rom : Option String := none
  architecture : Option Architecture := none
  speed : Option Nat := none
  timerRate : Option Nat := none
  scale : Option Nat := none
  mute : Bool := false
  deriving DecidableEq, Repr

/-- A sequence of decimal digits, with an optional plus sign before it. -/
def decimal? (text : String) : Option Nat :=
  let digits :=
    match text.toList with
    | '+' :: digits => digits
    | digits => digits
  if digits.isEmpty ∨ digits.any (fun digit => !digit.isDigit) then
    none
  else
    some (digits.foldl (fun value digit => 10 * value + (digit.toNat - '0'.toNat)) 0)

def numberWithin (least greatest : Nat) (text : String) : Except UsageError Nat :=
  match decimal? text with
  | some value =>
      if least ≤ value ∧ value ≤ greatest then .ok value else .error .invalidNumber
  | none => .error .invalidNumber

def rateLimit : Nat := 1000

def scaleLimit : Nat := UInt64.size - 1

def Given.has (given : Given) : Parameter → Bool
  | .rom => given.rom.isSome
  | .architecture => given.architecture.isSome
  | .speed => given.speed.isSome
  | .timerRate => given.timerRate.isSome
  | .scale => given.scale.isSome

def Given.give (given : Given) (parameter : Parameter) (text : String) :
    Except UsageError Given :=
  if given.has parameter then
    .error .repeatedOption
  else
    match parameter with
    | .rom =>
        if text.isEmpty then .error .invalidValue else .ok { given with rom := some text }
    | .architecture =>
        match Architecture.ofOption? text with
        | some architecture => .ok { given with architecture := some architecture }
        | none => .error .invalidValue
    | .speed => do return { given with speed := some (← numberWithin 1 rateLimit text) }
    | .timerRate => do return { given with timerRate := some (← numberWithin 1 rateLimit text) }
    | .scale => do return { given with scale := some (← numberWithin 0 scaleLimit text) }

def Given.settings (given : Given) : Except UsageError Settings :=
  match given.rom with
  | none => .error .missingRom
  | some rom =>
      let standard : Settings := { rom }
      .ok
        { rom
          architecture := given.architecture.getD standard.architecture
          speed := given.speed.getD standard.speed
          timerRate := given.timerRate.getD standard.timerRate
          scale := given.scale.getD standard.scale
          mute := given.mute }

/-! A command line in the middle of being read. A value that stands apart from its option, like the
program file, stays pending until the next option or file settles it. -/

/-- A parameter that was named, with its value once that has been read. -/
structure Pending where
  parameter : Parameter
  value : Option String
  deriving DecidableEq, Repr

structure Reading where
  given : Given := {}
  pending : Option Pending := none
  deriving DecidableEq, Repr

namespace Reading

def settle (reading : Reading) : Except UsageError Given :=
  match reading.pending with
  | none => .ok reading.given
  | some ⟨_, none⟩ => .error .invalidValue
  | some ⟨parameter, some value⟩ => reading.given.give parameter value

/-- The next argument is the value of an option, unless it is an option itself. -/
def awaitsValue (reading : Reading) : Bool :=
  match reading.pending with
  | some ⟨_, none⟩ => true
  | _ => false

def hasRom (reading : Reading) : Bool :=
  reading.given.rom.isSome || reading.pending.any (·.parameter = .rom)

def expect (reading : Reading) (parameter : Parameter) : Except UsageError Reading := do
  return { given := ← reading.settle, pending := some ⟨parameter, none⟩ }

def attach (reading : Reading) (parameter : Parameter) (value : String) :
    Except UsageError Reading := do
  return { given := ← (← reading.settle).give parameter value }

def flag (reading : Reading) : Flag → Except UsageError Reading
  | .valued parameter => reading.expect parameter
  | .mute => do
      let given ← reading.settle
      if given.mute then .error .repeatedOption else return { given := { given with mute := true } }
  | .help => do
      let _ ← reading.settle
      .error .help
  | .version => do
      let _ ← reading.settle
      .error .version

/-- Takes a flag under its long name, with the value after the equals sign if there is one. -/
def long (reading : Reading) (name : String) (value : Option String) :
    Except UsageError Reading :=
  match longFlag? name, value with
  | none, _ => .error .unknownArgument
  | some (.valued parameter), some value => reading.attach parameter value
  | some _, some _ => .error .tooManyValues
  | some flag, none => reading.flag flag

/-- Takes flags under their letters. The letters after one that takes a value are that value, with
or without an equals sign before it. -/
def cluster (reading : Reading) : List Char → Except UsageError Reading
  | [] => .ok reading
  | letter :: rest =>
      match shortFlag? letter, rest with
      | none, _ => .error .unknownArgument
      | some (.valued parameter), [] => reading.expect parameter
      | some (.valued parameter), '=' :: value => reading.attach parameter (String.ofList value)
      | some (.valued parameter), value => reading.attach parameter (String.ofList value)
      | some flag, rest => do (← reading.flag flag).cluster rest

/-- Takes the program file. A second one is refused before anything is examined. -/
def positional (reading : Reading) (text : String) : Except UsageError Reading :=
  if reading.hasRom then
    .error .unknownArgument
  else do
    return { given := ← reading.settle, pending := some ⟨.rom, some text⟩ }

def plain (reading : Reading) (text : String) : Except UsageError Reading :=
  match reading.pending with
  | some ⟨parameter, none⟩ => .ok { reading with pending := some ⟨parameter, some text⟩ }
  | _ => reading.positional text

end Reading

def readPositionals (reading : Reading) : List String → Except UsageError Given
  | [] => reading.settle
  | argument :: rest => do readPositionals (← reading.positional argument) rest

def read (reading : Reading) : List String → Except UsageError Given
  | [] => reading.settle
  | argument :: rest =>
      match shape argument with
      | .terminator => readPositionals reading rest
      | .long name value => do read (← reading.long name value) rest
      | .cluster letters => do read (← reading.cluster letters) rest
      | .plain => do read (← reading.plain argument) rest

def parse (arguments : List String) : Except UsageError Settings := do
  (← read {} arguments).settings

end CommandLine

end Chip8
