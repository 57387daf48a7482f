import Chip8.Text
import Chip8.Word

namespace Chip8

inductive Fault where
  | romTooLarge (size limit : Nat)
  | stackOverflow (address : Address)
  | stackUnderflow
  | window (text : String)
  | audio (text : String)
  deriving DecidableEq, Repr

namespace Fault

def message : Fault → String
  | .romTooLarge size limit =>
      s!"ROM is too large ({size} bytes), at most {limit} bytes fit above 0x200"
  | .stackOverflow address =>
      "call stack overflow: no room for return address 0x" ++ Text.hex 3 address.toNat
  | .stackUnderflow => "call stack underflow: return with no subroutine active"
  | .window text => "window error: " ++ text
  | .audio text => "audio error: " ++ text

/-- The cause and its data, as shown to whoever looks for a mistake. -/
def detail : Fault → String
  | .romTooLarge size limit => s!"RomTooLarge \x7b size: {size}, max: {limit} \x7d"
  | .stackOverflow address => s!"StackOverflow \x7b addr: {address.toNat} \x7d"
  | .stackUnderflow => "StackUnderflow"
  | .window text => "Window(" ++ Text.quote text ++ ")"
  | .audio text => "Audio(" ++ Text.quote text ++ ")"

end Fault

namespace Host

inductive ReadError where
  | notFound
  | isDirectory
  | other (text : String)
  deriving DecidableEq, Repr

def ReadError.message : ReadError → String
  | .notFound => "No such file or directory (os error 2)"
  | .isDirectory => "Is a directory (os error 21)"
  | .other text => text

structure Directory where
  files : List (String × List UInt8) := []
  folders : List String := []
  deriving DecidableEq, Repr

/-- The content of a file. A directory always holds itself and its parent as folders. -/
def Directory.content (directory : Directory) (name : String) :
    Except ReadError (List UInt8) :=
  match directory.files.find? fun file => file.1 = name with
  | some file => .ok file.2
  | none =>
      if ([".", ".."] ++ directory.folders).contains name then
        .error .isDirectory
      else
        .error .notFound

inductive DeviceError where
  | unavailable
  | unsupportedType
  | unsupportedConfiguration
  | invalidArgument
  | backend (text : String)
  deriving DecidableEq, Repr

inductive ToggleError where
  | unavailable
  | backend (text : String)
  deriving DecidableEq, Repr

private def backendMessage (text : String) : String :=
  "A backend-specific error has occurred: " ++ text

def DeviceError.message : DeviceError → String
  | .unavailable =>
      "The requested device is no longer available. For example, it has been unplugged."
  | .unsupportedType => "The requested stream type is not supported by the device."
  | .unsupportedConfiguration =>
      "The requested stream configuration is not supported by the device."
  | .invalidArgument =>
      "The requested device does not support this capability (invalid argument)"
  | .backend text => backendMessage text

def ToggleError.message : ToggleError → String
  | .unavailable => "the device associated with the stream is no longer available"
  | .backend text => backendMessage text

end Host

inductive Failure where
  | unreadable (rom : String) (error : Host.ReadError)
  | unloadable (rom : String) (fault : Fault)
  | fault (fault : Fault)
  deriving DecidableEq, Repr

namespace Failure

/-- The outermost message, and the cause behind it if it has one. -/
def messages : Failure → String × Option String
  | .unreadable rom error => ("failed to read ROM " ++ rom, some error.message)
  | .unloadable rom cause => ("failed to load ROM " ++ rom, some cause.message)
  | .fault cause => (cause.message, none)

def summary (failure : Failure) : String :=
  failure.messages.1

def message (failure : Failure) : String :=
  match failure.messages with
  | (summary, some cause) => summary ++ ": " ++ cause
  | (summary, none) => summary

end Failure

end Chip8
