namespace Chip8

/-- The host keys that mean something, and every other key under its name. -/
inductive HostKey where
  | digit1 | digit2 | digit3 | digit4
  | q | w | e | r
  | a | s | d | f
  | z | x | c | v
  | escape
  | other (name : String)
  deriving DecidableEq, Repr

namespace HostKey

def name : HostKey → String
  | .digit1 => "Key1"
  | .digit2 => "Key2"
  | .digit3 => "Key3"
  | .digit4 => "Key4"
  | .q => "Q"
  | .w => "W"
  | .e => "E"
  | .r => "R"
  | .a => "A"
  | .s => "S"
  | .d => "D"
  | .f => "F"
  | .z => "Z"
  | .x => "X"
  | .c => "C"
  | .v => "V"
  | .escape => "Escape"
  | .other name => name

def known : List HostKey :=
  [.digit1, .digit2, .digit3, .digit4, .q, .w, .e, .r, .a, .s, .d, .f, .z, .x, .c, .v, .escape]

def ofName (name : String) : HostKey :=
  (known.find? fun key => key.name = name).getD (.other name)

end HostKey

/-- What the host reports about its keys: which are held down, and which went down since the frame
before. -/
structure KeyState where
  held : HostKey → Bool
  pressed : HostKey → Bool

namespace KeyState

def idle : KeyState where
  held := fun _ => false
  pressed := fun _ => false

def ofLists (held pressed : List HostKey) : KeyState where
  held := fun key => held.contains key
  pressed := fun key => pressed.contains key

end KeyState

namespace Keypad

/-- The virtual keys and their host keys. When several keys go down at once, the first wins. -/
def layout : List (UInt8 × HostKey) :=
  [(0x1, .digit1), (0x2, .digit2), (0x3, .digit3), (0xC, .digit4),
    (0x4, .q), (0x5, .w), (0x6, .e), (0xD, .r),
    (0x7, .a), (0x8, .s), (0x9, .d), (0xE, .f),
    (0xA, .z), (0x0, .x), (0xB, .c), (0xF, .v)]

def hostKey? (virtualKey : UInt8) : Option HostKey :=
  (layout.find? fun entry => entry.1 = virtualKey).map Prod.snd

def virtualKey? (key : HostKey) : Option UInt8 :=
  (layout.find? fun entry => entry.2 = key).map Prod.fst

def isHeld (keys : KeyState) (virtualKey : UInt8) : Bool :=
  match hostKey? virtualKey with
  | some key => keys.held key
  | none => false

def firstPressed? (keys : KeyState) : Option UInt8 :=
  (layout.find? fun entry => keys.pressed entry.2).map Prod.fst

end Keypad

end Chip8
