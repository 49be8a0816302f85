/-! # Faults of input and output -/

namespace FaultPages

/-- Why bytes were not read or written. -/
inductive IoFault where
  /-- A fault of the device, by its text. -/
  | device (text : String)
  /-- A write that took no bytes at all. -/
  | wroteNothing
  /-- A folder was read as a file. -/
  | isFolder
  /-- A file was read as text and is not UTF-8. -/
  | notUtf8
  deriving DecidableEq, Repr

/-- The wording of a fault. -/
def IoFault.text : IoFault → String
  | .device text => text
  | .wroteNothing => "failed to write whole buffer"
  | .isFolder => "Is a directory (os error 21)"
  | .notUtf8 => "stream did not contain valid UTF-8"

/-- The message of a fault. -/
def IoFault.message (f : IoFault) : String := "IO error: " ++ f.text

end FaultPages
