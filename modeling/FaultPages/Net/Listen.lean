import FaultPages.Net.Address

/-! # Where to listen — the port and the host of a server

    Both come from the environment and have defaults.  A port has to be a
    number below 65536; the host is only looked at when an address is made. -/

namespace FaultPages

/-- Why a text is no port. -/
inductive PortFault where
  | noDigits
  | notADigit
  | tooLarge
  deriving DecidableEq, Repr

/-- Why there is no address to listen on. -/
inductive ListenFault where
  | port (text : Text) (fault : PortFault)
  | host (text : Text)
  deriving DecidableEq, Repr

/-- The wording of a refused port. -/
def PortFault.text : PortFault → String
  | .noDigits => "cannot parse integer from empty string"
  | .notADigit => "invalid digit found in string"
  | .tooLarge => "number too large to fit in target type"

/-- The message of a fault. -/
def ListenFault.message : ListenFault → String
  | .port t fault => "Invalid API_PORT '" ++ String.ofList t ++ "': " ++ fault.text
  | .host t => "Invalid host '" ++ String.ofList t ++ "': invalid IP address syntax"

/-- The least number that is no port. -/
def portBound : Nat := 65536

/-- Read the digits of a port after a number already read.  The first fault from
    the left is reported. -/
def portDigits (n : Nat) : Text → Except PortFault Nat
  | [] => .ok n
  | c :: rest =>
    if !c.isDigit then .error .notADigit
    else
      let next := 10 * n + (c.toNat - '0'.toNat)
      if next < portBound then portDigits next rest else .error .tooLarge

/-- The port that a text writes, perhaps with a plus sign. -/
def port (t : Text) : Except PortFault Nat :=
  match t with
  | [] => .error .noDigits
  | ['+'] => .error .notADigit
  | '+' :: rest => portDigits 0 rest
  | _ => portDigits 0 t

/-- Where a server listens. -/
structure ListenConfig where
  port : Nat := 8080
  host : Text := "0.0.0.0".toList
  deriving DecidableEq, Repr

namespace ListenConfig

/-- The configuration that the environment gives, each variable of which may be
    missing. -/
def ofEnvironment (portText hostText : Option Text) : Except ListenFault ListenConfig :=
  let defaults : ListenConfig := {}
  let host := hostText.getD defaults.host
  match portText with
  | none => .ok { defaults with host := host }
  | some t =>
    match FaultPages.port t with
    | .ok n => .ok ⟨n, host⟩
    | .error fault => .error (.port t fault)

/-- The address to listen on, as it is written. -/
def socketAddress (c : ListenConfig) : Except ListenFault Text :=
  match IpAddress.parse? c.host with
  | some address => .ok (address.withPort c.port)
  | none => .error (.host c.host)

end ListenConfig

end FaultPages
