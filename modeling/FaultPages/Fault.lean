import FaultPages.Files.IoFault
import FaultPages.Path.Basic
import FaultPages.Settings.Basic
import FaultPages.Text.Quoted

/-! # Faults — why settings or views cannot be had

    Causes are told apart by type, and each has one wording. -/

namespace FaultPages

/-- Why settings cannot be used. -/
inductive SettingsFault where
  /-- There is no file of that name. -/
  | missing (name : Text)
  | unreadable (fault : IoFault)
  /-- The text is no TOML, or its values do not fit the settings. -/
  | malformed
  | path (fault : Settings.PathFault)
  deriving DecidableEq, Repr

/-- The wording of a cause. -/
def SettingsFault.text : SettingsFault → String
  | .missing name => "Configuration file not found: " ++ String.ofList (Text.shown name)
  | .unreadable fault => "Failed to read configuration file: " ++ fault.text
  | .malformed => "Failed to parse configuration file"
  | .path fault => fault.text

/-- A fault of settings, of a template, or of input and output. -/
inductive Fault where
  | settings (cause : SettingsFault)
  | template (fault : ExpressionFault)
  | io (fault : IoFault)
  deriving DecidableEq, Repr

/-- The message of a fault. -/
def Fault.message : Fault → String
  | .settings cause => "Configuration error: " ++ cause.text
  | .template fault => "Template error: " ++ fault.message
  | .io fault => fault.message

end FaultPages
