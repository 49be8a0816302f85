import FaultPages.Fault
import FaultPages.Files.Tree
import FaultPages.Toml.Reader

/-! # Settings from TOML

    Every entry is optional and overrides one default; entries of other names
    are passed over.  A table of settings may also be written as an array of its
    values in order, from which the last may be missing. -/

namespace FaultPages

open Toml

mutual

/-- Whether every number in a value could be read.  Entries that are passed over
    are still read. -/
def Toml.Value.isReadable : Value → Bool
  | .number fits => fits
  | .array items => allReadable items
  | .table _ entries => entriesReadable entries
  | .tables items => tablesReadable items
  | _ => true

/-- Whether every item could be read. -/
def allReadable : List Value → Bool
  | [] => true
  | item :: items => item.isReadable && allReadable items

/-- Whether every entry could be read. -/
def entriesReadable : List (Text × Value) → Bool
  | [] => true
  | (_, value) :: entries => value.isReadable && entriesReadable entries

/-- Whether every table could be read. -/
def tablesReadable : List (List (Text × Value)) → Bool
  | [] => true
  | entries :: items => entriesReadable entries && tablesReadable items

end

/-- The parts of a value that is taken for a table of settings: named entries,
    or values that stand for the given names in order.  A date or a time counts
    as a table that names none of them. -/
def settingEntries? (names : List String) : Value → Option Entries
  | .table _ entries => some entries
  | .array items => some ((names.map String.toList).zip items)
  | .tables items =>
    some ((names.map String.toList).zip (items.map fun entries => .table .header entries))
  | .moment => some []
  | _ => none

/-- A string. -/
def stringSetting? : Value → Option Text
  | .string t => some t
  | _ => none

/-- A truth value. -/
def flagSetting? : Value → Option Bool
  | .boolean flag => some flag
  | _ => none

namespace TraceInclusion

/-- The name of a mode. -/
def name : TraceInclusion → String
  | .never => "never"
  | .always => "always"
  | .onTraceParam => "on_trace_param"

/-- The mode of a name. -/
def ofName? (t : Text) : Option TraceInclusion :=
  [never, always, onTraceParam].find? fun mode => mode.name.toList == t

/-- A mode: its name, or a table whose only key is the name, over nothing. -/
def setting? : Value → Option TraceInclusion
  | .string t => ofName? t
  | .table _ [(key, .table _ [])] => ofName? key
  | .table _ [(key, .array [])] => ofName? key
  | _ => none

end TraceInclusion

namespace WhitelabelSettings

/-- Override one setting. -/
def override (s : WhitelabelSettings) (entry : Text × Value) : Option WhitelabelSettings :=
  let (key, value) := entry
  if key = "enabled".toList then (flagSetting? value).map fun flag => { s with enabled := flag }
  else if value.isReadable then some s else none

/-- The settings of a value. -/
def setting? (value : Value) : Option WhitelabelSettings :=
  (settingEntries? ["enabled"] value).bind fun entries => entries.foldlM override {}

end WhitelabelSettings

namespace ErrorSettings

/-- Override one setting. -/
def override (s : ErrorSettings) (entry : Text × Value) : Option ErrorSettings :=
  let (key, value) := entry
  if key = "path".toList then (stringSetting? value).map fun t => { s with path := t }
  else if key = "include_stacktrace".toList then
    (TraceInclusion.setting? value).map fun mode => { s with includeTrace := mode }
  else if key = "include_exception".toList then
    (flagSetting? value).map fun flag => { s with includeException := flag }
  else if key = "whitelabel".toList then
    (WhitelabelSettings.setting? value).map fun w => { s with whitelabel := w }
  else if value.isReadable then some s else none

/-- The settings of a value. -/
def setting? (value : Value) : Option ErrorSettings :=
  (settingEntries? ["path", "include_stacktrace", "include_exception", "whitelabel"] value).bind
    fun entries => entries.foldlM override {}

end ErrorSettings

namespace Settings

/-- Override one setting. -/
def override (s : Settings) (entry : Text × Value) : Option Settings :=
  let (key, value) := entry
  if key = "context_path".toList then
    (stringSetting? value).map fun t => { s with contextPath := t }
  else if key = "servlet_path".toList then
    (stringSetting? value).map fun t => { s with servletPath := t }
  else if key = "error".toList then
    (ErrorSettings.setting? value).map fun e => { s with error := e }
  else if value.isReadable then some s else none

/-- The settings that a TOML text overrides, over the defaults. -/
def ofEntries? (entries : Entries) : Option Settings := entries.foldlM override {}

/-- The settings of a TOML text, if it can be read and its paths can be
    routes. -/
def ofToml (t : Text) : Except SettingsFault Settings :=
  match (Toml.parse? t).bind ofEntries? with
  | none => .error .malformed
  | some s =>
    match s.validate with
    | .ok () => .ok s
    | .error fault => .error (.path fault)

/-- The settings of a file, given what is found under its name. -/
def load (name : Text) (entry : Option FileEntry) : Except SettingsFault Settings :=
  match entry with
  | none => .error (.missing name)
  | some found =>
    match found.read with
    | .error fault => .error (.unreadable fault)
    | .ok t => ofToml t

end Settings

end FaultPages
