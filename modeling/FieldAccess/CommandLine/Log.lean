import FieldAccess.Manifest.Environment
import FieldAccess.Text.Lowercase

/-!
# The log

What commands log about manifests and schema documents, and the filter that says which of it is
shown. A filter is a text of a language of its own, of which the library knows the names of levels.

## Main definitions

* `LogRecord` – what is logged.
* `LogFilter`, `LogFilter.Reader` – filters, and ways to read them.
* `LogFilter.chosen` – the filter of a command.
-/

namespace FieldAccess.CommandLine

/-- What commands log about manifests and schema documents. -/
inductive LogRecord where
  /-- What is reported while a manifest is loaded. -/
  | notice (reported : Notice)
  /-- The block of a type of a schema document could not be read. -/
  | unreadType (name : String)
  deriving Repr, DecidableEq

namespace LogRecord

/-- The importance of a record. -/
def level : LogRecord → NoticeLevel
  | .notice reported => reported.level
  | .unreadType _ => .warn

/-- The wording of a record. -/
def message : LogRecord → String
  | .notice reported => reported.message
  | .unreadType name =>
    "Skipping type whose block could not be read type_name=" ++ Text.quoted name

end LogRecord

/-- The records that are let through. -/
abbrev LogFilter := LogRecord → Bool

namespace LogFilter

/-- Reads a filter. A text that is none is a fault, of which the causes are told. -/
abbrev Reader := String → Except (List String) LogFilter

/-- The records of a level, and those that are more important. Levels are named in letters of either
case or numbered; an empty text stands for errors. Other filters are not known. -/
def ofLevel : Reader := fun text =>
  let text := String.ofList (Text.lowercase text.toList)
  if ["", "off", "0", "error", "1"].contains text then .ok fun _ => false
  else if ["warn", "2"].contains text then .ok fun record => record.level = .warn
  else if ["info", "3", "debug", "4", "trace", "5"].contains text then .ok fun _ => true
  else .error ["invalid filter directive"]

/-- The variable for the filter. -/
def variableName : String := "RUST_LOG"

/-- The filter of a command. The variable counts before the level that the command line gives, if
its value is a filter. -/
def chosen (read : Reader) (env : Environment) (level : String) : Except (List String) LogFilter :=
  match (env.get? variableName).map read with
  | some (.ok filter) => .ok filter
  | _ => read level

end LogFilter

end FieldAccess.CommandLine
