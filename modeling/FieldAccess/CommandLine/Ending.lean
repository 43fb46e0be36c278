import FieldAccess.CommandLine.Arguments
import FieldAccess.CommandLine.Log
import FieldAccess.CommandLine.Style
import FieldAccess.Text.Trim

/-!
# How commands end

What a command shows to its user, and how a failure is told: what did not work comes first, and the
causes follow.

## Main definitions

* `Failure` – why a command does not work.
* `Ending` – how a command ends.
-/

namespace FieldAccess.CommandLine

/-- Why a command does not work. -/
structure Failure where
  message : String
  causes : List String := []
  deriving Repr, DecidableEq

namespace Failure

/-- A text of several lines, of which those after the first start with a margin. -/
def withMargin (margin : Nat) (text : String) : String :=
  let lines := (Text.splitOn (· = '\n') text.toList).map String.ofList
  ("\n" ++ String.ofList (List.replicate margin ' ')).intercalate lines

/-- Numbered causes. -/
def numbered (causes : List String) : List String :=
  causes.zipIdx.map fun (cause, n) =>
    let number := toString n
    String.ofList (List.replicate (5 - number.length) ' ') ++ number ++ ": " ++ withMargin 7 cause

/-- The causes as they are shown. A single cause has no number. -/
def causeLines : List String → List String
  | [] => []
  | [cause] => ["", "Caused by:", "    " ++ withMargin 4 cause]
  | causes => "" :: "Caused by:" :: numbered causes

/-- The text of a failure. -/
def text (failure : Failure) : String :=
  "\n".intercalate (("Error: " ++ failure.message) :: causeLines failure.causes) ++ "\n"

end Failure

/-- How a command ends. -/
structure Ending where
  /-- The code that the program ends with. -/
  code : Nat := 0
  /-- What the command shows by itself. The lines of the log stand between its lines, and are not
  among them. -/
  output : String := ""
  /-- What is shown about faults. -/
  errors : String := ""
  files : FileTree
  /-- What goes to the log about manifests and schema documents, in order. What is logged about
  connections, and by a running service, is not among it. -/
  logged : List LogRecord := []
  /-- The service that is to run until it is stopped. -/
  service : Option Manifest := none

namespace Ending

/-- Lines as a text. -/
def linesText (lines : List String) : String := String.join (lines.map (· ++ "\n"))

/-- A command that shows some lines. -/
def shown (files : FileTree) (lines : List String) (logged : List LogRecord := []) : Ending where
  output := linesText lines
  files
  logged

/-- A command that does not work, after it has shown some lines. -/
def failed (files : FileTree) (lines : List String) (failure : Failure)
    (logged : List LogRecord := []) : Ending where
  code := 1
  output := linesText lines
  errors := failure.text
  files
  logged

/-- The name of the program. -/
def programName : String := "pdp"

/-- The version of the program. -/
def programVersion : String := "0.4.0"

/-- A command line that gives no command. -/
def stopped (look : Appearance) (files : FileTree) : Stop → Ending
  | .fault fault =>
    let label := if look.styledFaults then Appearance.inStyle .fault "error:" else "error:"
    { code := 2
      errors := linesText [label ++ " " ++ fault.message, "", "For more information, try '--help'."]
      files }
  | .help path => shown files ["Usage: " ++ " ".intercalate (programName :: path)]
  | .version path => shown files ["-".intercalate (programName :: path) ++ " " ++ programVersion]

end Ending

end FieldAccess.CommandLine
