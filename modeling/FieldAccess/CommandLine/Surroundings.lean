import FieldAccess.CommandLine.Command
import FieldAccess.CommandLine.Log
import FieldAccess.Manifest.Loading

/-!
# Surroundings of a command line

The files and the variables that a command line can depend on, so that they can be looked up before
the command is carried out. Names that mean nothing may be among them.

## Main definitions

* `mentionedPaths` – the paths that a command line can lead to.
* `mentionedVariables` – the variables that a command line can depend on.
-/

namespace FieldAccess.CommandLine

/-- What a word may mean: the word itself, the value of a long option, or that of a short one. -/
def readings (word : String) : List String :=
  let chars := word.toList
  [word, String.ofList ((chars.dropWhile (· ≠ '=')).drop 1), String.ofList (chars.drop 2),
    String.ofList (chars.drop 3)].filter (!·.isEmpty)

/-- The paths that a command line can lead to. -/
def mentionedPaths (machine : Machine) (words : List String) : List String :=
  defaultOutput :: words.flatMap readings ++ machine.usualPlaces

/-- A character of the name of a variable. -/
def isVariableChar (c : Char) : Bool := Text.isAsciiLetter c || Text.isDigit c || c = '_'

/-- The names of variables that a text may mention. -/
def namesIn (text : String) : List String :=
  ((Text.splitOn (fun c => !isVariableChar c) text.toList).filter (!·.isEmpty)).map String.ofList

/-- The variables that commands know of by themselves. -/
def knownVariables : List String :=
  ["HOME", "CLICOLOR", "CLICOLOR_FORCE", "NO_COLOR", LogFilter.variableName] ++
    OverrideVariable.all.map OverrideVariable.name ++
    (grammar.common ++ grammar.levels.flatMap (·.options)).filterMap (·.stand)

/-- The variables that a command line can depend on, when the files that it can lead to hold the
given texts. -/
def mentionedVariables (words texts : List String) : List String :=
  (knownVariables ++ words.flatMap namesIn ++ texts.flatMap namesIn).eraseDups

end FieldAccess.CommandLine
