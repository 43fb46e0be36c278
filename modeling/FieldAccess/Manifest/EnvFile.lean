import FieldAccess.Files.Tree
import FieldAccess.Manifest.Environment

/-!
# Variables in a file

Variables can be set in a file, a line `NAME=value` for each. Values may stand between quotes, refer
to other variables with a dollar sign and span lines inside quotes. Variables that are set already
keep their values. Where a line breaks the rules, the rest of the file does not count. The file is
looked for in a directory and in all directories above it; the nearest one counts.

## Main definitions

* `EnvFile.find?` – the text of the file that counts.
* `EnvFile.lines` – the lines of a file, without comments.
* `EnvFile.readLine` – the variable that a line sets.
* `Environment.withFile` – an environment with the variables of a file.
-/

namespace FieldAccess

namespace EnvFile

open Text

/-! ### The file -/

/-- The name of the file. -/
def fileName : String := ".env"

/-- The names on the way to the places where the file can be, the nearest one first. -/
def places (directory : List String) : List (List String) :=
  (List.range (directory.length + 1)).reverse.map fun depth => directory.take depth ++ [fileName]

/-- The lines of a text that end. -/
def endedLines (text : String) : String :=
  String.ofList (text.toList.reverse.dropWhile (· ≠ '\n')).reverse

/-- The text of the nearest file. Of a file of other bytes the lines count in front of the first one
that is no text. A directory of that name is passed over. -/
def find? (tree : FileTree) : Option String :=
  (places tree.directory).findSome? fun names =>
    (tree.files.lookup names).map fun text =>
      text.getD (endedLines ((tree.leads.lookup names).getD ""))

/-! ### Lines -/

/-- Where in a line the next character stands. -/
inductive Place where
  | start
  | afterBlank
  | afterBackslash
  | inDouble
  | inDoubleAfterBackslash
  | inSingle
  | inSingleAfterBackslash
  | inComment
  deriving Repr, DecidableEq

/-- The place outside of quotes after a character. -/
def Place.outside (c : Char) : Place :=
  if c = '\\' then .afterBackslash
  else if c = '"' then .inDouble
  else if c = '\'' then .inSingle
  else .start

/-- The place after a character. -/
def Place.after (c : Char) : Place → Place
  | start =>
    if isBlank c && c ≠ '\n' && c ≠ '\r' then .afterBlank else outside c
  | afterBlank => outside c
  | afterBackslash => .start
  | inDouble =>
    if c = '\\' then .inDoubleAfterBackslash else if c = '"' then .start else .inDouble
  | inDoubleAfterBackslash => .inDouble
  | inSingle =>
    if c = '\\' then .inSingleAfterBackslash else if c = '\'' then .start else .inSingle
  | inSingleAfterBackslash => .inSingle
  | inComment => .inComment

/-- The lines of a text without comments, where `line` holds what came before on the same line, in
reverse. A line that does not end is `none`. -/
def linesFrom (place : Place) (line : List Char) : List Char → List (Option (List Char))
  | [] =>
    if place = .inComment then []
    else if place ≠ .start then [none]
    else if line.isEmpty then []
    else [some line.reverse]
  | c :: rest =>
    if place = .inComment then linesFrom (if c = '\n' then .start else .inComment) [] rest
    else if c = '#' && line.all isBlank then linesFrom .inComment [] rest
    else if c = '#' && place = .afterBlank then some line.reverse :: linesFrom .inComment [] rest
    else
      let next := place.after c
      if c = '\n' && next = .start then
        some (withoutReturn line.reverse) :: linesFrom .start [] rest
      else linesFrom next (c :: line) rest

/-- The lines of a text without comments. -/
def lines (text : List Char) : List (Option (List Char)) := linesFrom .start [] text

/-! ### Values -/

/-- Where in a value the next character stands. `quoted` tells whether it is between double
quotes. -/
inductive ValuePlace where
  | plain (quoted : Bool)
  | single
  | escape (quoted : Bool)
  /-- After a dollar sign, in the name of a variable. -/
  | name (quoted : Bool) (name : List Char)
  /-- After a dollar sign, in a name in braces. -/
  | braced (quoted : Bool) (name : List Char)
  /-- After the value. -/
  | ended
  deriving Repr, DecidableEq

/-- What a character after a backslash stands for. -/
def escaped? (c : Char) : Option Char :=
  if c = 'n' then some '\n' else if ['\\', '\'', '"', '$', ' '].contains c then some c else none

/-- The rest of a value, in which variables have the given values. -/
def valueFrom (values : String → String) : ValuePlace → List Char → Option (List Char)
  | .plain quoted, [] => if quoted then none else some []
  | .single, [] => none
  | .escape quoted, [] => if quoted then none else some []
  | .name quoted name, [] => if quoted then none else some (values (String.ofList name)).toList
  | .braced .., [] => none
  | .ended, [] => some []
  | .plain quoted, c :: rest =>
    if c = '$' then valueFrom values (.name quoted []) rest
    else if c = '\\' then valueFrom values (.escape quoted) rest
    else if c = '"' then valueFrom values (.plain !quoted) rest
    else if !quoted && c = '\'' then valueFrom values .single rest
    else if !quoted && (c = ' ' || c = '\t') then valueFrom values .ended rest
    else (valueFrom values (.plain quoted) rest).map (c :: ·)
  | .single, c :: rest =>
    if c = '\'' then valueFrom values (.plain false) rest
    else (valueFrom values .single rest).map (c :: ·)
  | .escape quoted, c :: rest => do
    let c ← escaped? c
    return c :: (← valueFrom values (.plain quoted) rest)
  | .name quoted name, c :: rest =>
    if isAlphanumeric c then valueFrom values (.name quoted (name ++ [c])) rest
    else if c = '\x7b' && name.isEmpty then valueFrom values (.braced quoted []) rest
    else do
      let value := (values (String.ofList name)).toList
      if c = '$' then return value ++ (← valueFrom values (.name quoted []) rest)
      else return value ++ c :: (← valueFrom values (.plain quoted) rest)
  | .braced quoted name, c :: rest =>
    if c = '\x7d' then do
      return (values (String.ofList name)).toList ++ (← valueFrom values (.plain quoted) rest)
    else valueFrom values (.braced quoted (name ++ [c])) rest
  | .ended, c :: rest =>
    if c = ' ' || c = '\t' then valueFrom values .ended rest
    else if c = '#' then some []
    else none

/-! ### Variables -/

/-- A character of a name. -/
def isNameChar (c : Char) : Bool := isAsciiLetter c || isDigit c || c = '_' || c = '.'

/-- The name that a text starts with, and what follows. -/
def name? (text : List Char) : Option (List Char × List Char) :=
  match text with
  | c :: _ => if isAsciiLetter c || c = '_' then some (text.span isNameChar) else none
  | [] => none

/-- The name that a line sets, which may follow the word `export`, and what follows the sign of
equality. -/
def assignment? (line : List Char) : Option (String × List Char) := do
  let (name, rest) ← name? line
  match trimStart rest with
  | '=' :: value => return (String.ofList name, value)
  | rest =>
    if name ≠ "export".toList then none
    let (name, rest) ← name? rest
    match trimStart rest with
    | '=' :: value => return (String.ofList name, value)
    | _ => none

/-- What a line of a file holds. -/
inductive Line where
  | nothing
  | fault
  | sets (name value : String)
  deriving Repr, DecidableEq

/-- What a line holds, in which variables have the given values. -/
def readLine (values : String → String) (line : List Char) : Line :=
  let line := trim line
  if line.isEmpty || line.head? = some '#' then .nothing
  else
    match assignment? line with
    | none => .fault
    | some (name, value) =>
      let value := trimStart value
      if value.isEmpty || value.head? = some '#' then .sets name ""
      else
        match valueFrom values (.plain false) value with
        | some value => .sets name (String.ofList value)
        | none => .fault

/-- An environment with the variables that lines set. `file` are the variables that the lines
before have set, which count for references only if they are not set otherwise. -/
def apply (env file : Environment) : List (Option (List Char)) → Environment
  | [] => env
  | none :: _ => env
  | some line :: rest =>
    match readLine (fun name => ((env.get? name).or (file.get? name)).getD "") line with
    | .nothing => apply env file rest
    | .fault => env
    | .sets name value =>
      apply (if (env.get? name).isSome then env else env ++ [(name, value)])
        ((name, value) :: file) rest

end EnvFile

/-- An environment with the variables of a file. -/
def Environment.withFile (env : Environment) (text : String) : Environment :=
  let text := match text.toList with
    | '\ufeff' :: text => text
    | text => text
  EnvFile.apply env [] (EnvFile.lines text)

end FieldAccess
