/-!
# Faults in a YAML text

Which rule of the format a text breaks, where, and what was being read there.

## Main definitions

* `Mark` – a place in a text as it is told.
* `Problem`, `Activity` – the rules that can be broken, and what may be read meanwhile.
* `SyntaxFault`, `SyntaxFault.message` – a fault and its wording.
-/

namespace FieldAccess.Yaml

/-- A place in a text as it is told. -/
structure Mark where
  /-- The number of lines before. -/
  line : Nat
  /-- The number of characters before on the same line. -/
  column : Nat
  deriving Repr, DecidableEq, Inhabited

/-- The words for a place. The start of the text has none. -/
def Mark.words (mark : Mark) : String :=
  if mark.line = 0 && mark.column = 0 then ""
  else s!" at line {mark.line + 1} column {mark.column + 1}"

/-- The rules of the format, each by the way in which it is broken. -/
inductive Problem where
  | strayCharacter
  | missingColon
  | misplacedItem
  | misplacedKey
  | misplacedValue
  | unknownDirective
  | missingDirectiveName
  | strayInDirectiveName
  | missingVersion
  | missingVersionPoint
  | longVersion
  | missingLineEnd
  | missingBlank
  | missingBlankOrBreak
  | missingName
  | missingExclamation
  | missingTagText
  | missingOctet
  | firstOctet
  | laterOctet
  | unclosedTag
  | depthOfZero
  | tabForDepth
  | documentInQuotes
  | unclosedQuotes
  | unknownEscape
  | missingDigit
  | noCharacter
  | strayColon
  | shallowTab
  | secondVersion
  | otherVersion
  | secondHandle
  | unknownHandle
  | missingDocument
  | missingContent
  | missingItem
  | missingKey
  | unclosedList
  | unclosedTable
  deriving Repr, DecidableEq, Inhabited

/-- The wording of a problem. -/
def Problem.message : Problem → String
  | strayCharacter => "found character that cannot start any token"
  | missingColon => "could not find expected ':'"
  | misplacedItem => "block sequence entries are not allowed in this context"
  | misplacedKey => "mapping keys are not allowed in this context"
  | misplacedValue => "mapping values are not allowed in this context"
  | unknownDirective => "found unknown directive name"
  | missingDirectiveName => "could not find expected directive name"
  | strayInDirectiveName => "found unexpected non-alphabetical character"
  | missingVersion => "did not find expected version number"
  | missingVersionPoint => "did not find expected digit or '.' character"
  | longVersion => "found extremely long version number"
  | missingLineEnd => "did not find expected comment or line break"
  | missingBlank => "did not find expected whitespace"
  | missingBlankOrBreak => "did not find expected whitespace or line break"
  | missingName => "did not find expected alphabetic or numeric character"
  | missingExclamation => "did not find expected '!'"
  | missingTagText => "did not find expected tag URI"
  | missingOctet => "did not find URI escaped octet"
  | firstOctet => "found an incorrect leading UTF-8 octet"
  | laterOctet => "found an incorrect trailing UTF-8 octet"
  | unclosedTag => "did not find the expected '>'"
  | depthOfZero => "found an indentation indicator equal to 0"
  | tabForDepth => "found a tab character where an indentation space is expected"
  | documentInQuotes => "found unexpected document indicator"
  | unclosedQuotes => "found unexpected end of stream"
  | unknownEscape => "found unknown escape character"
  | missingDigit => "did not find expected hexadecimal number"
  | noCharacter => "found invalid Unicode character escape code"
  | strayColon => "found unexpected ':'"
  | shallowTab => "found a tab character that violates indentation"
  | secondVersion => "found duplicate %YAML directive"
  | otherVersion => "found incompatible YAML document"
  | secondHandle => "found duplicate %TAG directive"
  | unknownHandle => "found undefined tag handle"
  | missingDocument => "did not find expected <document start>"
  | missingContent => "did not find expected node content"
  | missingItem => "did not find expected '-' indicator"
  | missingKey => "did not find expected key"
  | unclosedList => "did not find expected ',' or ']'"
  | unclosedTable => "did not find expected ',' or '\x7d'"

/-- What is read while a rule is broken. -/
inductive Activity where
  | token
  | simpleKey
  | directive
  | versionDirective
  | tagDirective
  | tagDirectiveHandle
  | tagDirectiveName
  | tagDirectiveText
  | anchor
  | reference
  | tag
  | tagText
  | block
  | quoted
  | escape
  | plain
  | node
  | blockNode
  | flowNode
  | blockList
  | blockTable
  | flowList
  | flowTable
  deriving Repr, DecidableEq, Inhabited

/-- The words for an activity. -/
def Activity.words : Activity → String
  | token => "while scanning for the next token"
  | simpleKey => "while scanning a simple key"
  | directive => "while scanning a directive"
  | versionDirective => "while scanning a %YAML directive"
  | tagDirective => "while scanning a %TAG directive"
  | tagDirectiveHandle => "while scanning a tag directive"
  | tagDirectiveName => "while parsing a tag directive"
  | tagDirectiveText => "while parsing a %TAG directive"
  | anchor => "while scanning an anchor"
  | reference => "while scanning an alias"
  | tag => "while scanning a tag"
  | tagText => "while parsing a tag"
  | block => "while scanning a block scalar"
  | quoted => "while scanning a quoted scalar"
  | escape => "while parsing a quoted scalar"
  | plain => "while scanning a plain scalar"
  | node => "while parsing a node"
  | blockNode => "while parsing a block node"
  | flowNode => "while parsing a flow node"
  | blockList => "while parsing a block collection"
  | blockTable => "while parsing a block mapping"
  | flowList => "while parsing a flow sequence"
  | flowTable => "while parsing a flow mapping"

/-- Why a text is no document. -/
inductive SyntaxFault where
  /-- A character that may not stand in a text, after so many bytes. -/
  | control (offset : Nat)
  /-- A rule is broken at a place, while something is read that starts at another. -/
  | broken (problem : Problem) (place : Mark) (context : Option (Activity × Mark))
  /-- A reference to an anchor that is not given before. -/
  | unknownAnchor (place : Mark)
  /-- A second document. -/
  | secondDocument
  deriving Repr, DecidableEq, Inhabited

/-- The wording of a fault. -/
def SyntaxFault.message : SyntaxFault → String
  | control offset =>
    "control characters are not allowed" ++ if offset = 0 then "" else s!" at position {offset}"
  | broken problem place none => problem.message ++ place.words
  | broken problem place (some (activity, start)) =>
    problem.message ++ place.words ++ ", " ++ activity.words ++
      if start = place then "" else start.words
  | unknownAnchor place => "unknown anchor" ++ place.words
  | secondDocument =>
    "deserializing from YAML containing more than one document is not supported"

end FieldAccess.Yaml
