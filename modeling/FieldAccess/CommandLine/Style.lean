import FieldAccess.Manifest.Loading

/-!
# Styles

How what commands show is set off: in colours, bold or faint. Styles are for terminals, and
variables of the environment can demand or forbid them.

## Main definitions

* `Style` – the styles.
* `Appearance` – whether texts are shown in styles.
* `Appearance.styledAs` – a text in a style.
-/

namespace FieldAccess.CommandLine

/-- A style. -/
inductive Style where
  | title
  | heading
  | faint
  | success
  | warning
  | refusal
  | fault
  deriving Repr, DecidableEq

/-- The code of a style for terminals. -/
def Style.code : Style → String
  | title => "1;32"
  | heading => "1"
  | faint => "2"
  | success => "32"
  | warning => "33"
  | refusal => "31"
  | fault => "1;31"

/-- Whether texts are shown in styles: those of the commands, and the faults of command lines. -/
structure Appearance where
  styled : Bool := false
  styledFaults : Bool := false
  deriving Repr, DecidableEq

namespace Appearance

/-- Starts a sequence of characters that terminals do not show. -/
def escape : String := String.singleton (Char.ofNat 27) ++ "["

/-- Ends all styles. -/
def reset : String := escape ++ "0m"

/-- Whether a variable is set to some text. -/
def isFilled (env : Environment) (name : String) : Bool := (env.get? name).any (· ≠ "")

/-- The appearance on a machine. One variable demands styles, unless it is zero, and another one
forbids them, whatever its value; what demands styles counts first. For faults both count if they
hold some text, and what forbids styles counts first. -/
def ofMachine (machine : Machine) : Appearance :=
  let env := machine.env
  let usual := machine.isTerminal && env.get? "CLICOLOR" ≠ some "0"
  { styled := (env.get? "CLICOLOR_FORCE").any (· ≠ "0") || ((env.get? "NO_COLOR").isNone && usual)
    styledFaults := !isFilled env "NO_COLOR" && (isFilled env "CLICOLOR_FORCE" || usual) }

/-- A text in a style. After the end of other styles inside of it the style begins anew. -/
def inStyle (style : Style) (text : String) : String :=
  let start := escape ++ style.code ++ "m"
  start ++ (reset ++ start).intercalate (text.splitOn reset) ++ reset

/-- A text as it is shown in a style. -/
def styledAs (look : Appearance) (style : Style) (text : String) : String :=
  if look.styled then inStyle style text else text

end Appearance

end FieldAccess.CommandLine
