import FieldAccess.Net.Domain
import FieldAccess.Net.Percent

/-!
# Hosts

The host of an address: a domain name, or an address of version 4 or 6 of the internet protocol. A
name whose last part is a number is an address of version 4, whose parts may be written in decimal,
octal and hexadecimal notation.

## Main definitions

* `Host`, `Host.toText` – hosts and their written form.
* `AddressFault` – what can be wrong with an address.
* `Host.read` – reading of a host.
-/

namespace FieldAccess.Net

open Text

/-- What can be wrong with an address. -/
inductive AddressFault where
  | emptyHost
  | invalidDomain
  | invalidCharacter
  | invalidV4
  | invalidV6
  | invalidPort
  | noScheme
  deriving Repr, DecidableEq

/-- The wording of a fault. -/
def AddressFault.message : AddressFault → String
  | emptyHost => "empty host"
  | invalidDomain => "invalid international domain name"
  | invalidCharacter => "invalid domain character"
  | invalidV4 => "invalid IPv4 address"
  | invalidV6 => "invalid IPv6 address"
  | invalidPort => "invalid port number"
  | noScheme => "relative URL without a base"

/-- A host. -/
inductive Host where
  | domain (name : List Char)
  | v4 (address : Nat)
  | v6 (pieces : List Nat)
  deriving Repr, DecidableEq

namespace Host

/-! ### Addresses of version 4 -/

/-- The number that digits write in a base. -/
def numberIn? (base : Nat) (digits : List Char) : Option Nat :=
  digits.foldlM (fun n c => do
    let d ← hexValue? c
    if d < base then some (n * base + d) else none) 0

/-- Reads a part of an address of version 4. A prefix alone stands for zero. -/
def partV4? : List Char → Option Nat
  | [] => none
  | '0' :: 'x' :: rest | '0' :: 'X' :: rest => numberIn? 16 rest
  | '0' :: rest => numberIn? 8 rest
  | digits => numberIn? 10 digits

/-- The parts of a name between points, without an empty last one. -/
def labels (name : List Char) : List (List Char) :=
  let parts := splitOn (· == '.') name
  if parts.getLast? = some [] then parts.dropLast else parts

/-- Whether the last part of a name is a number. -/
def endsInNumber (name : List Char) : Bool :=
  match (labels name).getLast? with
  | none | some [] => false
  | some part => part.all isDigit || (partV4? part).isSome

/-- The address of the parts `numbers`, of which the last one fills up all remaining bytes. -/
def addressV4? (numbers : List Nat) : Option Nat :=
  match numbers.getLast? with
  | none => none
  | some last =>
    let leading := numbers.dropLast
    let room := Nat.pow 256 (4 - leading.length)
    if numbers.length ≤ 4 && leading.all (· < 256) && last < room then
      some (leading.foldl (fun n part => n * 256 + part) 0 * room + last)
    else none

/-- Reads an address of version 4. -/
def readV4 (name : List Char) : Except AddressFault Host :=
  match ((labels name).mapM partV4?).bind addressV4? with
  | some address => .ok (.v4 address)
  | none => .error .invalidV4

/-! ### Addresses of version 6 -/

/-- The pieces read so far, and where the gap is that is filled up with zeros. -/
structure PiecesV6 where
  pieces : List Nat := []
  gap : Option Nat := none

/-- Reads a decimal number below 256 without leading zeros. -/
def byteV4? (digits : List Char) : Option Nat :=
  match digits with
  | [] => none
  | ['0'] => some 0
  | '0' :: _ => none
  | digits =>
    if digits.all isDigit && digits.length ≤ 3 then (numberIn? 10 digits).filter (· < 256) else none

/-- Reads the last two pieces, written as an address of version 4. -/
def tailV4? (text : List Char) (done : PiecesV6) : Option PiecesV6 :=
  match (splitOn (· == '.') text).mapM byteV4? with
  | some [a, b, c, d] =>
    if done.pieces.length ≤ 6 then
      some { done with pieces := done.pieces ++ [a * 256 + b, c * 256 + d] }
    else none
  | _ => none

/-- Reads pieces of at most four hexadecimal digits. `fuel` bounds their number. -/
def piecesV6? : (fuel : Nat) → PiecesV6 → List Char → Option PiecesV6
  | _, done, [] => some done
  | 0, _, _ => none
  | fuel + 1, done, text =>
    if done.pieces.length = 8 then none
    else
      match text with
      | ':' :: rest =>
        if done.gap.isSome then none
        else
          let pieces := done.pieces ++ [0]
          piecesV6? fuel { pieces, gap := some pieces.length } rest
      | text =>
        let digits := (text.take 4).takeWhile fun c => (hexValue? c).isSome
        let value := (numberIn? 16 digits).getD 0
        match text.drop digits.length with
        | [] => some { done with pieces := done.pieces ++ [value] }
        | ':' :: c :: rest =>
          piecesV6? fuel { done with pieces := done.pieces ++ [value] } (c :: rest)
        | '.' :: _ => tailV4? text done
        | _ => none

/-- The eight pieces, when the gap is filled up. -/
def filledV6? (done : PiecesV6) : Option (List Nat) :=
  match done.gap with
  | some gap =>
    let zeros := List.replicate (8 - done.pieces.length) 0
    some (done.pieces.take gap ++ zeros ++ done.pieces.drop gap)
  | none => if done.pieces.length = 8 then some done.pieces else none

/-- Reads an address of version 6, without its brackets. -/
def readV6 (text : List Char) : Except AddressFault Host :=
  let read := match text with
    | ':' :: ':' :: rest => piecesV6? text.length { pieces := [0], gap := some 1 } rest
    | ':' :: _ | [] | [_] => none
    | text => piecesV6? text.length {} text
  match read.bind filledV6? with
  | some pieces => .ok (.v6 pieces)
  | none => .error .invalidV6

/-! ### Hosts -/

/-- Reads a host in brackets, after the opening one. -/
def readBracketed (text : List Char) : Except AddressFault Host :=
  if text.getLast? = some ']' then readV6 text.dropLast else .error .invalidV6

/-- Reads the host of an address with a scheme that is known. -/
def read (text : List Char) : Except AddressFault Host :=
  match text with
  | '[' :: rest => readBracketed rest
  | text => do
    let name ← ((percentDecode? text).bind Domain.read?).elim (.error .invalidDomain) .ok
    if name.isEmpty then .error .emptyHost
    else if endsInNumber name then readV4 name
    else .ok (.domain name)

/-- The characters that the host of an address with an unknown scheme does not contain. -/
def opaqueRefused : List Char :=
  ['\x00', '\t', '\n', '\r', ' ', '#', '/', ':', '<', '>', '?', '@', '[', '\\', ']', '^', '|']

/-- Reads the host of an address with an unknown scheme. -/
def readOpaque (text : List Char) : Except AddressFault Host :=
  match text with
  | '[' :: rest => readBracketed rest
  | text =>
    if text.any opaqueRefused.contains then .error .invalidCharacter
    else .ok (.domain (percentEncode (fun _ => false) text))

/-! ### Writing -/

/-- A number in hexadecimal digits. -/
def hexText (n : Nat) : List Char := Nat.toDigits 16 n

/-- The start and the length of the first longest run of at least two zeros. -/
def longestZeros (pieces : List Nat) : Option (Nat × Nat) :=
  let runs := (List.range pieces.length).map fun i =>
    (i, ((pieces.drop i).takeWhile (· == 0)).length)
  let best := runs.foldl (fun best run => if best.2 < run.2 then run else best) (0, 0)
  if 2 ≤ best.2 then some best else none

/-- Pieces with colons between them. -/
def piecesText (pieces : List Nat) : List Char := joined [':'] (pieces.map hexText)

/-- The written form of a host. -/
def toText : Host → List Char
  | domain name => name
  | v4 address =>
    joined ['.'] ([3, 2, 1, 0].map fun i => (toString (address / Nat.pow 256 i % 256)).toList)
  | v6 pieces =>
    match longestZeros pieces with
    | none => '[' :: piecesText pieces ++ [']']
    | some (start, size) =>
      '[' :: piecesText (pieces.take start) ++ ':' :: ':' ::
        piecesText (pieces.drop (start + size)) ++ [']']

end Host

end FieldAccess.Net
