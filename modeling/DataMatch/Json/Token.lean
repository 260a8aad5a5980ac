import DataMatch.Json.Number
import DataMatch.Text.Bytes

/-! Tokens of JSON text. A faulty token ends the list and says what is wrong with it, so whoever
reads the list can still refuse it for standing where no such token may stand. -/
namespace DataMatch.Json

/-- Why a text is not JSON: it stops inside a value, or it has something that cannot stand there. -/
inductive Fault where
  | unfinished
  | malformed
deriving DecidableEq, Repr

inductive Token where
  | openArray
  | closeArray
  | openObject
  | closeObject
  | comma
  | colon
  | scalar (v : Value)
  | string (s : String)
  | brokenScalar (f : Fault)
  | brokenString (f : Fault)

open Text (isByte)

def isSpace (b : UInt8) : Bool := isByte b ' ' || isByte b '\t' || isByte b '\n' || isByte b '\r'

def isDigitByte (b : UInt8) : Bool := '0'.toUInt8 ≤ b && b ≤ '9'.toUInt8

def digitChars (bytes : Bytes) : List Char := bytes.map Char.ofUInt8

def expectWord : List Char → Bytes → Except Fault Bytes
  | [], bytes => .ok bytes
  | _ :: _, [] => .error .unfinished
  | c :: cs, b :: bytes => if isByte b c then expectWord cs bytes else .error .malformed

def takeDigits (bytes : Bytes) : Except Fault (List Char × Bytes) :=
  let digits := bytes.takeWhile isDigitByte
  if digits.length = 0 then
    .error (if bytes.length = 0 then .unfinished else .malformed)
  else
    .ok (digitChars digits, bytes.dropWhile isDigitByte)

/-- The digits before the point: a zero alone, or digits that do not begin with one. -/
def takeWhole (bytes : Bytes) : Except Fault (List Char × Bytes) := do
  let (digits, rest) ← takeDigits bytes
  if digits.head? = some '0' ∧ digits ≠ ['0'] then .error .malformed else .ok (digits, rest)

def takeFraction : Bytes → Except Fault (Option (List Char) × Bytes)
  | [] => .ok (none, [])
  | b :: bytes =>
    if isByte b '.' then do
      let (digits, rest) ← takeDigits bytes
      .ok (some digits, rest)
    else
      .ok (none, b :: bytes)

def takeExponent : Bytes → Except Fault (Option Int × Bytes)
  | [] => .ok (none, [])
  | b :: bytes =>
    if isByte b 'e' || isByte b 'E' then do
      let negative := bytes.head?.any (isByte · '-')
      let signed := negative || bytes.head?.any (isByte · '+')
      let (digits, rest) ← takeDigits (if signed then bytes.drop 1 else bytes)
      let size : Int := Nat.ofDigitChars 10 digits 0
      .ok (some (if negative then -size else size), rest)
    else
      .ok (none, b :: bytes)

def takeNumber (negative : Bool) (bytes : Bytes) : Except Fault (Value × Bytes) := do
  let (whole, rest) ← takeWhole bytes
  let (fraction, rest) ← takeFraction rest
  let (exponent, rest) ← takeExponent rest
  match numberOf negative whole fraction exponent with
  | some n => .ok (.number n, rest)
  | none => .error .malformed

def hexUnit? (a b c d : UInt8) : Option Nat := do
  let a ← Text.hexDigit? (Char.ofUInt8 a)
  let b ← Text.hexDigit? (Char.ofUInt8 b)
  let c ← Text.hexDigit? (Char.ofUInt8 c)
  let d ← Text.hexDigit? (Char.ofUInt8 d)
  return ((a * 16 + b) * 16 + c) * 16 + d

def isLeading (unit : Nat) : Bool := 0xD800 ≤ unit && unit < 0xDC00

def isTrailing (unit : Nat) : Bool := 0xDC00 ≤ unit && unit < 0xE000

def pairChar (leading trailing : Nat) : Char :=
  Char.ofNat (0x10000 + (leading - 0xD800) * 0x400 + (trailing - 0xDC00))

def shortEscape? (b : UInt8) : Option Char :=
  if isByte b '"' then some '"'
  else if isByte b '\\' then some '\\'
  else if isByte b '/' then some '/'
  else if isByte b 'b' then some '\x08'
  else if isByte b 'f' then some '\x0c'
  else if isByte b 'n' then some '\n'
  else if isByte b 'r' then some '\r'
  else if isByte b 't' then some '\t'
  else none

/-- The bytes of a string up to its closing quote, escapes replaced, in front of the bytes `done`
already read, which are held in reverse. -/
def takeString (done : Bytes) : Bytes → Except Fault (Bytes × Bytes)
  | [] => .error .unfinished
  | b :: rest =>
    if isByte b '"' then
      .ok (done.reverse, rest)
    else if isByte b '\\' then
      match rest with
      | [] => .error .unfinished
      | e :: rest =>
        if isByte e 'u' then
          match rest with
          | h₁ :: h₂ :: h₃ :: h₄ :: rest =>
            match hexUnit? h₁ h₂ h₃ h₄ with
            | none => .error .malformed
            | some unit =>
              if isTrailing unit then
                .error .malformed
              else if isLeading unit then
                match rest with
                | [] => .error .unfinished
                | s :: [] => if isByte s '\\' then .error .unfinished else .error .malformed
                | s :: u :: rest =>
                  if !(isByte s '\\' && isByte u 'u') then
                    .error .malformed
                  else
                    match rest with
                    | l₁ :: l₂ :: l₃ :: l₄ :: rest =>
                      match hexUnit? l₁ l₂ l₃ l₄ with
                      | none => .error .malformed
                      | some low =>
                        if isTrailing low then
                          takeString ((String.utf8EncodeChar (pairChar unit low)).reverse ++ done)
                            rest
                        else
                          .error .malformed
                    | _ => .error .unfinished
              else
                takeString ((String.utf8EncodeChar (Char.ofNat unit)).reverse ++ done) rest
          | _ => .error .unfinished
        else
          match shortEscape? e with
          | some c => takeString (c.toUInt8 :: done) rest
          | none => .error .malformed
    else if b < 0x20 then
      .error .malformed
    else
      takeString (b :: done) rest

def scalarToken : Except Fault (Value × Bytes) → Token × Bytes
  | .ok (v, rest) => (.scalar v, rest)
  | .error f => (.brokenScalar f, [])

def stringToken : Except Fault (Bytes × Bytes) → Token × Bytes
  | .ok (bytes, rest) =>
    match Text.ofBytes? bytes with
    | some s => (.string s, rest)
    | none => (.brokenString .malformed, [])
  | .error f => (.brokenString f, [])

def word (cs : List Char) (v : Value) (bytes : Bytes) : Token × Bytes :=
  scalarToken ((expectWord cs bytes).map fun rest => (v, rest))

def Token.next (b : UInt8) (rest : Bytes) : Token × Bytes :=
  if isByte b '[' then (.openArray, rest)
  else if isByte b ']' then (.closeArray, rest)
  else if isByte b '\x7b' then (.openObject, rest)
  else if isByte b '\x7d' then (.closeObject, rest)
  else if isByte b ',' then (.comma, rest)
  else if isByte b ':' then (.colon, rest)
  else if isByte b '"' then stringToken (takeString [] rest)
  else if isByte b 'n' then word ['u', 'l', 'l'] .null rest
  else if isByte b 't' then word ['r', 'u', 'e'] (.bool true) rest
  else if isByte b 'f' then word ['a', 'l', 's', 'e'] (.bool false) rest
  else if isByte b '-' then scalarToken (takeNumber true rest)
  else if isDigitByte b then scalarToken (takeNumber false (b :: rest))
  else (.brokenScalar .malformed, [])

end DataMatch.Json
