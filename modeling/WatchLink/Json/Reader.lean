import WatchLink.Hex
import WatchLink.Text.Size

/-!
# Reading JSON text

A reader takes a value of its type off the front of a text. What goes wrong is one of three things:
the text ends too early, it is not JSON, or it is JSON and not the value asked for. A text is read
from the front and the first fault counts, so a value of the wrong type hides a misplaced comma
behind it.

This module holds the readers of single values: words, numbers, texts. A value nobody asked for is
passed over by a machine that keeps the brackets still open in a list, so it may nest to any depth.
-/

namespace WatchLink.Json

/-- Why a text is not the value asked for. -/
inductive Fault where
  /-- The text ends inside the value. -/
  | unfinished
  | malformed
  | mismatch
  deriving DecidableEq, Repr

/-- Takes a value off the front of a text. -/
abbrev Reader (α : Type) := StateT (List Char) (Except Fault) α

namespace Reader

variable {α σ : Type}

def fail (fault : Fault) : Reader α := fun _ => .error fault

def next : Reader Char
  | [] => .error .unfinished
  | c :: rest => .ok (c, rest)

/-- The next character, left in the text. -/
def peek : Reader Char
  | [] => .error .unfinished
  | c :: rest => .ok (c, c :: rest)

/-- The blanks between tokens. -/
def isBlank (c : Char) : Bool := c = ' ' || c = '\n' || c = '\t' || c = '\r'

/-- Pass over blanks. -/
def skipBlanks : Reader Unit := fun text => .ok ((), text.dropWhile isBlank)

/-- The first character of the next token, left in the text. -/
def ahead : Reader Char := do
  skipBlanks
  peek

/-- Exactly these characters. -/
def word : List Char → Reader Unit
  | [] => pure ()
  | c :: cs => do
    if (← next) = c then word cs else fail .malformed

/-- A token of one character. -/
def mark (c : Char) : Reader Unit := do
  skipBlanks
  word [c]

/-- The next character, if it is one of these. -/
def oneOf? (cs : List Char) : Reader (Option Char)
  | c :: rest => .ok (if c ∈ cs then (some c, rest) else (none, c :: rest))
  | [] => .ok (none, [])

/-- Repeat a step until it comes to an end. Every step but the last takes at least one character,
so the characters that are there at the start count the steps. -/
def untilDone (step : σ → Reader (σ ⊕ α)) (start : σ) : Reader α := do
  go (← get) start
where
  /-- One step, and as many more as there are characters. -/
  go (left : List Char) (s : σ) : Reader α := do
    match ← step s with
    | .inr a => pure a
    | .inl s =>
      match left with
      | [] => fail .unfinished
      | _ :: left => go left s

/-! ## Numbers -/

/-- A number as it is written. -/
structure Numeral where
  negative : Bool
  whole : List Nat
  /-- The digits after the point, none when there is no point. -/
  fraction : List Nat
  exponent : Option Int
  deriving DecidableEq, Repr

/-- The digits at the front of the text, perhaps none. -/
def digits : Reader (List Nat) := fun text =>
  .ok ((text.takeWhile Char.isDigit).map fun c => c.toNat - 0x30, text.dropWhile Char.isDigit)

/-- The digits at the front of the text, at least one. -/
def someDigits : Reader (List Nat) := do
  if (← peek).isDigit then digits else fail .malformed

/-- The number that digits spell, or `limit` if that is less. -/
def valueUpTo (limit : Nat) (digits : List Nat) : Nat :=
  digits.foldl (fun n d => min limit (10 * n + d)) 0

/-- Exponents of this size and more are alike: no significand makes up for them. -/
def exponentLimit : Nat := 0x80000000

/-- A number as it is written. A leading zero stands alone. -/
def numeral : Reader Numeral := do
  let negative := (← oneOf? ['-']).isSome
  let whole ← someDigits
  match whole with
  | 0 :: _ :: _ => fail .malformed
  | _ =>
    let fraction ← match ← oneOf? ['.'] with
      | some _ => someDigits
      | none => pure []
    let exponent ← match ← oneOf? ['e', 'E'] with
      | some _ =>
        let sign ← oneOf? ['+', '-']
        let size := Int.ofNat (valueUpTo exponentLimit (← someDigits))
        pure (some (if sign = some '-' then -size else size))
      | none => pure none
    return { negative, whole, fraction, exponent }

namespace Numeral

/-- The number as a natural number of sixty-four bits, if it is one and written as one. -/
def natural? (n : Numeral) : Option Nat :=
  let value := valueUpTo UInt64.size n.whole
  if n.negative ∨ n.fraction ≠ [] ∨ n.exponent.isSome ∨ UInt64.size ≤ value then none else some value

/-- A significand of sixty-four bits after the digits that still fit, and how many did. -/
def absorb : Nat → List Nat → Nat × Nat
  | n, [] => (n, 0)
  | n, d :: ds =>
    if 10 * n + d < UInt64.size then
      let (n, used) := absorb (10 * n + d) ds
      (n, used + 1)
    else (n, 0)

/-- The significand and its decimal exponent. Digits that do not fit count as zeros. -/
def scaled (n : Numeral) : Nat × Int :=
  let (significand, used) := absorb 0 n.whole
  let (significand, after) := absorb significand n.fraction
  (significand, (n.whole.length - used : Int) - after + n.exponent.getD 0)

/-- The largest decimal exponent of a floating-point number. -/
def maxExponent : Int := 308

/-- Whether the number exceeds every floating-point number. -/
def isTooLarge (n : Numeral) : Bool :=
  let (significand, exponent) := n.scaled
  if significand = 0 ∨ exponent < 0 then false
  else
    maxExponent < exponent ||
      ((UInt64.ofNat significand).toFloat * Float.ofScientific 1 false exponent.toNat).isInf

end Numeral

/-- A number that is not too large. -/
def number : Reader Numeral := do
  let n ← numeral
  if n.isTooLarge then fail .malformed else return n

/-- Whether a token is a number. -/
def startsNumber (c : Char) : Bool := c = '-' || c.isDigit

/-! ## Texts -/

/-- Four hexadecimal digits. Whether there are enough of them is told by the octets left. -/
def unit : Reader Nat := fun text =>
  if Text.octetCount (text.take 4) < 4 then .error .unfinished
  else
    match (text.take 4).mapM Hex.value? with
    | some [a, b, c, d] => .ok (4096 * a + 256 * b + 16 * c + d, text.drop 4)
    | _ => .error .malformed

/-- The character of an escape in four hexadecimal digits, or in two such escapes. -/
def escapedUnit : Reader Char := do
  let high ← unit
  if high < 0xD800 ∨ 0xDFFF < high then return Char.ofNat high
  else if 0xDC00 ≤ high then fail .malformed
  else
    word ['\\', 'u']
    let low ← unit
    if 0xDC00 ≤ low ∧ low ≤ 0xDFFF then
      return Char.ofNat (0x10000 + 1024 * (high - 0xD800) + (low - 0xDC00))
    else fail .malformed

def letterEscapes : List (Char × Char) :=
  [('"', '"'), ('\\', '\\'), ('/', '/'), ('b', '\x08'), ('f', '\x0c'), ('n', '\n'), ('r', '\r'),
   ('t', '\t')]

/-- What is left of a text after its opening quote, with a reader of the escapes by their letter.
Control characters must be escaped. -/
def textAfterQuote (escape : Char → Reader Char) : Reader (List Char) :=
  untilDone (fun done => do
    match ← next with
    | '"' => return .inr done.reverse
    | '\\' => return .inl ((← escape (← next)) :: done)
    | c => if c < ' ' then fail .malformed else return .inl (c :: done)) []

def escape (letter : Char) : Reader Char :=
  match letterEscapes.lookup letter with
  | some c => pure c
  | none => if letter = 'u' then escapedUnit else fail .malformed

/-- An escape that nobody asked for: its digits may spell half a character. -/
def skippedEscape (letter : Char) : Reader Char :=
  match letterEscapes.lookup letter with
  | some c => pure c
  | none =>
    if letter = 'u' then do
      let _ ← unit
      return letter
    else fail .malformed

/-- The rest of a text after its opening quote. -/
def quoted : Reader String := String.ofList <$> textAfterQuote escape

/-! ## Values of another shape -/

/-- A value of another shape than the one asked for. Single values are read to their end, so what
is wrong inside them counts first. -/
def refuse : Reader α := do
  let c ← ahead
  if startsNumber c then
    let _ ← number
    fail .mismatch
  else if c = '"' then
    word ['"']
    let _ ← quoted
    fail .mismatch
  else if c = 'n' then
    word "null".toList
    fail .mismatch
  else if c = 't' then
    word "true".toList
    fail .mismatch
  else if c = 'f' then
    word "false".toList
    fail .mismatch
  else if c = '[' ∨ c = '{' then fail .mismatch
  else fail .malformed

def text : Reader String := do
  if (← ahead) = '"' then
    word ['"']
    quoted
  else refuse

/-- A natural number below a limit. -/
def natural (limit : Nat) : Reader Nat := do
  if startsNumber (← ahead) then
    match (← number).natural? with
    | some n => if n < limit then return n else fail .mismatch
    | none => fail .mismatch
  else refuse

/-- A whole number of at most sixty-four bits from `-limit` to below `limit`. Minus zero is no whole
number. -/
def integer (limit : Nat) : Reader Int := do
  if startsNumber (← ahead) then
    let n ← number
    match { n with negative := false }.natural? with
    | some size =>
      if n.negative then
        if size = 0 ∨ limit < size then fail .mismatch else return -size
      else if size < limit then return size
      else fail .mismatch
    | none => fail .mismatch
  else refuse

/-- A truth value. -/
def flag : Reader Bool := do
  match ← ahead with
  | 't' =>
    word "true".toList
    return true
  | 'f' =>
    word "false".toList
    return false
  | _ => refuse

/-- The value that is none. -/
def null : Reader Unit := do
  if (← ahead) = 'n' then word "null".toList else refuse

/-! ## Values nobody asked for -/

/-- A bracket that is still open. -/
inductive Bracket where
  | list
  | record
  deriving DecidableEq, Repr

def Bracket.close : Bracket → Char
  | list => ']'
  | record => '}'

/-- What may come next. -/
inductive Place where
  /-- The first item after a bracket, or its close. -/
  | first
  /-- A comma, or the close. -/
  | later
  deriving DecidableEq, Repr

/-- A single value, or a bracket that opens. -/
def skipStart (opened : List Bracket) : Reader (Place × List Bracket) := do
  let c ← ahead
  if startsNumber c then
    fun text =>
      match numeral text with
      | .ok (_, rest) => .ok ((.later, opened), rest)
      | .error _ => .error .malformed
  else
    match ← next with
    | '"' =>
      let _ ← textAfterQuote skippedEscape
      return (.later, opened)
    | '[' => return (.first, .list :: opened)
    | '{' => return (.first, .record :: opened)
    | 'n' =>
      word "ull".toList
      return (.later, opened)
    | 't' =>
      word "rue".toList
      return (.later, opened)
    | 'f' =>
      word "alse".toList
      return (.later, opened)
    | _ => fail .malformed

/-- An item inside the innermost bracket: in a record, its key first. -/
def skipItem (bracket : Bracket) (opened : List Bracket) : Reader (Place × List Bracket) := do
  if bracket = .record then
    mark '"'
    let _ ← textAfterQuote skippedEscape
    mark ':'
  skipStart (bracket :: opened)

/-- One step of passing over a value. -/
def skipStep : Place × List Bracket → Reader ((Place × List Bracket) ⊕ Unit)
  | (_, []) => return .inr ()
  | (place, bracket :: opened) => do
    let c ← ahead
    if c = bracket.close then
      word [c]
      return .inl (.later, opened)
    else if place = .first then .inl <$> skipItem bracket opened
    else if c = ',' then
      word [c]
      .inl <$> skipItem bracket opened
    else fail .malformed

/-- Pass over a value. -/
def skip : Reader Unit := do
  untilDone skipStep (← skipStart [])

/-! ## Whole texts -/

/-- The value that a whole text is. -/
def run? (reader : Reader α) (text : String) : Except Fault α :=
  match reader text.toList with
  | .ok (a, rest) => if rest.all isBlank then .ok a else .error .malformed
  | .error fault => .error fault

end Reader

end WatchLink.Json
