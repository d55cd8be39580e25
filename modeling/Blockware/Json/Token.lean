import Blockware.Json.Fault
import Blockware.Number.Numeral
import Blockware.Text.Bytes

/-!
# Tokens of JSON text

A text is cut into tokens first, each with its place. Nothing is refused here: a token that is
malformed carries its fault, and whether the fault matters is decided by whoever asks for the token's
value. Two questions can be asked of a token: what it *holds*, and whether it can be *passed over*
because its member is not wanted. A number too large for a double, or half of a surrogate pair,
holds nothing and can be passed over all the same.

- `Scalar`, `Mark`, `Token`: the tokens.
- `Token.ofText`: the tokens of a text, up to the first one that cannot be passed over.
-/

namespace Blockware.Json

/-- A value without parts. -/
inductive Scalar where
  | null
  | bool (b : Bool)
  | int (n : Int)
  | float (x : Binary64)
  | str (s : String)
  deriving DecidableEq

/-- A scalar as a JSON value. -/
def Scalar.toJson : Scalar → Json
  | .null => .null
  | .bool b => .bool b
  | .int n => .int n
  | .float x => .float x
  | .str s => .str s

/-- What a reader says who found a scalar where something else was wanted. -/
def Scalar.found : Scalar → Found
  | .null => .null
  | .bool b => .bool b
  | .int n => .int n
  | .float x => .float x
  | .str s => .str s

/-- A mark of punctuation. -/
inductive Mark where
  | openArray
  | closeArray
  | openObject
  | closeObject
  | comma
  | colon
  deriving DecidableEq

/-- What a token is. -/
inductive Token.Kind where
  | mark (m : Mark)
  | scalar (value : Scalar)
  /-- Well formed, but what it denotes cannot be held. -/
  | unholdable (isString : Bool) (fault : Fault)
  /-- Malformed: the fault for whoever wants its value, and for whoever passes over it. -/
  | malformed (isString : Bool) (held passed : Fault)
  /-- A character that begins no token. -/
  | stray
  deriving DecidableEq

/-- A token: what it is, how many characters it covers, and the places before and after it. -/
structure Token where
  kind : Token.Kind
  length : Nat
  start : Place
  stop : Place
  deriving DecidableEq

/-! ### Strings -/

/-- The value of a hexadecimal digit. -/
def hexDigit? (c : Char) : Option Nat :=
  if '0' ≤ c ∧ c ≤ '9' then some (c.toNat - '0'.toNat)
  else if 'a' ≤ c ∧ c ≤ 'f' then some (c.toNat - 'a'.toNat + 10)
  else if 'A' ≤ c ∧ c ≤ 'F' then some (c.toNat - 'A'.toNat + 10)
  else none

/-- The value of four hexadecimal digits. -/
def hexUnit? (a b c d : Char) : Option Nat := do
  return (((← hexDigit? a) * 16 + (← hexDigit? b)) * 16 + (← hexDigit? c)) * 16 + (← hexDigit? d)

/-- The character of an escape by one letter. -/
def escapeLetter? : Char → Option Char
  | '"' => some '"'
  | '\\' => some '\\'
  | '/' => some '/'
  | 'b' => some '\x08'
  | 'f' => some '\x0c'
  | 'n' => some '\n'
  | 'r' => some '\r'
  | 't' => some '\t'
  | _ => none

/-- A string token part way through. -/
structure StringScan where
  /-- Characters of the token so far. -/
  length : Nat
  /-- The place after them. -/
  place : Place
  /-- Characters of the string so far, the last one first. -/
  held : List Char := []
  /-- The first half of a surrogate pair, if the last escape was one. -/
  half : Option Nat := none
  /-- The first fault of the string's value. -/
  fault : Option Fault := none

namespace StringScan

/-- Goes on past some characters. -/
def past (s : StringScan) (cs : List Char) : StringScan :=
  { s with length := s.length + cs.length, place := s.place.afterAll cs }

/-- Adds a character to the string. -/
def hold (s : StringScan) (c : Char) : StringScan := { s with held := c :: s.held }

/-- Notes a fault of the value, unless there was one before. -/
def note (s : StringScan) (cause : Cause) (place : Place) : StringScan :=
  { s with fault := s.fault <|> some ⟨cause, some place⟩ }

/-- The other half of a surrogate pair must follow a first half at once: when `place` is passed
without it, the pair is incomplete. -/
def unpaired (s : StringScan) (place : Place) : StringScan :=
  match s.half with
  | none => s
  | some _ => { s.note .unpairedSurrogate place with half := none }

/-- Takes a code unit that was written in hexadecimal: half of a pair or a character of its own. -/
def unit (s : StringScan) (n : Nat) : StringScan :=
  match s.half with
  | some high =>
    if 0xDC00 ≤ n ∧ n ≤ 0xDFFF then
      { s.hold (Char.ofNat ((high - 0xD800) * 0x400 + (n - 0xDC00) + 0x10000)) with half := none }
    else { s.note .loneSurrogate s.place with half := none }
  | none =>
    if 0xDC00 ≤ n ∧ n ≤ 0xDFFF then s.note .loneSurrogate s.place
    else if 0xD800 ≤ n ∧ n ≤ 0xDBFF then { s with half := some n }
    else s.hold (Char.ofNat n)

/-- A malformed string token; an earlier fault of the value comes first for whoever wants it. -/
def malformed (s : StringScan) (cause : Cause) (held passed : Place) : Token.Kind × Nat × Place :=
  (.malformed true (s.fault.getD ⟨cause, some held⟩) ⟨cause, some passed⟩, s.length, s.place)

/-- The rest of a string token after its opening quote and the characters scanned so far. -/
def scan (s : StringScan) : List Char → Token.Kind × Nat × Place
  | [] => s.malformed .endInString s.place s.place
  | '\\' :: 'u' :: rest =>
    match rest with
    | a :: b :: c :: d :: more =>
      match hexUnit? a b c d with
      | some n => scan ((s.past ['\\', 'u', a, b, c, d]).unit n) more
      | none =>
        let place := (s.past ['\\', 'u']).place
        let wrong := place.afterBytes 4 rest
        s.malformed .invalidEscape wrong wrong
    | short =>
      let place := (s.past ['\\', 'u']).place
      if Text.utf8Length short < 4 then
        s.malformed .endInString (place.afterAll short) (place.afterAll short)
      else
        let wrong := place.afterBytes 4 short
        s.malformed .invalidEscape wrong wrong
  | ['\\'] =>
    let place := s.place.advance 1
    s.malformed .endInString place place
  | '\\' :: c :: rest =>
    let place := (s.place.advance 1).afterByte c
    let s := s.unpaired place
    match escapeLetter? c with
    | some held => scan ((s.past ['\\', c]).hold held) rest
    | none => s.malformed .invalidEscape place place
  | c :: rest =>
    let s := s.unpaired (s.place.afterByte c)
    if c = '"' then
      let s := s.past [c]
      match s.fault with
      | some fault => (.unholdable true fault, s.length, s.place)
      | none => (.scalar (.str (String.ofList s.held.reverse)), s.length, s.place)
    else if c.toNat < 0x20 then
      s.malformed .controlCharacter (s.place.afterByte c) s.place
    else scan ((s.past [c]).hold c) rest

end StringScan

/-! ### Numbers -/

/-- The largest whole number that 64 bits hold without a sign. -/
def maxWhole : Nat := 2 ^ 64 - 1

/-- The number of the least value that 64 bits hold with a sign, taken positive. -/
def maxMinus : Nat := 2 ^ 63

/-- How many digits of an exponent lie before its value passes the largest signed number of 32 bits,
that last digit included; `none` if it never does. -/
def exponentLimit (digits : List Char) : Option Nat :=
  go 0 0 digits
where
  /-- Walks the digits with their value and number so far. -/
  go (value count : Nat) : List Char → Option Nat
    | [] => none
    | c :: rest =>
      let next := value * 10 + (c.toNat - '0'.toNat)
      if 2 ^ 31 - 1 < next then some (count + 1) else go next (count + 1) rest

/-- The exponent of a number token: whether it is negative, its digits, and the place before them. -/
structure ExponentPart where
  negative : Bool
  digits : List Char
  place : Place

/-- What a well-formed number token holds. A whole number of 64 bits is held whole, minus zero and
every other number as a double. -/
def numberKind (negative : Bool) (whole : List Char) (fraction : Option (List Char))
    (exponent : Option ExponentPart) (stop : Place) : Token.Kind :=
  let places := fraction.getD []
  let digits := Numeral.value places (Numeral.value whole 0)
  let outOfRange (place : Place) : Token.Kind :=
    .unholdable false ⟨.numberOutOfRange, some place⟩
  let double (power : Int) : Token.Kind :=
    match Binary64.ofDecimal negative ⟨digits, power - (places.length : Int)⟩ with
    | some x => .scalar (.float x)
    | none => outOfRange stop
  match fraction, exponent with
  | none, none =>
    if !negative && digits ≤ maxWhole then .scalar (.int digits)
    else if negative && digits ≠ 0 && digits ≤ maxMinus then .scalar (.int (-(digits : Int)))
    else double 0
  | some _, none => double 0
  | _, some e =>
    match exponentLimit e.digits with
    | some count =>
      if digits ≠ 0 && !e.negative then outOfRange (e.place.advance count)
      else .scalar (.float (Binary64.zero negative))
    | none =>
      let power : Int := ((Numeral.value e.digits 0 : Nat) : Int)
      double (if e.negative then -power else power)

/-- A malformed number token. When the text ends inside the number, whoever wants the number misses
the rest of a value. -/
def malformedNumber (length : Nat) (place : Place) (next : Option Char) : Token.Kind × Nat × Place :=
  match next with
  | none =>
    (.malformed false ⟨.endInValue, some place⟩ ⟨.invalidNumber, some place⟩, length, place)
  | some c =>
    let fault : Fault := ⟨.invalidNumber, some (place.afterByte c)⟩
    (.malformed false fault fault, length, place)

/-- A number token at the start of the characters. -/
def scanNumber (cs : List Char) (start : Place) : Token.Kind × Nat × Place :=
  let negative := cs.head? == some '-'
  let body := if negative then cs.drop 1 else cs
  let (whole, rest) := Numeral.spanDigits body
  let length := (if negative then 1 else 0) + whole.length
  let place := start.advance length
  match whole with
  | [] => malformedNumber length place rest.head?
  | '0' :: second :: _ =>
    let before := length - whole.length + 1
    malformedNumber before (start.advance before) (some second)
  | _ =>
    let (fraction, rest, length) :=
      match rest with
      | '.' :: more =>
        let (digits, rest) := Numeral.spanDigits more
        (some digits, rest, length + 1 + digits.length)
      | other => (none, other, length)
    let place := start.advance length
    if fraction = some [] then malformedNumber length place rest.head?
    else if rest.head? = some 'e' ∨ rest.head? = some 'E' then
      let afterLetter := rest.drop 1
      let minus := afterLetter.head? == some '-'
      let signed := minus || afterLetter.head? == some '+'
      let (digits, rest) := Numeral.spanDigits (if signed then afterLetter.drop 1 else afterLetter)
      let before := length + 1 + (if signed then 1 else 0)
      let digitsAt := start.advance before
      if digits.isEmpty then malformedNumber before digitsAt rest.head?
      else
        let length := before + digits.length
        let stop := start.advance length
        (numberKind negative whole fraction (some ⟨minus, digits, digitsAt⟩) stop, length, stop)
    else (numberKind negative whole fraction none place, length, place)

/-! ### Words, and all tokens -/

/-- The rest of a word such as `true` after its first letter. -/
def scanWord (value : Scalar) (length : Nat) (place : Place) :
    List Char → List Char → Token.Kind × Nat × Place
  | [], _ => (.scalar value, length, place)
  | _ :: _, [] =>
    let fault : Fault := ⟨.endInValue, some place⟩
    (.malformed false fault fault, length, place)
  | letter :: word, c :: rest =>
    if c = letter then scanWord value (length + 1) (place.advance 1) word rest
    else
      let fault : Fault := ⟨.expectedWord, some (place.afterByte c)⟩
      (.malformed false fault fault, length, place)

/-- Whether a character is blank between tokens. -/
def isGap (c : Char) : Bool := c == ' ' || c == '\n' || c == '\t' || c == '\r'

/-- The token that begins with `c` at `start` and goes on in `rest`. -/
def Token.read (c : Char) (rest : List Char) (start : Place) : Token :=
  let next := start.advance 1
  let mark (m : Mark) : Token := ⟨.mark m, 1, start, next⟩
  let scanned (s : Token.Kind × Nat × Place) : Token := ⟨s.1, s.2.1, start, s.2.2⟩
  match c with
  | '[' => mark .openArray
  | ']' => mark .closeArray
  | '\x7b' => mark .openObject
  | '\x7d' => mark .closeObject
  | ',' => mark .comma
  | ':' => mark .colon
  | '"' => scanned (StringScan.scan { length := 1, place := next } rest)
  | 'n' => scanned (scanWord .null 1 next ['u', 'l', 'l'] rest)
  | 't' => scanned (scanWord (.bool true) 1 next ['r', 'u', 'e'] rest)
  | 'f' => scanned (scanWord (.bool false) 1 next ['a', 'l', 's', 'e'] rest)
  | _ =>
    if c = '-' || c.isDigit then scanned (scanNumber (c :: rest) start)
    else ⟨.stray, 1, start, start.after c⟩

/-- Whether a token can be passed over, so that the tokens after it matter. -/
def Token.isPassable (t : Token) : Bool :=
  match t.kind with
  | .malformed .. => false
  | .stray => false
  | _ => true

/-- The tokens of the characters from `place` on, after those in `done` (the last one first), and the
place where the text ends. A token found at a character covers `covered` more characters, which are
stepped over. -/
def Token.scan (done : List Token) (place : Place) (covered : Nat) :
    List Char → List Token × Place
  | [] => (done.reverse, place)
  | c :: rest =>
    let next := place.after c
    match covered with
    | more + 1 => scan done next more rest
    | 0 =>
      if isGap c then scan done next 0 rest
      else
        let t := Token.read c rest place
        if t.isPassable then scan (t :: done) next (t.length - 1) rest
        else ((t :: done).reverse, t.stop)

/-- The tokens of a text and the place where it ends. -/
def Token.ofText (s : String) : List Token × Place := Token.scan [] Place.start 0 s.toList

end Blockware.Json
