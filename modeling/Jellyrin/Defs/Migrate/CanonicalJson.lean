import Jellyrin.Defs.Data.Decimal
import Jellyrin.Defs.Data.LengthPrefix
import Jellyrin.Defs.Data.SortOn
import Jellyrin.Defs.Data.Separated
import Jellyrin.Defs.Data.Utf8

/-! The bytes that stand for a JSON document in the digest of a migrated row. -/

namespace Jellyrin.Migrate

structure Exponent where
  upper : Bool
  /-- Whether a sign is printed, and whether it is a minus. -/
  sign : Option Bool
  digits : List Char
  isDigit : ∀ c ∈ digits, c.isDigit = true
  ne_nil : digits ≠ []

namespace Exponent

def text (exponent : Exponent) : List Char :=
  (exponent.sign.map fun minus => if minus then '-' else '+').toList ++ exponent.digits

def value (exponent : Exponent) : Int :=
  Decimal.signed (exponent.sign.getD false) exponent.digits

end Exponent

/-- The text of a number.  What `serde_json` prints is of this form, and far below the bound. -/
structure PrintedNumber where
  negative : Bool
  integer : List Char
  fraction : Option (List Char)
  exponent : Option Exponent
  integer_isDigit : ∀ c ∈ integer, c.isDigit = true
  fraction_isDigit : ∀ digits ∈ fraction, ∀ c ∈ digits, c.isDigit = true
  small : (exponent.elim 0 Exponent.value).natAbs + integer.length +
    (fraction.getD []).length < 2 ^ 60

namespace PrintedNumber

def mantissa (number : PrintedNumber) : List Char :=
  number.integer ++ number.fraction.elim [] ('.' :: ·)

def toString (number : PrintedNumber) : String :=
  String.ofList ((if number.negative then ['-'] else []) ++ number.mantissa ++
    number.exponent.elim [] fun exponent =>
      (if exponent.upper then 'E' else 'e') :: exponent.text)

def value (number : PrintedNumber) : ℚ :=
  Decimal.value number.negative (number.integer ++ number.fraction.getD [])
    (number.exponent.elim 0 Exponent.value - (number.fraction.getD []).length)

end PrintedNumber

def stripMinus : List Char → Bool × List Char
  | '-' :: unsigned => (true, unsigned)
  | unsigned => (false, unsigned)

def trailingZeros (digits : List Char) : Nat := (digits.reverse.takeWhile (· == '0')).length

def splitExponent (unsigned : List Char) : Option (List Char × Int) :=
  match splitOnce (fun c => c == 'e' || c == 'E') unsigned with
  | some (mantissa, exponent) => (Decimal.parseI64 exponent).map (mantissa, ·)
  | none => some (unsigned, 0)

def canonicalDecimal (raw : String) : Option String := do
  let (negative, unsigned) := stripMinus raw.toList
  let (mantissa, exponent) ← splitExponent unsigned
  let (integer, fraction) := (splitOnce (· == '.') mantissa).getD (mantissa, [])
  let power ← Decimal.checkedI64 (exponent - fraction.length)
  let digits := (integer ++ fraction).dropWhile (· == '0')
  if digits = [] then some "0"
  else
    let zeros := trailingZeros digits
    let power ← Decimal.checkedI64 (power + zeros)
    some ((if negative then "-" else "") ++ String.ofList (digits.take (digits.length - zeros)) ++
      "e" ++ ToString.toString power)

inductive Value where
  | null
  | bool (value : Bool)
  | number (value : PrintedNumber)
  | string (value : String)
  | array (values : List Value)
  | object (values : List (String × Value))

def byteOrder (s : String) : List Nat := (asBytes s).map UInt8.toNat

def sortEntries (entries : List (String × List UInt8)) : List (String × List UInt8) :=
  sortOn (fun entry => byteOrder entry.1) entries

def encodeEntries (entries : List (String × List UInt8)) : List UInt8 :=
  (sortEntries entries).flatMap fun entry => lengthPrefixed (asBytes entry.1) ++ entry.2

mutual

/-- The panic of `canonical_decimal` is no text here: no printed number comes to it. -/
def canonicalJson : Value → List UInt8
  | .null => asBytes "n"
  | .bool value => asBytes (if value then "b1" else "b0")
  | .number value =>
    asBytes "d" ++ lengthPrefixed (asBytes ((canonicalDecimal value.toString).getD ""))
  | .string value => asBytes "s" ++ lengthPrefixed (asBytes value)
  | .array values =>
    asBytes "[" ++ bigEndian64 values.length ++ canonicalItems values ++ asBytes "]"
  | .object values =>
    asBytes "\x7b" ++ bigEndian64 values.length ++ encodeEntries (canonicalEntries values) ++
      asBytes "\x7d"

def canonicalItems : List Value → List UInt8
  | [] => []
  | value :: values => canonicalJson value ++ canonicalItems values

def canonicalEntries : List (String × Value) → List (String × List UInt8)
  | [] => []
  | (key, value) :: values => (key, canonicalJson value) :: canonicalEntries values

end

mutual

def Value.Valid : Value → Prop
  | .null | .bool _ | .number _ => True
  | .string value => value.utf8ByteSize < 2 ^ 64
  | .array values => values.length < 2 ^ 64 ∧ ValidItems values
  | .object values =>
    values.length < 2 ^ 64 ∧ (values.map Prod.fst).Nodup ∧ ValidEntries values

def ValidItems : List Value → Prop
  | [] => True
  | value :: values => value.Valid ∧ ValidItems values

def ValidEntries : List (String × Value) → Prop
  | [] => True
  | (key, value) :: values => key.utf8ByteSize < 2 ^ 64 ∧ value.Valid ∧ ValidEntries values

end

structure Document where
  value : Value
  valid : value.Valid

mutual

/-- Equality of documents, up to the order of members and the spelling of numbers. -/
inductive Same : Value → Value → Prop
  | null : Same .null .null
  | bool (value : Bool) : Same (.bool value) (.bool value)
  | number {a b : PrintedNumber} (h : a.value = b.value) : Same (.number a) (.number b)
  | string (value : String) : Same (.string value) (.string value)
  | array {as bs : List Value} (h : SameItems as bs) : Same (.array as) (.array bs)
  | object {as mid bs : List (String × Value)} (hperm : as.Perm mid) (h : SameEntries mid bs) :
    Same (.object as) (.object bs)

inductive SameItems : List Value → List Value → Prop
  | nil : SameItems [] []
  | cons {a b : Value} {as bs : List Value} (h : Same a b) (hs : SameItems as bs) :
    SameItems (a :: as) (b :: bs)

inductive SameEntries : List (String × Value) → List (String × Value) → Prop
  | nil : SameEntries [] []
  | cons {key : String} {a b : Value} {as bs : List (String × Value)} (h : Same a b)
    (hs : SameEntries as bs) : SameEntries ((key, a) :: as) ((key, b) :: bs)

end

end Jellyrin.Migrate
