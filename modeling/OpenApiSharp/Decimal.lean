import OpenApiSharp.Text.Letter
import OpenApiSharp.Text.Search

/-!
# Floating-point numbers

A double is held as its 64-bit pattern, so equality of values of the type is
equality of patterns.  Each stands for an interval of reals, those that round to
it: from half way to the neighbour below to half way to the neighbour above, the
ends included exactly when the mantissa is even.  Its text is the decimal with the
fewest digits in that interval, and of those the nearest.
-/

namespace OpenApiSharp.Decimal

open Text

/-- A double-precision number, by its bit pattern. -/
structure Binary64 where
  bits : UInt64
  deriving DecidableEq, Repr

/-- The size of a finite double: `mantissa * 2 ^ exponent`. -/
structure Magnitude where
  mantissa : Nat
  exponent : Int
  /-- The gap to the next smaller double is half the gap to the next larger. -/
  narrowBelow : Bool
  deriving DecidableEq, Repr

namespace Binary64

/-- The eleven bits of the exponent. -/
def exponentField (x : Binary64) : Nat :=
  ((x.bits >>> 52) &&& 0x7ff).toNat

/-- The lower fifty-two bits. -/
def fractionField (x : Binary64) : Nat :=
  (x.bits &&& 0xfffffffffffff).toNat

def isNegative (x : Binary64) : Bool :=
  x.bits >>> 63 == 1

/-- Whether the pattern stands for no number. -/
def isNaN (x : Binary64) : Bool :=
  x.exponentField == 0x7ff && x.fractionField != 0

def isInfinite (x : Binary64) : Bool :=
  x.exponentField == 0x7ff && x.fractionField == 0

def magnitude (x : Binary64) : Magnitude :=
  if x.exponentField = 0 then
    ⟨x.fractionField, -1074, false⟩
  else
    ⟨Nat.pow 2 52 + x.fractionField, (x.exponentField : Int) - 1075,
      x.fractionField == 0 && x.exponentField != 1⟩

def ofFloat (x : Float) : Binary64 :=
  ⟨x.toBits⟩

def toFloat (x : Binary64) : Float :=
  Float.ofBits x.bits

def negate (x : Binary64) : Binary64 :=
  ⟨x.bits ^^^ 0x8000000000000000⟩

def infinity : Binary64 := ⟨0x7ff0000000000000⟩

def nan : Binary64 := ⟨0x7ff8000000000000⟩

/-- The double nearest to `digits * 10 ^ exponent`, an even one on a tie.
Powers far outside the range of doubles are never computed. -/
def ofDecimal (digits : Nat) (exponent : Int) : Binary64 :=
  let leading := (Nat.toDigits 10 digits).length + exponent
  if digits = 0 ∨ leading < -400 then ⟨0⟩
  else if 400 < leading then infinity
  else ofFloat (Float.ofScientific digits (decide (exponent < 0)) exponent.natAbs)

/-- Whether a finite double has the value of an integer. -/
def equalsInt (x : Binary64) (n : Int) : Bool :=
  if x.exponentField == 0x7ff then false
  else
    let size := x.magnitude
    let signed : Int := if x.isNegative then -size.mantissa else size.mantissa
    signed * (Nat.pow 2 size.exponent.toNat : Nat) == n * (Nat.pow 2 (-size.exponent).toNat : Nat)

/-- Equality of numbers: the zeros are equal, and what is no number equals only
its like. -/
def sameNumber (x y : Binary64) : Bool :=
  x == y || (x.isNaN && y.isNaN) || (x.equalsInt 0 && y.equalsInt 0)

end Binary64

/-- The number `digits * 10 ^ exponent`. -/
structure Numeral where
  digits : Nat
  exponent : Int
  deriving DecidableEq, Repr

/-- Compare `a * 10 ^ i` with `b * 2 ^ j`. -/
def compareScaled (a : Nat) (i : Int) (b : Nat) (j : Int) : Ordering :=
  compare (a * Nat.pow 10 i.toNat * Nat.pow 2 (-j).toNat)
    (b * Nat.pow 2 j.toNat * Nat.pow 10 (-i).toNat)

/-- Whether a decimal lies in the interval of a double's size. -/
def Magnitude.readsBack (x : Magnitude) (d : Numeral) : Bool :=
  let low := if x.narrowBelow then 4 * x.mantissa - 1 else 4 * x.mantissa - 2
  let high := 4 * x.mantissa + 2
  let endsIncluded := x.mantissa % 2 == 0
  let fromLow := compareScaled d.digits d.exponent low (x.exponent - 2)
  let fromHigh := compareScaled d.digits d.exponent high (x.exponent - 2)
  (fromLow == .gt || (endsIncluded && fromLow == .eq)) &&
    (fromHigh == .lt || (endsIncluded && fromHigh == .eq))

/-- The least `k` from a starting point on with `x < 10 ^ k`, within a number of
steps. -/
def Magnitude.leadingFrom (x : Magnitude) : Nat → Int → Int
  | 0, k => k
  | steps + 1, k =>
      if compareScaled 1 k x.mantissa x.exponent == .gt then k
      else x.leadingFrom steps (k + 1)

/-- The least `k` with `x < 10 ^ k`, for a positive size.  The search starts from
a bound below: `x` is at least the power of two with its leading bit, and
`2 ^ e` is at least `10 ^ ((e * 30103) / 100000 - 1)` in the range of
doubles. -/
def Magnitude.leading (x : Magnitude) : Int :=
  let bits := (x.mantissa.log2 : Int) + x.exponent
  x.leadingFrom 5 (Int.fdiv (bits * 30103) 100000 - 1)

/-- The greatest multiple of `10 ^ grid` that is at most `x`, in units of
`10 ^ grid`. -/
def Magnitude.floorAt (x : Magnitude) (grid : Int) : Nat :=
  (x.mantissa * Nat.pow 2 x.exponent.toNat * Nat.pow 10 (-grid).toNat) /
    (Nat.pow 2 (-x.exponent).toNat * Nat.pow 10 grid.toNat)

/-- A neighbour of `x` on a grid that reads back.  Of two, the nearer one is
taken, and the even one on a tie. -/
def Magnitude.onGrid? (x : Magnitude) (grid : Int) : Option Numeral :=
  let below : Numeral := ⟨x.floorAt grid, grid⟩
  let above : Numeral := ⟨x.floorAt grid + 1, grid⟩
  match x.readsBack below, x.readsBack above with
  | true, false => some below
  | false, true => some above
  | false, false => none
  | true, true =>
      -- twice the value against the sum of the two neighbours
      match compareScaled (2 * below.digits + 1) grid x.mantissa (x.exponent + 1) with
      | .gt => some below
      | .lt => some above
      | .eq => some (if below.digits % 2 = 0 then below else above)

def Magnitude.exact (x : Magnitude) : Numeral :=
  if 0 ≤ x.exponent then ⟨x.mantissa * Nat.pow 2 x.exponent.toNat, 0⟩
  else ⟨x.mantissa * Nat.pow 5 x.exponent.natAbs, x.exponent⟩

/-- Move trailing zeros of the digits into the exponent, at most `count` of
them. -/
def Numeral.strip : Nat → Numeral → Numeral
  | 0, d => d
  | count + 1, d =>
      if d.digits ≠ 0 ∧ d.digits % 10 = 0 then
        Numeral.strip count ⟨d.digits / 10, d.exponent + 1⟩
      else
        d

/-- The shortest decimal that reads back to a size.  Seventeen digits are always
enough; the exact value closes the search. -/
def Magnitude.shortest (x : Magnitude) : Numeral :=
  if x.mantissa = 0 then ⟨0, 0⟩
  else
    let leading := x.leading
    let found := (List.range 17).findSome? fun (count : Nat) =>
      x.onGrid? (leading - ((count : Int) + 1))
    Numeral.strip 20 (found.getD x.exact)

/-- The decisions of a layout.  Numbers whose leading digit stands for
`10 ^ e` are written positionally when `plainFrom ≤ e < plainBelow`, and at
least one digit then stands behind the point; others have a signed exponent of
two digits or more. -/
structure Layout where
  plainFrom : Int
  plainBelow : Int
  nanText : String
  infinityText : String
  deriving DecidableEq, Repr

/-- The decimal digits of a number, at least two of them. -/
def twoDigits (n : Nat) : String :=
  if n < 10 then "0" ++ toString n else toString n

def Layout.arrange (style : Layout) (d : Numeral) : String :=
  let digits := Nat.toDigits 10 d.digits
  let leading : Int := digits.length + d.exponent - 1
  if style.plainFrom ≤ leading ∧ leading < style.plainBelow then
    if 0 ≤ d.exponent then
      String.ofList (digits ++ List.replicate d.exponent.toNat '0') ++ ".0"
    else if leading < 0 then
      "0." ++ String.ofList (List.replicate (-leading - 1).toNat '0' ++ digits)
    else
      let whole := (leading + 1).toNat
      String.ofList (digits.take whole) ++ "." ++ String.ofList (digits.drop whole)
  else
    let fraction := digits.drop 1
    String.ofList (digits.take 1) ++
      (if fraction.isEmpty then "" else "." ++ String.ofList fraction) ++ "e" ++
      (if leading < 0 then "-" else "+") ++ twoDigits leading.natAbs

/-- The text of a double: the fewest digits that read back, in a layout. -/
def Layout.render (style : Layout) (x : Binary64) : String :=
  if x.isNaN then style.nanText
  else
    (if x.isNegative then "-" else "") ++
      if x.isInfinite then style.infinityText else style.arrange x.magnitude.shortest

/-- The value of a digit or of a letter in its place. -/
def digitValue? (c : Char) : Option Nat :=
  if 'a' ≤ c ∧ c ≤ 'z' then some (c.toNat - 'a'.toNat + 10)
  else if 'A' ≤ c ∧ c ≤ 'Z' then some (c.toNat - 'A'.toNat + 10)
  else decimalValue? c

def digitsNumber? (base : Nat) (digits : List Char) : Option Nat :=
  digits.foldlM (fun number c =>
    ((digitValue? c).filter fun value => decide (value < base)).map (number * base + ·)) 0

/-- Whether a minus stands at the front of a text, and the text behind the sign. -/
def splitSign : List Char → Bool × List Char
  | '-' :: rest => (true, rest)
  | '+' :: rest => (false, rest)
  | cs => (false, cs)

/-- The digits behind the mark of a base, which may be missing. -/
def dropBaseMark (base : Nat) : List Char → List Char
  | '0' :: mark :: rest =>
      let marks := if base = 2 then "bB" else if base = 8 then "oO"
        else if base = 16 then "xX" else ""
      if marks.toList.contains mark then rest else '0' :: mark :: rest
  | cs => cs

def integer? (base : Nat) (cs : List Char) : Option Int := do
  let (isNegative, unsigned) := splitSign (trimChars cs)
  let digits := dropBaseMark base unsigned
  if digits.isEmpty then none
  let size ← digitsNumber? base digits
  return if isNegative then -(size : Int) else size

/-- The exponent at the end of a number, zero if there is none. -/
def exponent? : List Char → Option Int
  | [] => some 0
  | c :: rest => do
      let (isNegative, digits) := splitSign rest
      if digits.isEmpty || !(c == 'e' || c == 'E') then none
      let size ← digitsNumber? 10 digits
      return if isNegative then -(size : Int) else size

/-- The double that a decimal fraction without a sign writes. -/
def fraction? (cs : List Char) : Option Binary64 := do
  let isDigitChar (c : Char) : Bool := (decimalValue? c).isSome
  let whole := cs.takeWhile isDigitChar
  let behind := cs.drop whole.length
  let places := if behind.head? == some '.' then behind.tail.takeWhile isDigitChar else []
  let rest := if behind.head? == some '.' then behind.drop (places.length + 1) else behind
  if whole.isEmpty && places.isEmpty then none
  let exponent ← exponent? rest
  let digits ← digitsNumber? 10 (whole ++ places)
  return .ofDecimal digits (exponent - places.length)

/-- The double that a text writes: a decimal fraction or the name of a special
value, in lower case. -/
def number? (cs : List Char) : Option Binary64 := do
  let (isNegative, unsigned) := splitSign (trimChars cs)
  let size ←
    if unsigned == "inf".toList || unsigned == "infinity".toList then some .infinity
    else if unsigned == "nan".toList then some .nan
    else fraction? unsigned
  return if isNegative then size.negate else size

end OpenApiSharp.Decimal
