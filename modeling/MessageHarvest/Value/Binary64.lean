import MessageHarvest.Text.Quoted

/-!
# Binary floating-point numbers

A number of 64 bits is an integer of at most 53 binary digits times a power of two. It is read from
a decimal as the nearest such number, and written as the shortest decimal that is read back as the
same number. All of it is exact integer arithmetic.
-/
namespace MessageHarvest

/-- A binary floating-point number. -/
inductive Binary64 where
  | notANumber
  | infinite (negative : Bool)
  | finite (negative : Bool) (mantissa : Nat) (exponent : Int)
deriving DecidableEq

namespace Binary64

/-- The smallest exponent of two. -/
def minExponent : Int := -1074

/-- The largest exponent of two. -/
def maxExponent : Int := 971

/-- The largest mantissa and one more. -/
def mantissaBound : Nat := Nat.pow 2 53

/-- A quotient to the nearest integer, a half to the even one. -/
def roundDiv (num den : Nat) : Nat :=
  let q := num / den
  let rest := 2 * (num % den)
  if den < rest || (rest = den && q % 2 = 1) then q + 1 else q

/-- The numerator of `base ^ e`. -/
def powerNum (base : Nat) (e : Int) : Nat := if e < 0 then 1 else Nat.pow base e.natAbs

/-- The denominator of `base ^ e`. -/
def powerDen (base : Nat) (e : Int) : Nat := if e < 0 then Nat.pow base e.natAbs else 1

/-- The quotient `num / den` in units of `2 ^ exponent`, to the nearest integer. -/
def scaled (num den : Nat) (exponent : Int) : Nat :=
  roundDiv (num * powerDen 2 exponent) (den * powerNum 2 exponent)

/-- The number nearest to `num / den`, of which neither is zero. -/
def ofRatio (negative : Bool) (num den : Nat) : Binary64 :=
  let low := max ((num.log2 : Int) - den.log2 - 53) minExponent
  let exponent := if scaled num den low < mantissaBound then low else low + 1
  let m := scaled num den exponent
  let found := if m < mantissaBound then (m, exponent) else (m / 2, exponent + 1)
  if maxExponent < found.2 then .infinite negative else .finite negative found.1 found.2

/-- The number nearest to `digits * 10 ^ exponent`. Decimals far out of range are not spelled
out. -/
def ofDecimal (negative : Bool) (digits : Nat) (exponent : Int) : Binary64 :=
  let magnitude := (Nat.toDigits 10 digits).length + exponent
  if digits = 0 || magnitude < -400 then .finite negative 0 minExponent
  else if 400 < magnitude then .infinite negative
  else ofRatio negative (digits * powerNum 10 exponent) (powerDen 10 exponent)

/-- Decimal digits at the beginning, underscores between them passed over: the digits, and what
follows. `afterDigit` tells that one has just been read. -/
def digitRun : Bool → Text → Text × Text
  | _, [] => ([], [])
  | afterDigit, c :: cs =>
    if Text.isNumeral c then
      let rest := digitRun true cs
      (Nat.digitChar (Text.numeralValue c) :: rest.1, rest.2)
    else if afterDigit && c = '_' && cs.head?.any Text.isNumeral then digitRun false cs
    else ([], c :: cs)

/-- A sign at the beginning: whether it is a minus, and what follows. -/
def signRun : Text → Bool × Text
  | '-' :: cs => (true, cs)
  | '+' :: cs => (false, cs)
  | cs => (false, cs)

/-- The power of ten at the end of a decimal. -/
def exponentRun? : Text → Option Int
  | [] => some 0
  | c :: cs =>
    if c = 'e' || c = 'E' then
      let sign := signRun cs
      match digitRun false sign.2 with
      | (d :: ds, []) =>
        let n := Nat.ofDigitChars 10 (d :: ds) 0
        some (if sign.1 then -n else n)
      | _ => none
    else none

/-- Reads a decimal, or the name of a number that has none. -/
def ofText? (s : Text) : Option Binary64 :=
  let sign := signRun ((s.dropWhile Text.isSpace).reverse.dropWhile Text.isSpace).reverse
  let word := Text.asciiLower sign.2
  if word = "inf".toList || word = "infinity".toList then some (.infinite sign.1)
  else if word = "nan".toList then some .notANumber
  else
    let whole := digitRun false sign.2
    let fraction := match whole.2 with
      | '.' :: cs => digitRun false cs
      | cs => ([], cs)
    let digits := whole.1 ++ fraction.1
    if digits.isEmpty then none
    else (exponentRun? fraction.2).map fun e =>
      ofDecimal sign.1 (Nat.ofDigitChars 10 digits 0) (e - fraction.1.length)

/-- The integer part of a finite number. -/
def truncate (negative : Bool) (mantissa : Nat) (exponent : Int) : Int :=
  let n := mantissa * powerNum 2 exponent / powerDen 2 exponent
  if negative then -n else n

/-- Compares `a * 10 ^ k` with `b * 2 ^ q`. -/
def comparePowers (a : Nat) (k : Int) (b : Nat) (q : Int) : Ordering :=
  compare (a * powerNum 10 k * powerDen 2 q) (b * powerDen 10 k * powerNum 2 q)

/-- The largest integer `d` with `d * 10 ^ k ≤ b * 2 ^ q`. -/
def floorDigits (b : Nat) (q k : Int) : Nat :=
  (b * powerDen 10 k * powerNum 2 q) / (powerNum 10 k * powerDen 2 q)

/-- The power of ten of the first digit of `m * 2 ^ q`, looked for from `k` downwards. -/
def firstPower (m : Nat) (q : Int) : Nat → Int → Int
  | 0, k => k
  | fuel + 1, k => if floorDigits m q k = 0 then firstPower m q fuel (k - 1) else k

/-- The decimal `d * 10 ^ k` is read back as `mantissa * 2 ^ exponent`: it lies between the middles
to the neighbours, of which the ends count for an even mantissa. -/
def readsBack (mantissa : Nat) (exponent : Int) (d : Nat) (k : Int) : Bool :=
  let below := if mantissa = mantissaBound / 2 && minExponent < exponent then 1 else 2
  let low := comparePowers d k (4 * mantissa - below) (exponent - 2)
  let high := comparePowers d k (4 * mantissa + 2) (exponent - 2)
  let even := mantissa % 2 = 0
  (low = .gt || (even && low = .eq)) && (high = .lt || (even && high = .eq))

/-- The nearer of the two decimals next to the number on the grid of `10 ^ k` that are read back. -/
def nearest? (mantissa : Nat) (exponent k : Int) : Option Nat :=
  let m := mantissa
  let d := floorDigits m exponent k
  let lower := readsBack m exponent d k
  let upper := readsBack m exponent (d + 1) k
  let middle := comparePowers (2 * d + 1) k (2 * m) exponent
  if lower && (!upper || middle = .gt || (middle = .eq && d % 2 = 0)) then some d
  else if upper then some (d + 1)
  else none

/-- The first grid, from that of `10 ^ k` on to finer ones, with a decimal that is read back. -/
def shortest (mantissa : Nat) (exponent : Int) : Nat → Int → Nat × Int
  | 0, k => (floorDigits mantissa exponent k, k)
  | fuel + 1, k =>
    match nearest? mantissa exponent k with
    | some d => (d, k)
    | none => shortest mantissa exponent fuel (k - 1)

/-- How decimals are laid out: where positional notation ends, and how many digits an exponent
has at least. -/
structure Layout where
  minPositional : Int
  maxPositional : Int
  exponentWidth : Nat

/-- From 0.0001 up to below 10^16 a number is written out, and always with a point. -/
def layout : Layout := ⟨-4, 15, 2⟩

/-- Decimal digits, of which the first stands for `10 ^ power`, laid out. -/
def Layout.show (l : Layout) (digits : Text) (power : Int) : Text :=
  if l.minPositional ≤ power && power ≤ l.maxPositional then
    if power < 0 then
      "0.".toList ++ List.replicate (power.natAbs - 1) '0' ++ digits
    else
      let whole := power.natAbs + 1
      let padded := digits ++ List.replicate (whole - digits.length) '0'
      let fraction := padded.drop whole
      padded.take whole ++ '.' :: (if fraction.isEmpty then ['0'] else fraction)
  else
    let exponent := Text.ofNat power.natAbs
    (match digits with
      | [] => []
      | [d] => [d]
      | d :: ds => d :: '.' :: ds) ++
    'e' :: (if power < 0 then '-' else '+') ::
      (List.replicate (l.exponentWidth - exponent.length) '0' ++ exponent)

/-- The text of a number. -/
def toText : Binary64 → Text
  | notANumber => "nan".toList
  | infinite negative => if negative then "-inf".toList else "inf".toList
  | finite negative mantissa exponent =>
    (if negative then ['-'] else []) ++
      if mantissa = 0 then "0.0".toList
      else
        let power := firstPower mantissa exponent 700 310
        let found := shortest mantissa exponent 17 power
        let digits := Nat.toDigits 10 found.1
        let kept := (digits.reverse.dropWhile (· = '0')).reverse
        layout.show kept (found.2 + digits.length - 1)

end Binary64

end MessageHarvest
