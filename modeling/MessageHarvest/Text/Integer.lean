import MessageHarvest.Text.Quoted

/-!
# Integers in text

White space around the number is passed over. A sign may stand before it, and single underscores
between its digits, which may be those of any script.
-/
namespace MessageHarvest

/-- More decimal digits than are read as one number. -/
structure TooManyDigits where
  digits : Nat
deriving DecidableEq

namespace TooManyDigits

/-- The most decimal digits that are read. -/
def limit : Nat := 4300

/-- What is reported. -/
def message (e : TooManyDigits) : Text :=
  "Exceeds the limit (".toList ++ Text.ofNat limit ++
    " digits) for integer string conversion: value has ".toList ++ Text.ofNat e.digits ++
    " digits; use sys.set_int_max_str_digits() to increase the limit".toList

end TooManyDigits

namespace Integer

/-- Reads digits with single underscores between them. `afterDigit` tells that one has just been
read. -/
def digits? : Bool → Text → Option Text
  | afterDigit, [] => if afterDigit then some [] else none
  | afterDigit, c :: cs =>
    if c = '_' then if afterDigit then digits? false cs else none
    else if Text.isNumeral c then
      (digits? true cs).map (Nat.digitChar (Text.numeralValue c) :: ·)
    else none

/-- The integer that a text writes. Very long ones are refused. -/
def ofText? (s : Text) : Option Int :=
  let bare := ((s.dropWhile Text.isSpace).reverse.dropWhile Text.isSpace).reverse
  let sign := match bare with
    | '-' :: cs => (true, cs)
    | '+' :: cs => (false, cs)
    | cs => (false, cs)
  (digits? false sign.2).bind fun digits =>
    if TooManyDigits.limit < digits.length then none
    else
      let n : Int := Nat.ofDigitChars 10 digits 0
      some (if sign.1 then -n else n)

end Integer

end MessageHarvest
