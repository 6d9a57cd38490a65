import MediaMarkup.Number.Binary64

/-!
The decimal text of a floating point number: the fewest digits that read back as it, the nearest of
those, set positionally or with an exponent.
-/

namespace MediaMarkup.Binary64

/-- The number `digits * 10 ^ exponent`. -/
structure Decimal where
  digits : Nat
  exponent : Int
  deriving DecidableEq, Repr

/-! ## Digits -/

/-- The position of the first digit of `significand * 2 ^ exponent`: zero for the units. -/
def leadingPlace (significand : Nat) (exponent : Int) : Int :=
  let (numerator, denominator) := scaleDown 2 significand 1 (-exponent)
  if denominator ≤ numerator then (Nat.toDigits 10 (numerator / denominator)).length - 1
  else
    match (List.range 400).find? (fun k => denominator ≤ numerator * Nat.pow 10 k) with
    | some k => -k
    | none => 0

/-- The multiple of `10 ^ place` next to `significand * 2 ^ exponent` that reads back as it, if one
of the two neighbours does. Both are measured in quarters of the number's last place, so that half
a place above and below are whole; a number at a power of two has a closer neighbour below. -/
def onGrid? (significand : Nat) (exponent place : Int) : Option Decimal :=
  let quarter := Nat.pow 2 (exponent - 2).toNat * Nat.pow 10 (-place).toNat
  let grid := Nat.pow 10 place.toNat * Nat.pow 2 (2 - exponent).toNat
  let below := if significand = leastNormal && leastExponent < exponent then 1 else 2
  let low := (4 * significand - below) * quarter
  let high := (4 * significand + 2) * quarter
  let floor := 4 * significand * quarter / grid
  let rest := 2 * (4 * significand * quarter % grid)
  let upFirst := grid < rest || (grid = rest && floor % 2 = 1)
  let neighbours := if upFirst then [floor + 1, floor] else [floor, floor + 1]
  let inside (k : Nat) : Bool :=
    if significand % 2 = 0 then low ≤ k * grid && k * grid ≤ high
    else low < k * grid && k * grid < high
  (neighbours.find? inside).map (fun k => ⟨k, place⟩)

/-- The coarsest grid with a hit; seventeen digits always suffice. -/
def shortest (significand : Nat) (exponent : Int) : Decimal :=
  let place := leadingPlace significand exponent
  ((List.range 17).findSome? (fun n : Nat => onGrid? significand exponent (place - n))).getD ⟨0, 0⟩

/-! ## Text -/

def digitText (n : Nat) : List Char :=
  Nat.toDigits 10 n

/-- An exponent has a sign and at least two digits. -/
def exponentText (n : Int) : List Char :=
  let digits := digitText n.natAbs
  'e' :: (if n < 0 then '-' else '+') :: (List.replicate (2 - digits.length) '0' ++ digits)

/-- Digits without trailing zeros, with the point `point` places to the right of their start. The
text is positional from `0.0001` up to sixteen digits before the point, and always shows a
fraction there. -/
def placePoint (digits : List Char) (point : Int) : List Char :=
  if -4 < point && point ≤ 16 then
    if point ≤ 0 then '0' :: '.' :: (List.replicate (-point).toNat '0' ++ digits)
    else
      let whole := digits.take point.toNat
      let fraction := digits.drop point.toNat
      whole ++ List.replicate (point.toNat - whole.length) '0' ++
        '.' :: (if fraction.isEmpty then ['0'] else fraction)
  else
    let fraction := digits.drop 1
    digits.take 1 ++ (if fraction.isEmpty then [] else '.' :: fraction) ++ exponentText (point - 1)

def positiveText (significand : Nat) (exponent : Int) : List Char :=
  if significand = 0 then ['0', '.', '0']
  else
    let decimal := shortest significand exponent
    let digits := digitText decimal.digits
    let trimmed := (digits.reverse.dropWhile (· = '0')).reverse
    placePoint trimmed (digits.length + decimal.exponent)

/-- The text of a number, infinities being spelt by `infinity`. -/
def text (infinity : List Char) : Binary64 → List Char
  | .finite negative significand exponent =>
    (if negative then ['-'] else []) ++ positiveText significand exponent
  | .infinite negative => (if negative then ['-'] else []) ++ infinity

end MediaMarkup.Binary64
