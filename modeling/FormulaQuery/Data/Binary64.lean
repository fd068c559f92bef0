/-
  FormulaQuery/Data/Binary64.lean
  ===============================
  **Double precision numbers, exactly.**  A finite number is `± mantissa · 2 ^ exponent`
  with a mantissa below `2 ^ 53`.  Reading a decimal gives the nearest number,
  ties to the even mantissa; writing a number gives the fewest digits that read
  back to it.
-/

namespace FormulaQuery

inductive Binary64 where
  | finite (negative : Bool) (mantissa : Nat) (exponent : Int)
  | infinite (negative : Bool)
  | nan
  deriving DecidableEq, Repr, Inhabited

namespace Binary64

/-- The least exponent; numbers below `2 ^ 52 · 2 ^ leastExponent` have fewer bits. -/
def leastExponent : Int := -1074

def greatestExponent : Int := 971

/-- The quotient rounded to the nearest integer, ties to even. -/
def roundDiv (num den : Nat) : Nat :=
  let q := num / den
  let twice := 2 * (num % den)
  if twice < den then q
  else if den < twice then q + 1
  else if q % 2 = 0 then q else q + 1

/-- The numerator and the denominator of `num / den · 2 ^ (-e)`. -/
def scaled (num den : Nat) (e : Int) : Nat × Nat :=
  if e < 0 then (num * Nat.pow 2 (-e).toNat, den) else (num, den * Nat.pow 2 e.toNat)

def ofRatio (negative : Bool) (num den : Nat) : Binary64 :=
  if num = 0 then finite negative 0 leastExponent
  else
    -- an estimate that leaves 53 or 54 bits in front of the point
    let guess : Int := Int.ofNat num.log2 - Int.ofNat den.log2 - 53
    let wide (e : Int) : Bool :=
      let (n, d) := scaled num den e
      decide (Nat.pow 2 53 * d ≤ n)
    let tight := if wide guess then (if wide (guess + 1) then guess + 2 else guess + 1) else guess
    let e := max tight leastExponent
    let (n, d) := scaled num den e
    let m := roundDiv n d
    let (m, e) := if m = Nat.pow 2 53 then (Nat.pow 2 52, e + 1) else (m, e)
    if greatestExponent < e then infinite negative else finite negative m e

/-- The number nearest to `digits · 10 ^ power`.  Beyond the bounds of finite numbers
    the size alone decides. -/
def ofDecimal (negative : Bool) (digits : Nat) (power : Int) : Binary64 :=
  -- not more than one below the decimal exponent
  let size := power + Int.ofNat (digits.log2 * 30102 / 100000)
  if digits = 0 ∨ size < -400 then finite negative 0 leastExponent
  else if 400 < size then infinite negative
  else if power < 0 then ofRatio negative digits (Nat.pow 10 (-power).toNat)
  else ofRatio negative (digits * Nat.pow 10 power.toNat) 1

/-! ### Arithmetic -/

def ofNat (n : Nat) : Binary64 := ofRatio false n 1

def negate : Binary64 → Binary64
  | finite negative m e => finite (!negative) m e
  | infinite negative => infinite (!negative)
  | nan => nan

def ofScaled (negative : Bool) (mantissa : Nat) (exponent : Int) : Binary64 :=
  if exponent < 0 then ofRatio negative mantissa (Nat.pow 2 (-exponent).toNat)
  else ofRatio negative (mantissa * Nat.pow 2 exponent.toNat) 1

def mul : Binary64 → Binary64 → Binary64
  | nan, _ => nan
  | _, nan => nan
  | infinite s, infinite t => infinite (s != t)
  | infinite s, finite t m _ => if m = 0 then nan else infinite (s != t)
  | finite s m _, infinite t => if m = 0 then nan else infinite (s != t)
  | finite s m e, finite t n f => ofScaled (s != t) (m * n) (e + f)

/-- The sum, rounded to the nearest number; a sum of zero is positive unless both
    numbers are negative. -/
def add : Binary64 → Binary64 → Binary64
  | nan, _ => nan
  | _, nan => nan
  | infinite s, infinite t => if s = t then infinite s else nan
  | infinite s, finite _ _ _ => infinite s
  | finite _ _ _, infinite t => infinite t
  | finite s m e, finite t n f =>
    let least := min e f
    let units (negative : Bool) (mantissa : Nat) (exponent : Int) : Int :=
      let size := Int.ofNat (mantissa * Nat.pow 2 (exponent - least).toNat)
      if negative then -size else size
    let sum := units s m e + units t n f
    if sum = 0 then finite (s && t) 0 leastExponent
    else ofScaled (sum < 0) sum.natAbs least

def integer? : Binary64 → Option Int
  | finite negative m e =>
    let magnitude? : Option Nat :=
      if 0 ≤ e then some (m * Nat.pow 2 e.toNat)
      else if m % Nat.pow 2 (-e).toNat = 0 then some (m / Nat.pow 2 (-e).toNat) else none
    magnitude?.map fun n => if negative then - Int.ofNat n else Int.ofNat n
  | infinite _ => none
  | nan => none

/-! ### Shortest decimals -/

/-- Decimal digits `digits` with the point in front of the first one, times
    `10 ^ point`. -/
structure Decimal where
  digits : List Char
  point : Int

/-- The greatest `k` up to `limit` with `10 ^ k ≤ num / den`, counted up from `-limit`. -/
def decimalExponent (num den : Nat) : Int :=
  let atLeast (k : Int) : Bool :=
    if k < 0 then decide (den ≤ num * Nat.pow 10 (-k).toNat)
    else decide (den * Nat.pow 10 k.toNat ≤ num)
  -- a bound from the binary logarithms, then at most a few corrections
  let start : Int := (Int.ofNat num.log2 - Int.ofNat den.log2 + 1) * 30103 / 100000 + 1
  (List.range 6).foldl (fun k _ => if atLeast k then k else k - 1) start

/-- Digits of a candidate with `count` digits for `num / den`, if one lies in the
    interval from `low` to `high` (over the same denominator). -/
def candidate? (num low high den : Nat) (closed : Bool) (top : Int) (count : Nat) :
    Option (Nat × Int) :=
  let power : Int := top + 1 - Int.ofNat count
  -- everything in units of `10 ^ power`
  let up := if power < 0 then Nat.pow 10 (-power).toNat else 1
  let down := if power < 0 then den else den * Nat.pow 10 power.toNat
  let lower := num * up / down
  let inside (c : Nat) : Bool :=
    if closed then decide (low * up ≤ c * down) && decide (c * down ≤ high * up)
    else decide (low * up < c * down) && decide (c * down < high * up)
  let belowGap := num * up - lower * down
  let aboveGap := (lower + 1) * down - num * up
  let preferLower := decide (belowGap < aboveGap) || (belowGap == aboveGap && lower % 2 == 0)
  match inside lower, inside (lower + 1) with
  | true, true => some (if preferLower then lower else lower + 1, power)
  | true, false => some (lower, power)
  | false, true => some (lower + 1, power)
  | false, false => none

def dropTrailingZeros (ds : List Char) : List Char := (ds.reverse.dropWhile (· == '0')).reverse

/-- The fewest digits that read back to `mantissa · 2 ^ exponent`, a number above 0. -/
def shortest (m : Nat) (e : Int) : Decimal :=
  let (den, factor) : Nat × Nat :=
    if e < 0 then (4 * Nat.pow 2 (-e).toNat, 1) else (4, Nat.pow 2 e.toNat)
  let num := 4 * m * factor
  let high := (4 * m + 2) * factor
  let low := (if m = Nat.pow 2 52 && leastExponent < e then 4 * m - 1 else 4 * m - 2) * factor
  let top := decimalExponent num den
  let found := (List.range 17).findSome? fun i =>
    candidate? num low high den (m % 2 == 0) top (i + 1)
  match found with
  | some (digits, power) =>
    let ds := Nat.toDigits 10 digits
    ⟨dropTrailingZeros ds, power + Int.ofNat ds.length⟩
  | none => ⟨Nat.toDigits 10 m, 0⟩

def renderExponent (e : Int) : String :=
  let digits := toString e.natAbs
  "e" ++ (if e < 0 then "-" else "+") ++ (if digits.length < 2 then "0" ++ digits else digits)

/-- Digits with the point at its place: positional while the point is at most 16
    digits to the right and three zeros to the left, scientific beyond. -/
def Decimal.render (d : Decimal) : String :=
  let ds := d.digits
  if -4 < d.point && d.point ≤ 0 then
    "0." ++ String.ofList (List.replicate (-d.point).toNat '0' ++ ds)
  else if 0 < d.point && d.point ≤ 16 then
    let n := d.point.toNat
    if ds.length ≤ n then
      String.ofList (ds ++ List.replicate (n - ds.length) '0') ++ ".0"
    else String.ofList (ds.take n) ++ "." ++ String.ofList (ds.drop n)
  else
    let mantissa := match ds with
      | [] => "0"
      | [c] => String.ofList [c]
      | c :: rest => String.ofList (c :: '.' :: rest)
    mantissa ++ renderExponent (d.point - 1)

def render : Binary64 → String
  | nan => "nan"
  | infinite negative => if negative then "-inf" else "inf"
  | finite negative m e =>
    (if negative then "-" else "") ++ (if m = 0 then "0.0" else (shortest m e).render)

end Binary64

end FormulaQuery
