namespace ScriptRunner.Decimal

/-- The number `mantissa * 2 ^ exponent`, with a mantissa of at most 53 bits. -/
structure Double where
  mantissa : Nat
  exponent : Int
  deriving DecidableEq, Repr

def scale (base : Nat) (num den : Nat) (e : Int) : Nat × Nat :=
  if 0 ≤ e then (num * Nat.pow base e.toNat, den) else (num, den * Nat.pow base (-e).toNat)

/-- The quotient to the nearest whole number, a half to the even neighbour. -/
def roundDiv (num den : Nat) : Nat :=
  let q := num / den
  let twice := 2 * (num % den)
  if den < twice || (twice == den && q % 2 == 1) then q + 1 else q

/-- The least exponent from `e` on, within `fuel` steps, at which the mantissa of the ratio fits. -/
def fitExponent (num den : Nat) : Nat → Int → Int
  | 0, e => e
  | fuel + 1, e =>
    let (n, d) := scale 2 num den (-e)
    if n < d * 0x20000000000000 then e else fitExponent num den fuel (e + 1)

def nearest? (num den : Nat) : Option Double :=
  if num = 0 then some ⟨0, -1074⟩
  else
    let guess : Int := (num.log2 : Int) - (den.log2 : Int) - 53
    let e := fitExponent num den 3 (max guess (-1074))
    let (n, d) := scale 2 num den (-e)
    let m := roundDiv n d
    let (m, e) := if m = 0x20000000000000 then (0x10000000000000, e + 1) else (m, e)
    if 971 < e then none else some ⟨m, e⟩

namespace Double

def ratio (x : Double) : Nat × Nat := scale 2 x.mantissa 1 x.exponent

def tenAbove (num den : Nat) : Nat → Int → Int
  | 0, k => k
  | fuel + 1, k =>
    let (n, d) := scale 10 num den (-k)
    if n < d then k else tenAbove num den fuel (k + 1)

/-- Digits `s` and a power of ten `k` such that the number is `0.s * 10 ^ k`, with `n` digits or more. -/
def digitsFrom (x : Double) (k : Int) : Nat → Nat → Nat × Int
  | 0, n => (0, k - n)
  | fuel + 1, n =>
    let (num, den) := x.ratio
    let unit : Int := k - n
    let (a, b) := scale 10 num den (-unit)
    let low := a / b
    let reads (c : Nat) : Bool :=
      let (p, q) := scale 10 c 1 unit
      nearest? p q == some x
    match reads low, reads (low + 1) with
    | true, true => (roundDiv a b, unit)
    | true, false => (low, unit)
    | false, true => (low + 1, unit)
    | false, false => digitsFrom x k fuel (n + 1)

def text (x : Double) : String :=
  if x.mantissa = 0 then "0"
  else
    let (num, den) := x.ratio
    let k := tenAbove num den 640 (((num.log2 : Int) - (den.log2 : Int)) * 3 / 10 - 2)
    let (digits, unit) := x.digitsFrom k 18 1
    let s := toString digits
    if 0 ≤ unit then s ++ String.ofList (List.replicate unit.toNat '0')
    else
      let places := (-unit).toNat
      let padded := List.replicate (places + 1 - s.length) '0' ++ s.toList
      let whole := padded.take (padded.length - places)
      String.ofList (whole ++ '.' :: padded.drop (padded.length - places))

end Double

def display (negative : Bool) (digits : Nat) (exponent : Int) : String :=
  let sign := if negative then "-" else ""
  let size : Int := (toString digits).length + exponent
  if digits = 0 || size < -330 then sign ++ "0"
  else if 310 < size then sign ++ "inf"
  else
    let (n, d) := scale 10 digits 1 exponent
    match nearest? n d with
    | some x => sign ++ x.text
    | none => sign ++ "inf"

end ScriptRunner.Decimal
