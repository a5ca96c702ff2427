/-!
# Numbers with a binary exponent

Numbers of 64 bits as exact pairs of naturals, so that rounding and printing are arithmetic on
naturals. A magnitude is `mantissa · 2 ^ exponent / 2 ^ 1074` with a mantissa of at most 53 bits.

* `Binary64.round` finds the nearest magnitude to a fraction, ties to an even mantissa.
* `Binary64.shortest` finds the shortest decimal that rounds back to a magnitude, the nearest of
  those.
* `Binary64.text` writes it.
-/

namespace ComponentTags.Json

/-- A signed number of 64 bits. -/
structure Binary64 where
  negative : Bool := false
  mantissa : Nat := 0
  exponent : Nat := 0
deriving DecidableEq, Repr

namespace Binary64

/-- The denominator of the smallest magnitude. -/
def unit : Nat := Nat.pow 2 1074

/-- A quotient rounded to a natural, a half to the even neighbour. -/
def roundDiv (num den : Nat) : Nat :=
  let q := num / den
  let twice := 2 * (num % den)
  if twice < den then q else if den < twice then q + 1 else q + q % 2

/-- The magnitude nearest to a fraction; none if it is too large. -/
def round (num den : Nat) : Option Binary64 :=
  let scaled := num * unit
  let bits := if scaled / den = 0 then 0 else (scaled / den).log2 + 1
  let exponent := bits - 53
  let mantissa := roundDiv scaled (den * Nat.pow 2 exponent)
  -- Rounding up can carry into a bit of its own.
  let (mantissa, exponent) :=
    if mantissa = Nat.pow 2 53 then (Nat.pow 2 52, exponent + 1) else (mantissa, exponent)
  if 2045 < exponent then none else some { mantissa, exponent }

/-- The magnitude times `unit`. -/
def scaled (x : Binary64) : Nat :=
  x.mantissa * Nat.pow 2 x.exponent

/-- The product of two magnitudes. -/
def mul (x y : Binary64) : Option Binary64 :=
  round (x.scaled * y.scaled) (unit * unit)

/-- The quotient of two magnitudes. -/
def div (x y : Binary64) : Option Binary64 :=
  round x.scaled y.scaled

/-- The magnitude nearest to a natural. -/
def ofNat (n : Nat) : Option Binary64 :=
  round n 1

/-- Whether the magnitude is zero. -/
def isZero (x : Binary64) : Bool :=
  x.mantissa == 0

/-- `significand · 10 ^ exponent`, found by one multiplication or division with a power of ten; a
very small exponent is reached in steps of 308. None if the result is too large. -/
def ofDecimal? (significand : Nat) (exponent : Int) : Option Binary64 := do
  let x ← ofNat significand
  if x.isZero then return x
  match exponent with
  | .ofNat e => if 308 < e then none else mul x (← ofNat (Nat.pow 10 e))
  | .negSucc e => shrink x (e + 1) (e + 1)
where
  /-- Divides by a power of ten. -/
  shrink (x : Binary64) : Nat → Nat → Option Binary64
    | 0, _ => some x
    | fuel + 1, e => do
      if x.isZero then return x
      if e ≤ 308 then div x (← ofNat (Nat.pow 10 e))
      else shrink (← div x (← ofNat (Nat.pow 10 308))) fuel (e - 308)

/-! ## Shortest decimals -/

/-- A decimal `digits · 10 ^ exponent`. -/
structure Decimal where
  digits : Nat
  exponent : Int
deriving DecidableEq, Repr

/-- The exponent of the leading decimal digit of `num / den`, a positive fraction. -/
def leadingExponent (num den : Nat) : Int :=
  if den ≤ num then ((Nat.toDigits 10 (num / den)).length : Int) - 1
  else below 400 1
where
  /-- The least shift that brings the fraction to one or above, negated. -/
  below : Nat → Nat → Int
    | 0, shift => -(shift : Int)
    | fuel + 1, shift =>
      if den ≤ num * Nat.pow 10 shift then -(shift : Int) else below fuel (shift + 1)

/-- Removes trailing zeros. -/
def Decimal.trim (d : Decimal) : Decimal :=
  go 20 d
where
  /-- Removes at most so many zeros. -/
  go : Nat → Decimal → Decimal
    | 0, d => d
    | fuel + 1, d =>
      if d.digits ≠ 0 && d.digits % 10 = 0 then go fuel ⟨d.digits / 10, d.exponent + 1⟩ else d

/-- The shortest decimal that rounds to a positive magnitude, and the nearest such. A decimal rounds
to it when it lies between the midpoints to its neighbours, or on one if the mantissa is even. -/
def shortest (x : Binary64) : Decimal :=
  let power := Nat.pow 2 x.exponent
  let value := 4 * x.mantissa * power
  let high := value + 2 * power
  let low := value - (if x.mantissa = Nat.pow 2 52 && 0 < x.exponent then 1 else 2) * power
  let den := 4 * unit
  let lead := leadingExponent value den
  search x value low high den lead 17 1
where
  /-- Tries so many grids, the first of them with so many digits. -/
  search (x : Binary64) (value low high den : Nat) (lead : Int) : Nat → Nat → Decimal
    | 0, _ => ⟨0, 0⟩
    | fuel + 1, count =>
      let exponent := lead - count + 1
      -- One step of the grid is `step / factor` in units of `1 / den`.
      let step := den * Nat.pow 10 exponent.toNat
      let factor := Nat.pow 10 (-exponent).toNat
      let down := value * factor / step
      let inside (d : Nat) : Bool :=
        let point := d * step
        let even := x.mantissa % 2 = 0
        (low * factor < point || (even && low * factor = point)) &&
          (point < high * factor || (even && point = high * factor))
      let downGap := value * factor - down * step
      let upGap := (down + 1) * step - value * factor
      if inside down && inside (down + 1) then
        if downGap < upGap || (downGap = upGap && down % 2 = 0) then Decimal.trim ⟨down, exponent⟩
        else Decimal.trim ⟨down + 1, exponent⟩
      else if inside down then Decimal.trim ⟨down, exponent⟩
      else if inside (down + 1) then Decimal.trim ⟨down + 1, exponent⟩
      else search x value low high den lead fuel (count + 1)

/-! ## Text -/

/-- Zeros. -/
def zeros (n : Nat) : String :=
  String.ofList (List.replicate n '0')

/-- A decimal in positional notation where its leading digit is worth `10 ^ -5` to `10 ^ 15`, and
else with an exponent that has a sign and at least two digits. -/
def Decimal.text (d : Decimal) : String :=
  let digits := Nat.toDigits 10 d.digits
  let lead := d.exponent + digits.length - 1
  if -5 ≤ lead && lead ≤ 15 then
    if 0 ≤ d.exponent then String.ofList digits ++ zeros d.exponent.toNat ++ ".0"
    else if 0 ≤ lead then
      String.ofList (digits.take (lead.toNat + 1)) ++ "." ++
        String.ofList (digits.drop (lead.toNat + 1))
    else "0." ++ zeros (-lead - 1).toNat ++ String.ofList digits
  else
    let fraction := if digits.length = 1 then "" else "." ++ String.ofList (digits.drop 1)
    let size := Nat.toDigits 10 lead.natAbs
    String.ofList (digits.take 1) ++ fraction ++ (if lead < 0 then "e-" else "e+") ++
      (if size.length = 1 then "0" else "") ++ String.ofList size

/-- A number in words of a program: always with a point or an exponent. -/
def text (x : Binary64) : String :=
  (if x.negative then "-" else "") ++ if x.isZero then "0.0" else x.shortest.text

end Binary64

end ComponentTags.Json
