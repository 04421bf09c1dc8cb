/-!
# The shortest decimal of a binary number

A floating-point number stands for all reals that round to it. Of the decimals among these, the one
with the fewest digits is written, and of several the nearest; of two that are equally near, a rule
that the caller gives takes one. The search goes through the digit counts from one up; for each
count the two neighbours of the number on that decimal grid decide, in exact arithmetic.
-/

namespace TemplateServer.Decimal

/-- The positive number `mantissa * 2 ^ exponent`, and whether the next number below it is only half
as far away as the next one above. -/
structure Binary where
  mantissa : Nat
  exponent : Int
  narrow : Bool
deriving DecidableEq, Repr

structure Numeral where
  digits : Nat
  exponent : Int
deriving DecidableEq, Repr

/-- Which of two equally near decimals is taken. -/
inductive Tie
  | greater
  /-- The one whose last digit is even. -/
  | even
deriving DecidableEq, Repr

/-- Whether of two equally near decimals the one with the digits `below`, and not the next one, is
taken. -/
def Tie.takesBelow (tie : Tie) (below : Nat) : Bool :=
  match tie with
  | greater => false
  | even => below % 2 == 0

/-- What the bits of a double say. -/
inductive Double
  | zero (negative : Bool)
  | finite (negative : Bool) (value : Binary)
  | infinite (negative : Bool)
  | nan
deriving DecidableEq, Repr

/-- Takes the bits of a double apart. -/
def Double.ofBits (bits : UInt64) : Double :=
  let n : Nat := bits.toNat
  let negative := n / Nat.pow 2 63 == 1
  let biased : Nat := n / Nat.pow 2 52 % Nat.pow 2 11
  let fraction : Nat := n % Nat.pow 2 52
  if biased == 2047 then if fraction == 0 then .infinite negative else .nan
  else if biased == 0 then
    if fraction == 0 then .zero negative else .finite negative ⟨fraction, -1074, false⟩
  else
    .finite negative ⟨fraction + Nat.pow 2 52, (biased : Int) - 1075, fraction == 0 && 1 < biased⟩

/-- Nonnegative rationals with a common denominator: the number itself and the ends of the interval
of the reals that round to it. -/
structure Interval where
  low : Nat
  value : Nat
  high : Nat
  denominator : Nat
  /-- The ends belong to the interval. -/
  closed : Bool

/-- The interval of a number. The ends round to the number if its mantissa is even. -/
def Interval.ofBinary (b : Binary) : Interval :=
  let scale := Nat.pow 2 (b.exponent - 2).toNat
  { low := (4 * b.mantissa - if b.narrow then 1 else 2) * scale
    value := 4 * b.mantissa * scale
    high := (4 * b.mantissa + 2) * scale
    denominator := Nat.pow 2 (2 - b.exponent).toNat
    closed := b.mantissa % 2 == 0 }

def Interval.contains (i : Interval) (numerator denominator : Nat) : Bool :=
  let n := numerator * i.denominator
  if i.closed then i.low * denominator ≤ n && n ≤ i.high * denominator
  else i.low * denominator < n && n < i.high * denominator

/-- The least `k` from `first` on, in at most `fuel` steps, with the value below `10 ^ k`. -/
def magnitudeFrom (i : Interval) : Nat → Int → Int
  | 0, first => first
  | fuel + 1, first =>
    if i.value * Nat.pow 10 (-first).toNat < i.denominator * Nat.pow 10 first.toNat then first
    else magnitudeFrom i fuel (first + 1)

/-- The number of digits that a value has before the point, or less the zeros behind it. -/
def magnitude (i : Interval) : Int := magnitudeFrom i 640 (-325)

/-- The better of the two neighbours of a value on the grid of the multiples of `10 ^ exponent`, if
one of them lies in the interval. -/
def onGrid? (tie : Tie) (i : Interval) (exponent : Int) : Option Numeral :=
  let up := Nat.pow 10 exponent.toNat
  let down := Nat.pow 10 (-exponent).toNat
  let below := i.value * down / (i.denominator * up)
  let fits (d : Nat) : Bool := i.contains (d * up) down
  let missBelow := i.value * down - below * i.denominator * up
  let missAbove := (below + 1) * i.denominator * up - i.value * down
  match fits below, fits (below + 1) with
  | true, true =>
    let takesBelow := missBelow < missAbove || (missBelow == missAbove && tie.takesBelow below)
    some ⟨if takesBelow then below else below + 1, exponent⟩
  | true, false => some ⟨below, exponent⟩
  | false, true => some ⟨below + 1, exponent⟩
  | false, false => none

/-- Zeros at the end of the digits are written by the exponent. -/
def normalize : Nat → Numeral → Numeral
  | 0, d => d
  | fuel + 1, d =>
    if d.digits % 10 == 0 && d.digits != 0 then normalize fuel ⟨d.digits / 10, d.exponent + 1⟩
    else d

/-- The shortest decimal that rounds to a number. Seventeen digits are enough for a double. -/
def shortest (tie : Tie) (b : Binary) : Numeral :=
  let i := Interval.ofBinary b
  let k := magnitude i
  let found := (List.range 17).findSome? fun n => onGrid? tie i (k - (n + 1 : Nat))
  normalize 20 (found.getD ⟨b.mantissa, 0⟩)

/-- The digits of a decimal, without leading zeros. -/
def Numeral.digitChars (d : Numeral) : List Char := Nat.toDigits 10 d.digits

def zeros (n : Nat) : List Char := List.replicate n '0'

/-- A decimal without exponent, and without a point if it is whole. -/
def Numeral.positional (d : Numeral) : List Char :=
  let ds := d.digitChars
  let point : Int := ds.length + d.exponent
  if 0 ≤ d.exponent then ds ++ zeros d.exponent.toNat
  else if 0 < point then ds.take point.toNat ++ '.' :: ds.drop point.toNat
  else '0' :: '.' :: zeros (-point).toNat ++ ds

/-- The exponent of the first digit of a decimal. -/
def Numeral.leading (d : Numeral) : Int := d.digitChars.length + d.exponent - 1

/-- A decimal with one digit before the point, and an exponent, which has a plus sign if `plusSign`
asks for it and no minus sign stands there. -/
def Numeral.scientific (plusSign : Bool) (d : Numeral) : List Char :=
  let ds := d.digitChars
  let tail := if ds.length ≤ 1 then [] else '.' :: ds.drop 1
  let sign := if plusSign && 0 ≤ d.leading then ['+'] else []
  ds.take 1 ++ tail ++ 'e' :: sign ++ (toString d.leading).toList

end TemplateServer.Decimal
