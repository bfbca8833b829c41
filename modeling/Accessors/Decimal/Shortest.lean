/-!
The shortest decimal that reads back as a given binary floating-point number. A number
`m * 2 ^ q` owns the reals that are rounded to it, and of all decimals among them with the fewest
digits the nearest is taken.
-/

set_option autoImplicit false

namespace Accessors

/-- The number `digits * 10 ^ exponent`. -/
structure Decimal where
  digits : Nat
  exponent : Int
deriving DecidableEq

namespace Decimal

/-- The reals owned by a positive number, in quarters of its last place: `value`, its two ends
`low` and `high`, all over `den`, and whether the ends belong to it. -/
structure Interval where
  low : Nat
  value : Nat
  high : Nat
  den : Nat
  closed : Bool

/-- The number `m * 2 ^ q`. Below a power of two the neighbour is only half as far away (`edge`). -/
def Interval.of (m : Nat) (q : Int) (edge : Bool) : Interval :=
  let up := Nat.pow 2 q.toNat
  { low := (4 * m - (if edge then 1 else 2)) * up
    value := 4 * m * up
    high := (4 * m + 2) * up
    den := 4 * Nat.pow 2 (-q).toNat
    closed := m % 2 == 0 }

/-- The number of decimal places before the point: `10 ^ (magnitude - 1) ≤ value < 10 ^ magnitude`.
The shift makes every positive double at least one. -/
def Interval.magnitude (i : Interval) : Int :=
  ((Nat.toDigits 10 (i.value * Nat.pow 10 342 / i.den)).length : Int) - 342

/-- The best multiple of `10 ^ e` in the interval: the two neighbours of the value are tried, of
two hits the nearer is taken, and of two equally near ones the even. -/
def Interval.hit? (i : Interval) (e : Int) : Option Nat :=
  let up := Nat.pow 10 (-e).toNat
  let unit := i.den * Nat.pow 10 e.toNat
  let value := i.value * up
  let inside (n : Nat) : Bool :=
    if i.closed then i.low * up ≤ n * unit && n * unit ≤ i.high * up
    else i.low * up < n * unit && n * unit < i.high * up
  let floor := value / unit
  let below := value - floor * unit
  let above := (floor + 1) * unit - value
  match inside floor, inside (floor + 1) with
  | true, true =>
    if below < above || (below == above && floor % 2 == 0) then some floor else some (floor + 1)
  | true, false => some floor
  | false, true => some (floor + 1)
  | false, false => none

/-- Moves zeros at the end of the digits into the exponent; `n` bounds their number. -/
def strip : Nat → Decimal → Decimal
  | 0, d => d
  | n + 1, d => if d.digits % 10 == 0 then strip n ⟨d.digits / 10, d.exponent + 1⟩ else d

/-- One to seventeen digits are tried in turn; seventeen are always enough. -/
def Interval.shortest (i : Interval) : Decimal :=
  let places := i.magnitude
  let found := (List.range 17).findSome? fun (n : Nat) =>
    let e := places - ((n : Int) + 1)
    (i.hit? e).map fun digits => strip 18 ⟨digits, e⟩
  found.getD ⟨0, 0⟩

/-- The shortest decimal of a positive, finite double, from its bits. -/
def ofBits (bits : UInt64) : Decimal :=
  let fraction : Nat := bits.toNat % 0x10000000000000
  let scale : Nat := bits.toNat / 0x10000000000000 % 2048
  if scale = 0 then (Interval.of fraction (-1074) false).shortest
  else
    let atPower := fraction == 0 && scale > 1
    (Interval.of (0x10000000000000 + fraction) ((scale : Int) - 1075) atPower).shortest

end Decimal

end Accessors
