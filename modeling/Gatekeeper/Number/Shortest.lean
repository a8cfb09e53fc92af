/-! The shortest decimal that identifies a binary number: of all decimals that round to it, one with
the fewest digits, and of those the nearest. All arithmetic is exact. -/
namespace Gatekeeper.Number

/-- The positive number `mantissa * 2 ^ exponent`. It is narrow if its neighbour below is only half
as far away as its neighbour above. -/
structure Binary where
  mantissa : Nat
  exponent : Int
  narrow : Bool

structure Decimal where
  digits : Nat
  exponent : Int
deriving DecidableEq, Repr

def compareScaled (a : Nat) (i : Int) (b : Nat) (j : Int) : Ordering :=
  compare (a * Nat.pow 10 i.toNat * Nat.pow 2 (-j).toNat)
    (b * Nat.pow 2 j.toNat * Nat.pow 10 (-i).toNat)

/-- Whether a decimal lies in the interval that rounds to `x`; its ends belong to it if the mantissa
is even. -/
def Binary.covers (x : Binary) (d : Decimal) : Bool :=
  let even := x.mantissa % 2 == 0
  let below := if x.narrow then 4 * x.mantissa - 1 else 4 * x.mantissa - 2
  let low := compareScaled d.digits d.exponent below (x.exponent - 2)
  let high := compareScaled d.digits d.exponent (4 * x.mantissa + 2) (x.exponent - 2)
  (low == .gt || (even && low == .eq)) && (high == .lt || (even && high == .eq))

def Binary.magnitude (x : Binary) : Int :=
  let guess := ((x.mantissa.log2 : Int) + x.exponent) * 30103 / 100000
  let above (k : Int) : Bool := compareScaled 1 k x.mantissa x.exponent == .gt
  ([guess - 1, guess, guess + 1].find? above).getD (guess + 2)

/-- The multiples of `10 ^ grid` at or below `x` and above it, with the nearer one first; at equal
distance the even one. -/
def Binary.neighbours (x : Binary) (grid : Int) : List Decimal :=
  let top := x.mantissa * Nat.pow 2 x.exponent.toNat * Nat.pow 10 (-grid).toNat
  let bottom := Nat.pow 2 (-x.exponent).toNat * Nat.pow 10 grid.toNat
  let low := top / bottom
  let pair : List Decimal := [⟨low, grid⟩, ⟨low + 1, grid⟩]
  match compare (2 * (top % bottom)) bottom with
  | .lt => pair
  | .gt => pair.reverse
  | .eq => if low % 2 == 0 then pair else pair.reverse

def Decimal.strip (d : Decimal) : Decimal :=
  if d.digits ≠ 0 ∧ d.digits % 10 = 0 then Decimal.strip ⟨d.digits / 10, d.exponent + 1⟩ else d
termination_by d.digits
decreasing_by
  rename_i h
  exact Nat.div_lt_self (Nat.pos_of_ne_zero h.1) (by decide)

/-- Seventeen digits always suffice for a double; `x` itself is a multiple of the last grid. -/
def Binary.shortest (x : Binary) : Decimal :=
  let found := (List.range 17).findSome? fun (n : Nat) =>
    (x.neighbours (x.magnitude - 1 - n)).find? x.covers
  let whole := x.mantissa * Nat.pow 2 x.exponent.toNat * Nat.pow 5 (-x.exponent).toNat
  (found.getD ⟨whole, min x.exponent 0⟩).strip

end Gatekeeper.Number
