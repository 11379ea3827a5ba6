/-!
# Binary64 numbers

Weights and likelihoods are binary64 numbers.  A finite number is kept as its sign and its `rank`,
the number of nonnegative binary64 numbers below its magnitude, so that equality, order and
neighbours are those of natural numbers.  Magnitudes are measured in *units* of `2 ^ (-1074)`, the
distance between the smallest two: every finite magnitude is a whole number of units, and
arithmetic is exact arithmetic on units followed by one rounding to the nearest.
-/

namespace InstanceIdentity

/-- A binary64 number.  The rank of a finite number is below `2047 * 2 ^ 52`. -/
inductive Binary64 where
  | finite (negative : Bool) (rank : Fin (2047 * Nat.pow 2 52))
  | infinite (negative : Bool)
  | nan
  deriving DecidableEq, Inhabited

namespace Binary64

/-- The number of nonnegative finite binary64 numbers. -/
def rankBound : Nat := 2047 * Nat.pow 2 52

/-- The magnitude of the number of a given rank, in units.  The first `2 ^ 53` ranks are one unit
apart, and the distance doubles after each further `2 ^ 52` ranks.  The formula continues past
`rankBound`, where it gives the magnitudes that a wider exponent would allow. -/
def magnitude (rank : Nat) : Nat :=
  if rank / Nat.pow 2 52 = 0 then rank
  else (Nat.pow 2 52 + rank % Nat.pow 2 52) * Nat.pow 2 (rank / Nat.pow 2 52 - 1)

/-- The natural number nearest to `num / den`; a half goes to the even neighbour. -/
def roundHalfEven (num den : Nat) : Nat :=
  if 2 * (num % den) < den ∨ (2 * (num % den) = den ∧ num / den % 2 = 0) then num / den
  else num / den + 1

/-- The rank whose magnitude is nearest to `num / den` units; a half goes to the even rank. -/
def nearestRank (num den : Nat) : Nat :=
  let shift := (num / den).log2 - 52
  shift * Nat.pow 2 52 + roundHalfEven num (den * Nat.pow 2 shift)

/-- The binary64 number nearest to a signed quotient of units, infinite when the rank is out of
bounds. -/
def ofQuotient (negative : Bool) (num den : Nat) : Binary64 :=
  if h : nearestRank num den < 2047 * Nat.pow 2 52 then .finite negative ⟨nearestRank num den, h⟩
  else .infinite negative

/-- The number of units in one. -/
def one : Nat := Nat.pow 2 1074

/-- Positive zero. -/
def zero : Binary64 := .finite false ⟨0, by decide⟩

/-- The binary64 number nearest to an integer. -/
def ofInt (value : Int) : Binary64 :=
  ofQuotient (decide (value < 0)) (value.natAbs * one) 1

/-- The binary64 number nearest to `digits * 10 ^ exponent`.  Exponents so far out that the result
must be zero or infinite are settled without computing the power. -/
def ofDecimal (negative : Bool) (digits : Nat) (exponent : Int) : Binary64 :=
  if digits = 0 then .finite negative ⟨0, by decide⟩
  else if 400 < exponent then .infinite negative
  else if exponent + ((Nat.log2 digits / 3 : Nat) : Int) < -400 then
    .finite negative ⟨0, by decide⟩
  else if 0 ≤ exponent then ofQuotient negative (digits * Nat.pow 10 exponent.toNat * one) 1
  else ofQuotient negative (digits * one) (Nat.pow 10 (-exponent).toNat)

/-- Neither infinite nor a NaN. -/
def isFinite : Binary64 → Bool
  | .finite _ _ => true
  | _ => false

/-- A finite number as a signed count of units; the others have none. -/
def units? : Binary64 → Option Int
  | .finite true rank => some (-(magnitude rank : Int))
  | .finite false rank => some (magnitude rank)
  | _ => none

/-- The exact sum of two finite numbers, rounded.  A sum of zero is negative only when both
operands are. -/
def addFinite (s : Bool) (a : Nat) (t : Bool) (b : Nat) : Binary64 :=
  if s = t then ofQuotient s (a + b) 1
  else if a = b then zero
  else if b < a then ofQuotient s (a - b) 1
  else ofQuotient t (b - a) 1

/-- Addition: exact, then rounded to the nearest. -/
def add : Binary64 → Binary64 → Binary64
  | .nan, _ => .nan
  | _, .nan => .nan
  | .infinite s, .infinite t => if s = t then .infinite s else .nan
  | .infinite s, .finite _ _ => .infinite s
  | .finite _ _, .infinite t => .infinite t
  | .finite s a, .finite t b => addFinite s (magnitude a) t (magnitude b)

instance : Add Binary64 := ⟨add⟩

/-- The product with the positive rational `num / den`: exact, then rounded to the nearest. -/
def scale (x : Binary64) (num den : Nat) : Binary64 :=
  match x with
  | .finite negative rank => ofQuotient negative (magnitude rank * num) den
  | other => other

/-- The integer part of a finite number, toward zero. -/
def truncate? (x : Binary64) : Option Int :=
  x.units?.map (Int.tdiv · one)

/-- Greater than zero.  A NaN is not. -/
def isPositive : Binary64 → Bool
  | .finite negative rank => !negative && decide (0 < rank.val)
  | .infinite negative => !negative
  | .nan => false

/-- The position in the total order that puts `-0` below `0` and a NaN above all else. -/
def orderKey : Binary64 → Int
  | .finite false rank => rank.val
  | .finite true rank => -(rank.val : Int) - 1
  | .infinite false => rankBound
  | .infinite true => -(rankBound : Int) - 1
  | .nan => rankBound + 1

end Binary64

end InstanceIdentity
