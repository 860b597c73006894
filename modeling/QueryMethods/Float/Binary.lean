/-!
Binary floating point by its bits. A number `m * 2 ^ e` is encoded as the nearest number of the
format, and a half goes to the even neighbour. There is one NaN.
-/

namespace QueryMethods

/-- The widths of the fraction and exponent fields. -/
structure Format where
  fraction : Nat
  exponent : Nat
deriving DecidableEq

namespace Format

def single : Format := ⟨23, 8⟩

def double : Format := ⟨52, 11⟩

def width (format : Format) : Nat :=
  1 + format.exponent + format.fraction

def bias (format : Format) : Nat :=
  (1 <<< (format.exponent - 1)) - 1

/-- The bits of positive infinity. -/
def infinity (format : Format) : Nat :=
  ((1 <<< format.exponent) - 1) <<< format.fraction

/-- The bits of the NaN that stands for all of them. -/
def nan (format : Format) : Nat :=
  format.infinity + (1 <<< (format.fraction - 1))

/-- The place of the sign bit. -/
def signUnit (format : Format) : Nat :=
  1 <<< (format.exponent + format.fraction)

end Format

/-- `m / 2 ^ shift` to the nearest whole number, a half going to the even neighbour. -/
def roundShift (m shift : Nat) : Nat :=
  let unit := 1 <<< shift
  let quotient := m / unit
  let rest := m % unit
  if unit < 2 * rest ∨ (2 * rest = unit ∧ quotient % 2 = 1) then
    quotient + 1
  else
    quotient

/-- What the bits of a float say: its sign and `m * 2 ^ e`, or that it is not finite. -/
inductive Unpacked where
  | nan
  | infinite (negative : Bool)
  | finite (negative : Bool) (m : Nat) (e : Int)
deriving DecidableEq

namespace Format

/-- The magnitude bits of the number nearest to `m * 2 ^ e`. -/
def encodeMagnitude (format : Format) (m : Nat) (e : Int) : Nat :=
  if m = 0 then
    0
  else
    let lowest : Int := 1 - format.bias
    let top : Int := max (m.log2 + e) lowest
    let shift : Int := top - format.fraction - e
    let significand := if 0 ≤ shift then roundShift m shift.toNat else m <<< (-shift).toNat
    min format.infinity (((top - lowest).toNat <<< format.fraction) + significand)

def isNanBits (format : Format) (bits : Nat) : Bool :=
  decide (format.infinity < bits % format.signUnit)

end Format

/-- A float of the format, by its bits. -/
structure Binary (format : Format) where
  bits : BitVec format.width
  nan_eq : format.isNanBits bits.toNat = true → bits = BitVec.ofNat format.width format.nan
deriving DecidableEq

abbrev Binary32 := Binary .single

abbrev Binary64 := Binary .double

namespace Binary

variable {format : Format}

/-- Every bit pattern that is a NaN gives the same NaN. -/
def ofBits (bits : Nat) : Binary format :=
  let word := BitVec.ofNat format.width bits
  if h : format.isNanBits word.toNat = true then
    ⟨BitVec.ofNat format.width format.nan, fun _ => rfl⟩
  else
    ⟨word, fun hnan => absurd hnan h⟩

def isNan (x : Binary format) : Bool :=
  format.isNanBits x.bits.toNat

def magnitude (x : Binary format) : Nat :=
  x.bits.toNat % format.signUnit

def isNegative (x : Binary format) : Bool :=
  decide (format.signUnit ≤ x.bits.toNat)

def ofMagnitude (negative : Bool) (magnitude : Nat) : Binary format :=
  ofBits (if negative then format.signUnit + magnitude else magnitude)

/-- The float nearest to `m * 2 ^ e`, with the given sign. -/
def ofScaled (negative : Bool) (m : Nat) (e : Int) : Binary format :=
  ofMagnitude negative (format.encodeMagnitude m e)

/-- The float nearest to a whole number. -/
def ofInt (n : Int) : Binary format :=
  ofScaled (decide (n < 0)) n.natAbs 0

def unpack (x : Binary format) : Unpacked :=
  let unit := 1 <<< format.fraction
  let exponent := x.magnitude / unit
  let fraction := x.magnitude % unit
  if x.isNan then
    .nan
  else if x.magnitude = format.infinity then
    .infinite x.isNegative
  else if exponent = 0 then
    .finite x.isNegative fraction (1 - format.bias - format.fraction)
  else
    .finite x.isNegative (unit + fraction)
      ((exponent : Int) - format.bias - format.fraction)

/-- The nearest float of another format. -/
def convert {target : Format} (x : Binary format) : Binary target :=
  match x.unpack with
  | .nan => ofBits target.nan
  | .infinite negative => ofMagnitude negative target.infinity
  | .finite negative m e => ofScaled negative m e

/-- A NaN equals nothing, and the two zeros are equal. -/
def equals (x y : Binary format) : Bool :=
  !x.isNan && !y.isNan && (x.bits == y.bits || (x.magnitude == 0 && y.magnitude == 0))

end Binary

end QueryMethods
