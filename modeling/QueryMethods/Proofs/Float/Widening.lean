import Mathlib
import QueryMethods.Float.Binary

/-!
# Floats in a wider format and back

A format with room for every number of another one takes each of them as it is: nothing is rounded,
and no exponent falls out of its range. So a float that is brought to the wider format and back is
the float it was, infinities and the NaN included.
-/

namespace QueryMethods

theorem roundShift_zero (m : Nat) : roundShift m 0 = m := by
  have hrest : m % 1 = 0 := Nat.mod_one m
  have hexact : ¬ (1 < 2 * (m % 1) ∨ (2 * (m % 1) = 1 ∧ m / 1 % 2 = 1)) := by omega
  show (if 1 < 2 * (m % 1) ∨ (2 * (m % 1) = 1 ∧ m / 1 % 2 = 1) then m / 1 + 1 else m / 1) = m
  rw [if_neg hexact, Nat.div_one]

/-- Zeros behind the unit that is rounded to do not matter. -/
theorem roundShift_shiftLeft_add (m shift zeros : Nat) :
    roundShift (m <<< zeros) (shift + zeros) = roundShift m shift := by
  have hpos := Nat.two_pow_pos zeros
  have hunit : 2 ^ (shift + zeros) = 2 ^ shift * 2 ^ zeros := Nat.pow_add 2 shift zeros
  have hquotient : m * 2 ^ zeros / (2 ^ shift * 2 ^ zeros) = m / 2 ^ shift :=
    Nat.mul_div_mul_right m (2 ^ shift) hpos
  have hrest : m * 2 ^ zeros % (2 ^ shift * 2 ^ zeros) = m % 2 ^ shift * 2 ^ zeros :=
    Nat.mul_mod_mul_right (2 ^ zeros) m (2 ^ shift)
  have habove : 2 ^ shift * 2 ^ zeros < 2 * (m % 2 ^ shift * 2 ^ zeros) ↔
      2 ^ shift < 2 * (m % 2 ^ shift) := by
    rw [← Nat.mul_assoc]
    exact Nat.mul_lt_mul_right hpos
  have hhalf : 2 * (m % 2 ^ shift * 2 ^ zeros) = 2 ^ shift * 2 ^ zeros ↔
      2 * (m % 2 ^ shift) = 2 ^ shift := by
    rw [← Nat.mul_assoc]
    exact Nat.mul_left_inj (Nat.ne_of_gt hpos)
  simp only [roundShift, Nat.shiftLeft_eq, Nat.one_mul, hunit, hquotient, hrest, habove, hhalf]

/-- Nothing is lost where there are zeros enough. -/
theorem roundShift_shiftLeft {shift zeros : Nat} (h : shift ≤ zeros) (m : Nat) :
    roundShift (m <<< zeros) shift = m <<< (zeros - shift) := by
  have hsplit : m <<< zeros = (m <<< (zeros - shift)) <<< shift := by
    rw [← Nat.shiftLeft_add, Nat.sub_add_cancel h]
  have hround := roundShift_shiftLeft_add (m <<< (zeros - shift)) 0 shift
  rwa [Nat.zero_add, ← hsplit, roundShift_zero] at hround

theorem shiftLeft_ne_zero {m : Nat} (hm : m ≠ 0) (zeros : Nat) : m <<< zeros ≠ 0 := by
  rw [Nat.shiftLeft_eq]
  exact Nat.mul_ne_zero hm (Nat.ne_of_gt (Nat.two_pow_pos zeros))

theorem log2_shiftLeft {m : Nat} (hm : m ≠ 0) (zeros : Nat) :
    (m <<< zeros).log2 = m.log2 + zeros := by
  have hlow : 2 ^ (m.log2 + zeros) ≤ m <<< zeros := by
    rw [Nat.shiftLeft_eq, Nat.pow_add]
    exact Nat.mul_le_mul_right _ (Nat.log2_self_le hm)
  have hhigh : m <<< zeros < 2 ^ (m.log2 + zeros + 1) := by
    rw [Nat.shiftLeft_eq, Nat.add_right_comm, Nat.pow_add]
    exact Nat.mul_lt_mul_of_pos_right Nat.lt_log2_self (Nat.two_pow_pos zeros)
  exact (Nat.log2_eq_iff (shiftLeft_ne_zero hm zeros)).mpr ⟨hlow, hhigh⟩

theorem lt_of_log2_eq {m places : Nat} (h : m.log2 = places) : m < 2 ^ places * 2 := by
  rw [← Nat.pow_add_one, ← h]
  exact Nat.lt_log2_self

namespace Format

variable {format : Format}

theorem infinity_eq (format : Format) :
    format.infinity = (2 ^ format.exponent - 1) * 2 ^ format.fraction := by
  rw [infinity, Nat.one_shiftLeft, Nat.shiftLeft_eq]

theorem signUnit_eq (format : Format) :
    format.signUnit = 2 ^ format.exponent * 2 ^ format.fraction := by
  rw [signUnit, Nat.one_shiftLeft, Nat.pow_add]

theorem infinity_add_unit (format : Format) :
    format.infinity + 2 ^ format.fraction = format.signUnit := by
  calc
    format.infinity + 2 ^ format.fraction =
        (2 ^ format.exponent - 1 + 1) * 2 ^ format.fraction := by
      rw [infinity_eq, Nat.succ_mul]
    _ = format.signUnit := by
      rw [Nat.sub_add_cancel (Nat.two_pow_pos format.exponent), signUnit_eq]

theorem infinity_lt_signUnit (format : Format) : format.infinity < format.signUnit := by
  have hunit := Nat.two_pow_pos format.fraction
  have hsum := format.infinity_add_unit
  omega

theorem infinity_pos (h : 0 < format.exponent) : 0 < format.infinity := by
  have hexponent := Nat.one_lt_two_pow (Nat.ne_of_gt h)
  rw [infinity_eq]
  exact Nat.mul_pos (by omega) (Nat.two_pow_pos _)

theorem two_pow_width (format : Format) : 2 ^ format.width = 2 * format.signUnit := by
  rw [width, Nat.add_assoc, Nat.pow_add, Nat.pow_add, signUnit_eq]

theorem two_mul_bias (h : 0 < format.exponent) : 2 * format.bias + 2 = 2 ^ format.exponent := by
  have hpos := Nat.two_pow_pos (format.exponent - 1)
  have hdouble : 2 ^ format.exponent = 2 * 2 ^ (format.exponent - 1) := by
    rw [← Nat.pow_add_one', Nat.sub_add_cancel h]
  rw [bias, Nat.one_shiftLeft]
  omega

/-- The significand in units of the last place, `shift` places above its own. -/
def inUnits (m : Nat) (shift : Int) : Nat :=
  if 0 ≤ shift then roundShift m shift.toNat else m <<< (-shift).toNat

theorem inUnits_zero (m : Nat) : inUnits m 0 = m :=
  roundShift_zero m

theorem inUnits_of_nonpos (m : Nat) {shift : Int} (h : shift ≤ 0) :
    inUnits m shift = m <<< (-shift).toNat := by
  rw [inUnits]
  split
  · obtain rfl : shift = 0 := by omega
    exact inUnits_zero m
  · rfl

theorem inUnits_shiftLeft (m zeros : Nat) (shift : Int) :
    inUnits (m <<< zeros) shift = inUnits m (shift - zeros) := by
  by_cases hpos : 0 ≤ shift
  · obtain ⟨places, rfl⟩ := Int.eq_ofNat_of_zero_le hpos
    rw [inUnits, if_pos hpos, Int.toNat_natCast]
    by_cases hle : places ≤ zeros
    · have hneg : (-((places : Int) - zeros)).toNat = zeros - places := by omega
      rw [roundShift_shiftLeft hle, inUnits_of_nonpos m (by omega), hneg]
    · obtain ⟨more, rfl⟩ : ∃ more, places = more + zeros := ⟨places - zeros, by omega⟩
      have hmore : ((more + zeros : Nat) : Int) - zeros = more := by omega
      rw [roundShift_shiftLeft_add, hmore, inUnits, if_pos (Int.natCast_nonneg more),
        Int.toNat_natCast]
  · have hsum : (-(shift - zeros)).toNat = zeros + (-shift).toNat := by omega
    rw [inUnits_of_nonpos _ (by omega), inUnits_of_nonpos m (by omega), hsum, Nat.shiftLeft_add]

theorem encodeMagnitude_zero (format : Format) (e : Int) : format.encodeMagnitude 0 e = 0 :=
  if_pos rfl

theorem encodeMagnitude_of_ne_zero (format : Format) {m : Nat} (hm : m ≠ 0) (e top : Int)
    (htop : top = max (m.log2 + e) (1 - format.bias)) :
    format.encodeMagnitude m e = min format.infinity
      (((top - (1 - format.bias)).toNat * 2 ^ format.fraction) +
        inUnits m (top - format.fraction - e)) := by
  subst htop
  rw [encodeMagnitude, if_neg hm, ← Nat.shiftLeft_eq]
  rfl

/-- The same number, written with another exponent, is encoded alike. -/
theorem encodeMagnitude_shiftLeft (m zeros : Nat) (e : Int) :
    format.encodeMagnitude (m <<< zeros) e = format.encodeMagnitude m (e + zeros) := by
  by_cases hm : m = 0
  · rw [hm, Nat.zero_shiftLeft, encodeMagnitude_zero, encodeMagnitude_zero]
  · have htop : ((m <<< zeros).log2 : Int) + e = m.log2 + (e + zeros) := by
      rw [log2_shiftLeft hm]
      omega
    have hshift : ∀ top : Int, top - format.fraction - e - zeros =
        top - format.fraction - (e + zeros) := by
      intro top
      omega
    rw [format.encodeMagnitude_of_ne_zero (shiftLeft_ne_zero hm zeros) e _ rfl,
      format.encodeMagnitude_of_ne_zero hm (e + zeros) _ rfl,
      htop, inUnits_shiftLeft, hshift]

/-- A significand of full length, at an exponent in range, is encoded by its fields. -/
theorem encodeMagnitude_normal (hexponent : 0 < format.exponent) {m : Nat} {e : Int} (hm : m ≠ 0)
    (hlog : m.log2 = format.fraction) (hlow : 1 - format.bias ≤ m.log2 + e)
    (hhigh : m.log2 + e ≤ format.bias) :
    format.encodeMagnitude m e =
        (m.log2 + e - (1 - format.bias)).toNat * 2 ^ format.fraction + m ∧
      format.encodeMagnitude m e < format.infinity := by
  have hbias := two_mul_bias hexponent
  have hbelow := lt_of_log2_eq hlog
  have htop := format.encodeMagnitude_of_ne_zero hm e (m.log2 + e) (by omega)
  have hshift : (m.log2 : Int) + e - format.fraction - e = 0 := by omega
  rw [hshift, inUnits_zero] at htop
  -- The exponent field stays below the one of infinity, so nothing is cut off there.
  have hplaces : (m.log2 + e - (1 - format.bias)).toNat + 2 ≤ 2 ^ format.exponent - 1 := by omega
  have hbound := Nat.mul_le_mul_right (2 ^ format.fraction) hplaces
  rw [← infinity_eq, Nat.add_mul] at hbound
  rw [htop]
  omega

/-- A significand at the lowest exponent is its own code. -/
theorem encodeMagnitude_subnormal {m : Nat} (hm : m < 2 ^ format.fraction)
    (hinfinity : m ≤ format.infinity) :
    format.encodeMagnitude m (1 - format.bias - format.fraction) = m := by
  by_cases hzero : m = 0
  · rw [hzero, encodeMagnitude_zero]
  · have hlog : m.log2 < format.fraction := (Nat.log2_lt hzero).mpr hm
    have htop := format.encodeMagnitude_of_ne_zero hzero
      (1 - format.bias - format.fraction) (1 - format.bias) (by omega)
    have hshift : (1 - format.bias : Int) - format.fraction -
        (1 - format.bias - format.fraction) = 0 := by omega
    have hplaces : ((1 - format.bias : Int) - (1 - format.bias)).toNat = 0 := by omega
    rw [htop, hshift, inUnits_zero, hplaces, Nat.zero_mul, Nat.zero_add,
      Nat.min_eq_right hinfinity]

end Format

/-! ### The parts of a float -/

namespace Binary

variable {format : Format} (x : Binary format)

theorem bits_lt : x.bits.toNat < 2 * format.signUnit := by
  have hlt := x.bits.isLt
  rwa [format.two_pow_width] at hlt

theorem isNan_iff : x.isNan = true ↔ format.infinity < x.magnitude :=
  decide_eq_true_iff

theorem bits_eq : x.bits.toNat =
    if x.isNegative then format.signUnit + x.magnitude else x.magnitude := by
  have hlt := x.bits_lt
  rw [isNegative, magnitude]
  by_cases hsign : format.signUnit ≤ x.bits.toNat
  · rw [decide_eq_true hsign, if_pos rfl, Nat.mod_eq_sub_mod hsign, Nat.mod_eq_of_lt (by omega)]
    omega
  · rw [decide_eq_false hsign, if_neg Bool.false_ne_true, Nat.mod_eq_of_lt (by omega)]

theorem eq_of_magnitude {x y : Binary format} (hsign : x.isNegative = y.isNegative)
    (hmagnitude : x.magnitude = y.magnitude) : x = y := by
  have hbits : x.bits = y.bits := by
    apply BitVec.eq_of_toNat_eq
    rw [x.bits_eq, y.bits_eq, hsign, hmagnitude]
  cases x
  cases y
  subst hbits
  rfl

theorem eq_of_isNan {x y : Binary format} (hx : x.isNan = true) (hy : y.isNan = true) : x = y := by
  have hbits : x.bits = y.bits := (x.nan_eq hx).trans (y.nan_eq hy).symm
  cases x
  cases y
  subst hbits
  rfl

section

variable (negative : Bool) {magnitude : Nat}

/-- The sign bit stands above the magnitude, which can be read off below it. -/
theorem signed_mod (h : magnitude ≤ format.infinity) :
    (if negative then format.signUnit + magnitude else magnitude) % format.signUnit =
      magnitude := by
  have hbelow := format.infinity_lt_signUnit
  cases negative
  · rw [if_neg Bool.false_ne_true, Nat.mod_eq_of_lt (by omega)]
  · rw [if_pos rfl, Nat.add_mod_left, Nat.mod_eq_of_lt (by omega)]

theorem toNat_ofMagnitude (h : magnitude ≤ format.infinity) :
    (ofMagnitude negative magnitude : Binary format).bits.toNat =
      if negative then format.signUnit + magnitude else magnitude := by
  have hbelow := format.infinity_lt_signUnit
  have hlt : (if negative then format.signUnit + magnitude else magnitude) <
      2 * format.signUnit := by
    cases negative
    · rw [if_neg Bool.false_ne_true]
      omega
    · rw [if_pos rfl]
      omega
  have hword : (BitVec.ofNat format.width
      (if negative then format.signUnit + magnitude else magnitude)).toNat =
        if negative then format.signUnit + magnitude else magnitude := by
    rw [BitVec.toNat_ofNat, format.two_pow_width, Nat.mod_eq_of_lt hlt]
  have hnan : ¬ format.isNanBits (BitVec.ofNat format.width
      (if negative then format.signUnit + magnitude else magnitude)).toNat = true := by
    rw [hword, Format.isNanBits, signed_mod negative h, decide_eq_true_iff]
    omega
  rw [ofMagnitude, ofBits]
  simp only [dif_neg hnan]
  exact hword

theorem magnitude_ofMagnitude (h : magnitude ≤ format.infinity) :
    (ofMagnitude negative magnitude : Binary format).magnitude = magnitude := by
  rw [Binary.magnitude, toNat_ofMagnitude negative h, signed_mod negative h]

theorem isNegative_ofMagnitude (h : magnitude ≤ format.infinity) :
    (ofMagnitude negative magnitude : Binary format).isNegative = negative := by
  have hbelow := format.infinity_lt_signUnit
  rw [isNegative, toNat_ofMagnitude negative h]
  cases negative
  · rw [if_neg Bool.false_ne_true, decide_eq_false_iff_not]
    omega
  · rw [if_pos rfl, decide_eq_true_iff]
    omega

end

theorem isNan_nan (hfraction : 0 < format.fraction) :
    (ofBits format.nan : Binary format).isNan = true := by
  have hpos := Nat.two_pow_pos (format.fraction - 1)
  have hhalf : 2 ^ format.fraction = 2 * 2 ^ (format.fraction - 1) := by
    rw [← Nat.pow_add_one', Nat.sub_add_cancel hfraction]
  have hsum := format.infinity_add_unit
  have hnan : format.nan = format.infinity + 2 ^ (format.fraction - 1) := by
    rw [Format.nan, Nat.one_shiftLeft]
  have hword : (BitVec.ofNat format.width format.nan).toNat = format.nan := by
    rw [BitVec.toNat_ofNat, format.two_pow_width, Nat.mod_eq_of_lt (by omega)]
  have hbits : format.isNanBits (BitVec.ofNat format.width format.nan).toNat = true := by
    rw [hword, Format.isNanBits, Nat.mod_eq_of_lt (by omega), decide_eq_true_iff]
    omega
  rw [isNan, ofBits]
  simp only [dif_pos hbits]
  exact hbits

variable {x}

theorem unpack_nan (h : x.isNan = true) : x.unpack = .nan := by
  rw [unpack, if_pos h]

theorem unpack_infinite (h : x.magnitude = format.infinity) :
    x.unpack = .infinite x.isNegative := by
  have hnan : ¬ x.isNan = true := by
    rw [isNan_iff]
    omega
  rw [unpack, if_neg hnan, if_pos h]

theorem unpack_subnormal (hfinite : x.magnitude < format.infinity)
    (h : x.magnitude < 2 ^ format.fraction) :
    x.unpack = .finite x.isNegative x.magnitude (1 - format.bias - format.fraction) := by
  have hnan : ¬ x.isNan = true := by
    rw [isNan_iff]
    omega
  rw [unpack, if_neg hnan, if_neg (by omega), Nat.one_shiftLeft, Nat.div_eq_of_lt h, if_pos rfl,
    Nat.mod_eq_of_lt h]

theorem unpack_normal (hfinite : x.magnitude < format.infinity) {exponent fraction : Nat}
    (hexponent : exponent ≠ 0) (hfraction : fraction < 2 ^ format.fraction)
    (h : x.magnitude = exponent * 2 ^ format.fraction + fraction) :
    x.unpack = .finite x.isNegative (2 ^ format.fraction + fraction)
      (exponent - format.bias - format.fraction) := by
  have hnan : ¬ x.isNan = true := by
    rw [isNan_iff]
    omega
  have hdiv : x.magnitude / 2 ^ format.fraction = exponent := by
    rw [h, Nat.mul_comm, Nat.mul_add_div (Nat.two_pow_pos _), Nat.div_eq_of_lt hfraction,
      Nat.add_zero]
  have hmod : x.magnitude % 2 ^ format.fraction = fraction := by
    rw [h, Nat.mul_comm, Nat.mul_add_mod, Nat.mod_eq_of_lt hfraction]
  rw [unpack, if_neg hnan, if_neg (by omega), Nat.one_shiftLeft, hdiv, hmod, if_neg hexponent]

/-- What is scaled out of range of neither exponent, and not too long, is kept as it is. -/
theorem unpack_ofScaled (negative : Bool) {m : Nat} {e : Int} (hexponent : 0 < format.exponent)
    (hm : m ≠ 0) (hlog : m.log2 ≤ format.fraction) (hlow : 1 - format.bias ≤ m.log2 + e)
    (hhigh : m.log2 + e ≤ format.bias) :
    ∃ zeros : Nat, (ofScaled negative m e : Binary format).unpack =
      .finite negative (m <<< zeros) (e - zeros) := by
  obtain ⟨zeros, hzeros⟩ : ∃ zeros, format.fraction = m.log2 + zeros :=
    ⟨format.fraction - m.log2, by omega⟩
  have hne := shiftLeft_ne_zero hm zeros
  have hlong : (m <<< zeros).log2 = format.fraction := by rw [log2_shiftLeft hm, hzeros]
  have hsame : ((m <<< zeros).log2 : Int) + (e - zeros) = m.log2 + e := by
    rw [hlong, hzeros]
    omega
  have hshifted := format.encodeMagnitude_shiftLeft m zeros (e - zeros)
  rw [Int.sub_add_cancel] at hshifted
  obtain ⟨hcode, hfinite⟩ := Format.encodeMagnitude_normal hexponent hne hlong (e := e - zeros)
    (by omega) (by omega)
  rw [hshifted] at hcode hfinite
  -- The leading bit of the significand counts for one more in the exponent field.
  have hleading : 2 ^ format.fraction ≤ m <<< zeros := by
    rw [← hlong]
    exact Nat.log2_self_le hne
  have hbelow := lt_of_log2_eq hlong
  have hmagnitude := magnitude_ofMagnitude negative (Nat.le_of_lt hfinite)
  have hsplit : (ofScaled negative m e : Binary format).magnitude =
      ((m.log2 + e - (1 - format.bias)).toNat + 1) * 2 ^ format.fraction +
        (m <<< zeros - 2 ^ format.fraction) := by
    rw [ofScaled, hmagnitude, hcode, hsame, Nat.add_mul]
    omega
  have hunpack := unpack_normal (by rw [ofScaled, hmagnitude]; exact hfinite)
    (Nat.succ_ne_zero _) (by omega) hsplit
  have hsignificand : 2 ^ format.fraction + (m <<< zeros - 2 ^ format.fraction) = m <<< zeros := by
    omega
  have hscale : (((m.log2 + e - (1 - format.bias)).toNat + 1 : Nat) : Int) - format.bias -
      format.fraction = e - zeros := by omega
  refine ⟨zeros, ?_⟩
  rw [hunpack, hsignificand, hscale, ofScaled,
    isNegative_ofMagnitude negative (Nat.le_of_lt hfinite)]

theorem unpack_ofScaled_zero (negative : Bool) (e : Int) (hexponent : 0 < format.exponent) :
    (ofScaled negative 0 e : Binary format).unpack =
      .finite negative 0 (1 - format.bias - format.fraction) := by
  have hzero := magnitude_ofMagnitude negative (Nat.zero_le format.infinity)
  have hfinite : (ofMagnitude negative 0 : Binary format).magnitude < format.infinity := by
    rw [hzero]
    exact Format.infinity_pos hexponent
  have hunpack := unpack_subnormal hfinite (by rw [hzero]; exact Nat.two_pow_pos _)
  rw [hzero, isNegative_ofMagnitude negative (Nat.zero_le _)] at hunpack
  rw [ofScaled, Format.encodeMagnitude_zero, hunpack]

end Binary

/-! ### Wider formats -/

/-- Every number of the first format is one of the second, and not too small for its least
exponent. -/
structure Format.Widens (source target : Format) : Prop where
  source_exponent : 0 < source.exponent
  target_exponent : 0 < target.exponent
  target_fraction : 0 < target.fraction
  fraction : source.fraction ≤ target.fraction
  bias : source.bias + source.fraction ≤ target.bias

namespace Binary

variable {source target : Format}

/-- A finite float is its significand at its exponent, which a wider format has room for. -/
theorem unpack_finite (h : source.Widens target) (x : Binary source)
    (hfinite : x.magnitude < source.infinity) :
    ∃ m e, x.unpack = .finite x.isNegative m e ∧ source.encodeMagnitude m e = x.magnitude ∧
      (m ≠ 0 → m.log2 ≤ target.fraction ∧ 1 - target.bias ≤ m.log2 + e ∧
        m.log2 + e ≤ target.bias) := by
  have hfraction := h.fraction
  have hbias := h.bias
  by_cases hsmall : x.magnitude < 2 ^ source.fraction
  · refine ⟨_, _, unpack_subnormal hfinite hsmall,
      Format.encodeMagnitude_subnormal hsmall (Nat.le_of_lt hfinite), ?_⟩
    intro hm
    have hlog := (Nat.log2_lt hm).mpr hsmall
    omega
  · have hpos := Nat.two_pow_pos source.fraction
    have hsplit := Nat.div_add_mod' x.magnitude (2 ^ source.fraction)
    have hrest := Nat.mod_lt x.magnitude hpos
    have hexponent : 1 ≤ x.magnitude / 2 ^ source.fraction :=
      (Nat.le_div_iff_mul_le hpos).mpr (by omega)
    generalize x.magnitude / 2 ^ source.fraction = exponent at hsplit hexponent
    generalize x.magnitude % 2 ^ source.fraction = rest at hsplit hrest
    have hbound : exponent < 2 ^ source.exponent - 1 := by
      rw [Format.infinity_eq] at hfinite
      exact Nat.lt_of_mul_lt_mul_right (a := 2 ^ source.fraction) (by omega)
    have htwice := Format.two_mul_bias h.source_exponent
    have hm : 2 ^ source.fraction + rest ≠ 0 := by omega
    have hlog : (2 ^ source.fraction + rest).log2 = source.fraction :=
      (Nat.log2_eq_iff hm).mpr ⟨by omega, by rw [Nat.pow_add_one]; omega⟩
    refine ⟨_, _, unpack_normal hfinite (by omega) hrest hsplit.symm, ?_, ?_⟩
    · have hcode := (Format.encodeMagnitude_normal h.source_exponent hm hlog
        (e := exponent - source.bias - source.fraction) (by omega) (by omega)).1
      have hplaces : (((2 ^ source.fraction + rest).log2 : Int) +
          (exponent - source.bias - source.fraction) - (1 - source.bias)).toNat + 1 = exponent := by
        omega
      have hproduct := congrArg (· * 2 ^ source.fraction) hplaces
      simp only [Nat.add_mul, Nat.one_mul] at hproduct
      rw [hcode]
      omega
    · intro _
      omega

variable {x : Binary source}

theorem convert_of_isNan (h : x.isNan = true) :
    (x.convert : Binary target) = ofBits target.nan := by
  rw [convert, unpack_nan h]

theorem convert_of_infinite (h : x.magnitude = source.infinity) :
    (x.convert : Binary target) = ofMagnitude x.isNegative target.infinity := by
  rw [convert, unpack_infinite h]

theorem convert_convert_of_isNan (htarget : 0 < target.fraction) (hnan : x.isNan = true) :
    (x.convert : Binary target).convert = x := by
  have hbits : source.isNanBits (BitVec.ofNat source.width source.nan).toNat = true := by
    rw [← x.nan_eq hnan]
    exact hnan
  have hnarrow : (ofBits source.nan : Binary source).isNan = true := by
    rw [isNan, ofBits]
    simp only [dif_pos hbits]
    exact hbits
  calc
    (x.convert : Binary target).convert = (ofBits target.nan : Binary target).convert := by
      rw [convert_of_isNan hnan]
    _ = ofBits source.nan := convert_of_isNan (isNan_nan htarget)
    _ = x := eq_of_isNan hnarrow hnan

theorem convert_convert_of_infinite (hinfinite : x.magnitude = source.infinity) :
    (x.convert : Binary target).convert = x := by
  have hsign := isNegative_ofMagnitude x.isNegative (Nat.le_refl target.infinity)
  have hnarrow : (ofMagnitude x.isNegative source.infinity : Binary source) = x := by
    apply eq_of_magnitude (isNegative_ofMagnitude _ (Nat.le_refl _))
    rw [magnitude_ofMagnitude _ (Nat.le_refl _), hinfinite]
  calc
    (x.convert : Binary target).convert =
        (ofMagnitude x.isNegative target.infinity : Binary target).convert := by
      rw [convert_of_infinite hinfinite]
    _ = ofMagnitude x.isNegative source.infinity := by
      rw [convert_of_infinite (magnitude_ofMagnitude _ (Nat.le_refl _)), hsign]
    _ = x := hnarrow

/-- A wide float that says what encodes a magnitude is narrowed to the float of that magnitude. -/
theorem convert_eq_of_unpack {y : Binary target} {m : Nat} {e : Int}
    (hle : x.magnitude ≤ source.infinity) (hcode : source.encodeMagnitude m e = x.magnitude)
    (hunpack : y.unpack = .finite x.isNegative m e) : y.convert = x := by
  rw [convert, hunpack]
  show ofScaled x.isNegative m e = x
  rw [ofScaled, hcode]
  exact eq_of_magnitude (isNegative_ofMagnitude _ hle) (magnitude_ofMagnitude _ hle)

/-- Widening a float loses nothing. -/
theorem convert_convert (h : source.Widens target) (x : Binary source) :
    (x.convert : Binary target).convert = x := by
  by_cases hnan : x.isNan = true
  · exact convert_convert_of_isNan h.target_fraction hnan
  have hle : x.magnitude ≤ source.infinity := by
    rw [isNan_iff] at hnan
    omega
  by_cases hinfinite : x.magnitude = source.infinity
  · exact convert_convert_of_infinite hinfinite
  obtain ⟨m, e, hunpack, hcode, hroom⟩ := unpack_finite h x (by omega)
  have hwide : (x.convert : Binary target) = ofScaled x.isNegative m e := by
    rw [convert, hunpack]
  rw [hwide]
  by_cases hm : m = 0
  · subst hm
    rw [Format.encodeMagnitude_zero] at hcode
    exact convert_eq_of_unpack hle (by rw [Format.encodeMagnitude_zero, hcode])
      (unpack_ofScaled_zero x.isNegative e h.target_exponent)
  · obtain ⟨hlog, hlow, hhigh⟩ := hroom hm
    obtain ⟨zeros, hzeros⟩ :=
      unpack_ofScaled x.isNegative h.target_exponent hm hlog hlow hhigh
    refine convert_eq_of_unpack hle ?_ hzeros
    rw [Format.encodeMagnitude_shiftLeft, Int.sub_add_cancel, hcode]

end Binary

end QueryMethods
