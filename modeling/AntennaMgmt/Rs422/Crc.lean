import AntennaMgmt.Lib.Crc
import AntennaMgmt.Rs422.Frame

/-!
# The checksum of a firmware file

`handle_parsing_metadata` announces a file with its CRC16-CCITT-FALSE.  The loop over the bits of
the file is a division of polynomials, so the FPGA sees every burst of errors that is not longer
than the checksum.
-/

namespace AntennaMgmt.Rs422

open AntennaMgmt.Lib Polynomial

/-- The bits of a file, the most significant one of each byte first. -/
def fileBits (data : Bytes) : List Bool := symbolBits 8 (data.map UInt8.toNat)

lemma length_fileBits (data : Bytes) : (fileBits data).length = 8 * data.length := by
  rw [fileBits, length_symbolBits, List.length_map]

/-- A file is known by its bits. -/
lemma fileBits_injective {xs ys : Bytes} (hlen : xs.length = ys.length)
    (h : fileBits xs = fileBits ys) : xs = ys := by
  induction xs generalizing ys with
  | nil => exact (List.length_eq_zero_iff.1 hlen.symm).symm
  | cons a xs ih =>
    cases ys with
    | nil => cases hlen
    | cons b ys =>
      have hcons (c : UInt8) (zs : Bytes) : fileBits (c :: zs) = msbBits 8 c.toNat ++ fileBits zs :=
        rfl
      rw [hcons, hcons] at h
      obtain ⟨hbyte, hrest⟩ := List.append_inj h (by rw [length_msbBits, length_msbBits])
      have hab : a = b := UInt8.toNat_inj.1 (msbBits_inj a.toNat_lt b.toNat_lt hbyte)
      rw [hab, ih (Nat.succ.inj hlen) hrest]

/-! ### The loop -/

/-- A round of the loop is a shift of a register of 16 bits. -/
lemma crcRound_eq (crc : ℕ) : crcRound crc = crcShift 16 0x1021 crc := by
  have hpow : (2 : ℕ) ^ 16 = 0x10000 := by norm_num
  have htop : crc.testBit (16 - 1) = decide (crc / 0x8000 % 2 = 1) :=
    Nat.testBit_eq_decide_div_mod_eq
  rw [crcRound, crcShift, htop, hpow, Nat.mul_comm 2 crc]
  simp only [decide_eq_true_eq]
  rfl

/-- The loop feeds the bytes to the register. -/
lemma rs422Crc16CcittFalse_eq (data : Bytes) :
    rs422Crc16CcittFalse data = (data.map UInt8.toNat).foldl (crcFeed 16 0x1021 8) 0xFFFF := by
  have hround : crcRound = crcShift 16 0x1021 := funext crcRound_eq
  rw [rs422Crc16CcittFalse, List.foldl_map, hround]
  rfl

lemma rs422Crc16CcittFalse_lt (data : Bytes) : rs422Crc16CcittFalse data < 2 ^ 16 := by
  rw [rs422Crc16CcittFalse_eq]
  exact crcFeed_foldl_lt (by norm_num) (by norm_num) (by norm_num) _

/-- The generator of the loop. -/
lemma crcGenerator_ccitt :
    crcGenerator 16 0x1021 = (X ^ 16 + X ^ 12 + X ^ 5 + 1 : (ZMod 2)[X]) := by
  have hbits : msbBits 16 0x1021 = [false, false, false, true, false, false, false, false, false,
      false, true, false, false, false, false, true] := by decide
  rw [crcGenerator, hbits]
  simp only [bitsPoly_cons, bitsPoly_nil, bitCoeff, List.length_cons, List.length_nil, if_true,
    Bool.false_eq_true, if_false, C_0, C_1]
  ring

/-- The checksum of a file is the remainder of its division by `x ^ 16 + x ^ 12 + x ^ 5 + 1`, with
sixteen zeros behind it and the preset before it; and two files of one length that differ, but only
within sixteen consecutive bits, have different checksums. -/
theorem rs422Crc16CcittFalse_eq_mod :
    (∀ data : Bytes, rs422Crc16CcittFalse data < 2 ^ 16 ∧
      bitsPoly (msbBits 16 (rs422Crc16CcittFalse data)) =
        (bitsPoly (fileBits data) * X ^ 16 +
          bitsPoly (msbBits 16 0xFFFF) * X ^ (8 * data.length)) %ₘ
            (X ^ 16 + X ^ 12 + X ^ 5 + 1)) ∧
    ∀ xs ys : Bytes, xs.length = ys.length → xs ≠ ys →
      DifferWithin 16 (fileBits xs) (fileBits ys) →
        rs422Crc16CcittFalse xs ≠ rs422Crc16CcittFalse ys := by
  have hmod (data : Bytes) : bitsPoly (msbBits 16 (rs422Crc16CcittFalse data)) =
      (bitsPoly (fileBits data) * X ^ 16 + bitsPoly (msbBits 16 0xFFFF) * X ^ (8 * data.length)) %ₘ
        crcGenerator 16 0x1021 := by
    rw [rs422Crc16CcittFalse_eq, crcFeed_foldl_eq_mod (by norm_num) (by norm_num), ← fileBits,
      length_fileBits]
  constructor
  · intro data
    rw [← crcGenerator_ccitt]
    exact ⟨rs422Crc16CcittFalse_lt data, hmod data⟩
  · intro xs ys hlen hne hwithin hsame
    have hbits : (fileBits xs).length = (fileBits ys).length := by
      rw [length_fileBits, length_fileBits, hlen]
    have hzero : (crcGenerator 16 0x1021).coeff 0 = 1 := by
      rw [crcGenerator_ccitt]
      simp [coeff_X_pow, coeff_one]
    refine modByMonic_ne_of_differWithin (monic_crcGenerator 16 0x1021) hzero
      (degree_crcGenerator 16 0x1021) hbits (fun h => hne (fileBits_injective hlen h)) hwithin 16
      (bitsPoly (msbBits 16 0xFFFF) * X ^ (8 * xs.length)) ?_
    rw [← hmod xs, hlen, ← hmod ys, hsame]

theorem rs422Crc16CcittFalse_eq_mod_burst :
    rs422Crc16CcittFalse [0x12, 0x34, 0x56] ≠ rs422Crc16CcittFalse [0x12, 0x3B, 0xA6] := by
  refine rs422Crc16CcittFalse_eq_mod.2 _ _ rfl (by decide) ⟨8, ?_⟩
  rintro j (hlt | hge)
  · have hfirst : ∀ j < 8, (fileBits [0x12, 0x34, 0x56])[j]? = (fileBits [0x12, 0x3B, 0xA6])[j]? :=
      by decide
    exact hfirst j hlt
  · rw [List.getElem?_eq_none hge, List.getElem?_eq_none hge]

end AntennaMgmt.Rs422
