import Mathlib
import SessionSquash.Binary.Float

namespace SessionSquash

set_option autoImplicit false

namespace BinaryFormat

/-- How `f` stores `m * 2^q`: a normal significand with its leading bit and an exponent whose
value fits below the infinities, or a subnormal significand at the least exponent. -/
def Canonical (f : BinaryFormat) (m : Nat) (q : Int) : Prop :=
  (2 ^ f.fractionBits ≤ m ∧ m < 2 ^ f.precision ∧ f.minQuantum ≤ q ∧ q + f.fractionBits ≤ f.bias) ∨
    (m < 2 ^ f.fractionBits ∧ q = f.minQuantum)

/-- `M * 2^Q` and `m * 2^q` written with the common power of two taken out. -/
theorem mul_two_pow_eq {M m : Nat} {Q q : Int}
    (h : M * 2 ^ (Q - q).toNat = m * 2 ^ (q - Q).toNat) {x y : Nat}
    (hxy : (x : Int) - y = Q - q) : M * 2 ^ x = m * 2 ^ y := by
  obtain ⟨t, hx, hy⟩ : ∃ t, x = (Q - q).toNat + t ∧ y = (q - Q).toNat + t :=
    ⟨x - (Q - q).toNat, by omega, by omega⟩
  rw [hx, hy, Nat.pow_add, Nat.pow_add, ← Nat.mul_assoc, ← Nat.mul_assoc, h]

theorem log2_mul_two_pow {c : Nat} (hc : c ≠ 0) (a : Nat) : (c * 2 ^ a).log2 = c.log2 + a := by
  rw [Nat.log2_eq_iff (Nat.mul_ne_zero hc (by positivity))]
  constructor
  · rw [Nat.pow_add]
    exact Nat.mul_le_mul_right _ (Nat.log2_self_le hc)
  · rw [show c.log2 + a + 1 = (c.log2 + 1) + a by omega, Nat.pow_add]
    exact Nat.mul_lt_mul_of_pos_right Nat.lt_log2_self (by positivity)

/-- The binary logarithm of `c * 2^a / 2^b`. -/
theorem floorLog2_mul_two_pow {c : Nat} (hc : c ≠ 0) (a b : Nat) :
    floorLog2 (c * 2 ^ a) (2 ^ b) = (c.log2 : Int) + a - b := by
  have hlow := Nat.log2_self_le hc
  unfold floorLog2
  simp only [log2_mul_two_pow hc, Nat.log2_two_pow, Nat.pow_eq]
  rw [if_neg, Nat.cast_add]
  split
  · next hguess =>
    refine Nat.not_lt.mpr ?_
    rw [← Nat.pow_add, show b + ((c.log2 + a : Nat) - (b : Int)).toNat = c.log2 + a by omega,
      Nat.pow_add]
    exact Nat.mul_le_mul_right _ hlow
  · next hguess =>
    refine Nat.not_lt.mpr ?_
    rw [Nat.mul_assoc, ← Nat.pow_add]
    calc 2 ^ b = 2 ^ c.log2 * 2 ^ (a + (-((c.log2 + a : Nat) - (b : Int))).toNat) := by
          rw [← Nat.pow_add]; congr 1; omega
      _ ≤ c * 2 ^ (a + (-((c.log2 + a : Nat) - (b : Int))).toNat) :=
          Nat.mul_le_mul_right _ hlow

theorem roundHalfEven_mul (m : Nat) {d : Nat} (hd : 0 < d) : roundHalfEven (m * d) d = m := by
  unfold roundHalfEven
  simp [Nat.mul_div_cancel _ hd, Nat.mul_mod_left, Nat.ne_of_lt hd]

/-- Scaling by a power of two that lands on an integer is exact. -/
theorem scaledRound_exact {num den m : Nat} {k : Int} (hden : 0 < den)
    (h : num * 2 ^ k.toNat = m * den * 2 ^ (-k).toNat) : scaledRound num den k = m := by
  unfold scaledRound
  simp only [Nat.pow_eq]
  split
  · next hk =>
    rw [show (-k).toNat = 0 by omega, Nat.pow_zero, Nat.mul_one] at h
    rw [h, roundHalfEven_mul m hden]
  · next hk =>
    rw [show k.toNat = 0 by omega, Nat.pow_zero, Nat.mul_one] at h
    rw [h, Nat.mul_assoc, roundHalfEven_mul m (by positivity)]

section Exact

variable (f : BinaryFormat) (hprec : f.precision = f.fractionBits + 1) (hbias : 1 ≤ f.bias)
include hprec hbias

/-- A value that `f` holds exactly, given as `c * 2^a / 2^b`, rounds to its canonical form. -/
theorem round_exact (s : Bool) {c m : Nat} (a b : Nat) {q : Int}
    (hexact : c * 2 ^ a * 2 ^ (-q).toNat = m * 2 ^ b * 2 ^ q.toNat) (hcanon : f.Canonical m q) :
    f.round s (c * 2 ^ a) (2 ^ b) = f.pack s m q := by
  by_cases hc : c = 0
  · have hm : m = 0 := by simpa [hc] using hexact.symm
    subst hc hm
    simp [round, pack, Nat.pow_eq]
  have hm : m ≠ 0 := by
    rintro rfl
    simp [hc] at hexact
  have hlog : (m.log2 : Int) + q = c.log2 + a - b := by
    have := congrArg Nat.log2 hexact
    rw [Nat.mul_assoc, Nat.mul_assoc, ← Nat.pow_add, ← Nat.pow_add, log2_mul_two_pow hc,
      log2_mul_two_pow hm] at this
    omega
  have hexp : max (floorLog2 (c * 2 ^ a) (2 ^ b) - f.fractionBits) f.minQuantum = q := by
    rw [floorLog2_mul_two_pow hc]
    rcases hcanon with ⟨hlo, hhi, hq, -⟩ | ⟨hhi, rfl⟩
    · have : m.log2 = f.fractionBits :=
        (Nat.log2_eq_iff hm).mpr ⟨hlo, by rwa [← hprec]⟩
      omega
    · have : m.log2 < f.fractionBits := (Nat.log2_lt hm).mpr hhi
      omega
  have hround : scaledRound (c * 2 ^ a) (2 ^ b) (-q) = m :=
    scaledRound_exact (by positivity) (by rwa [neg_neg])
  have hbelow : m < 2 ^ f.precision := by
    rcases hcanon with ⟨-, hhi, -⟩ | ⟨hhi, -⟩
    · exact hhi
    · rw [hprec, Nat.pow_succ]
      omega
  have hfinite : ¬ q + f.fractionBits > f.bias := by
    rcases hcanon with ⟨-, -, -, hq⟩ | ⟨-, rfl⟩
    · omega
    · simp only [minQuantum]
      omega
  have hnum : (c * 2 ^ a == 0 || 2 ^ b == 0) = false := by
    simp [hc]
  simp only [round, hnum, Bool.false_eq_true, if_false, hexp, hround, Nat.pow_eq,
    beq_iff_eq, Nat.ne_of_lt hbelow, if_false, hfinite]

/-- A value that `f` holds exactly rounds to its canonical form, however it is written. -/
theorem roundScaled_exact (s : Bool) {M m : Nat} {Q q : Int}
    (hexact : M * 2 ^ (Q - q).toNat = m * 2 ^ (q - Q).toNat) (hcanon : f.Canonical m q) :
    f.roundScaled s M Q = f.pack s m q := by
  unfold roundScaled
  simp only [Nat.pow_eq]
  split
  · next hQ =>
    have hscaled : M * 2 ^ (Q.toNat + (-q).toNat) = m * 2 ^ q.toNat :=
      mul_two_pow_eq hexact (by omega)
    have h := round_exact f hprec hbias s (c := M) Q.toNat 0
      (by rw [Nat.pow_zero, Nat.mul_one, Nat.mul_assoc, ← Nat.pow_add]; exact hscaled) hcanon
    rwa [Nat.pow_zero] at h
  · next hQ =>
    have hscaled : M * 2 ^ (-q).toNat = m * 2 ^ ((-Q).toNat + q.toNat) :=
      mul_two_pow_eq hexact (by omega)
    have h := round_exact f hprec hbias s (c := M) 0 (-Q).toNat
      (by rw [Nat.pow_zero, Nat.mul_one, Nat.mul_assoc, ← Nat.pow_add]; exact hscaled) hcanon
    rwa [Nat.pow_zero, Nat.mul_one] at h

end Exact

theorem binary64_precision : binary64.precision = binary64.fractionBits + 1 := rfl

theorem binary64_bias : 1 ≤ binary64.bias := by decide

theorem binary32_precision : binary32.precision = binary32.fractionBits + 1 := rfl

theorem binary32_bias : 1 ≤ binary32.bias := by decide

theorem canonical_binary64_iff (m : Nat) (q : Int) : binary64.Canonical m q ↔
    (2 ^ 52 ≤ m ∧ m < 2 ^ 53 ∧ -1074 ≤ q ∧ q ≤ 971) ∨ (m < 2 ^ 52 ∧ q = -1074) := by
  simp only [Canonical, fractionBits, binary64, minQuantum, bias, Nat.pow_eq]
  norm_num
  omega

theorem canonical_binary32_iff (m : Nat) (q : Int) : binary32.Canonical m q ↔
    (2 ^ 23 ≤ m ∧ m < 2 ^ 24 ∧ -149 ≤ q ∧ q ≤ 104) ∨ (m < 2 ^ 23 ∧ q = -149) := by
  simp only [Canonical, fractionBits, binary32, minQuantum, bias, Nat.pow_eq]
  norm_num
  omega

/-- A canonical double precision form decodes from its bit pattern. -/
theorem decode_pack_binary64 (s : Bool) {m : Nat} {q : Int} (h : binary64.Canonical m q) :
    binary64.decode (binary64.pack s m q) = .finite s m q ∧ binary64.pack s m q < 2 ^ 64 := by
  rw [canonical_binary64_iff] at h
  generalize hb : binary64.pack s m q = bits
  simp only [pack, decode, signBit, fractionBits, binary64, minQuantum, bias, Nat.pow_eq,
    Nat.reduceSub, Nat.reducePow, Nat.reduceAdd, Nat.cast_ofNat, Int.reduceSub] at hb ⊢
  rcases h with ⟨hlo, hhi, hq, hq'⟩ | ⟨hhi, rfl⟩
  · have hm : 4503599627370496 ≤ m := by omega
    simp only [hm, if_true] at hb
    have hsign : (bits / 9223372036854775808 % 2 == 1) = s := by
      cases s <;> simp at hb ⊢ <;> omega
    have hexp : bits / 4503599627370496 % 2048 = (q + 1075).toNat := by
      cases s <;> simp at hb <;> omega
    have hfr : bits % 4503599627370496 = m - 4503599627370496 := by
      cases s <;> simp at hb <;> omega
    refine ⟨?_, by cases s <;> simp at hb <;> omega⟩
    simp only [hsign, hexp, hfr, beq_iff_eq]
    rw [if_neg (by omega), if_neg (by omega),
      show m - 4503599627370496 + 4503599627370496 = m by omega,
      show (((q + 1075).toNat : Nat) : Int) + -1074 - 1 = q by omega]
  · have hm : ¬ 4503599627370496 ≤ m := by omega
    simp only [hm, if_false] at hb
    have hsign : (bits / 9223372036854775808 % 2 == 1) = s := by
      cases s <;> simp at hb ⊢ <;> omega
    have hexp : bits / 4503599627370496 % 2048 = 0 := by
      cases s <;> simp at hb <;> omega
    have hfr : bits % 4503599627370496 = m := by
      cases s <;> simp at hb <;> omega
    refine ⟨?_, by cases s <;> simp at hb <;> omega⟩
    simp [hsign, hexp, hfr]

/-- A finite single precision bit pattern is the pattern of its canonical form. -/
theorem pack_decode_binary32 {bits : Nat} (hbits : bits < 2 ^ 32) {s : Bool} {m : Nat} {q : Int}
    (h : binary32.decode bits = .finite s m q) :
    binary32.Canonical m q ∧ binary32.pack s m q = bits := by
  rw [canonical_binary32_iff]
  simp only [decode, signBit, fractionBits, binary32, minQuantum, bias, Nat.pow_eq, Nat.reduceSub,
    Nat.reducePow, Nat.reduceAdd, Nat.cast_ofNat, Int.reduceSub, beq_iff_eq] at h
  simp only [pack, signBit, fractionBits, binary32, minQuantum, bias, Nat.pow_eq, Nat.reduceSub,
    Nat.reducePow, Nat.reduceAdd, Nat.cast_ofNat, Int.reduceSub]
  split at h
  · split at h <;> cases h
  · split at h
    · cases h
      refine ⟨.inr ⟨by omega, rfl⟩, ?_⟩
      simp only [show ¬ 8388608 ≤ bits % 8388608 by omega, if_false]
      cases hs : (bits / 2147483648 % 2 == 1) <;> simp at hs ⊢ <;> omega
    · cases h
      refine ⟨.inl ⟨by omega, by omega, by omega, by omega⟩, ?_⟩
      simp only [show 8388608 ≤ bits % 8388608 + 8388608 by omega, if_true]
      cases hs : (bits / 2147483648 % 2 == 1) <;> simp at hs ⊢ <;> omega

/-- Every canonical single precision form has a canonical double precision form of the same
value: the significand shifted up to the leading bit. -/
theorem exists_canonical_binary64 {m : Nat} {q : Int} (h : binary32.Canonical m q) :
    ∃ M Q, binary64.Canonical M Q ∧ m * 2 ^ (q - Q).toNat = M * 2 ^ (Q - q).toNat := by
  rw [canonical_binary32_iff] at h
  by_cases hm : m = 0
  · exact ⟨0, -1074, by rw [canonical_binary64_iff]; omega, by simp [hm]⟩
  have hlog : m.log2 ≤ 23 := by
    have := (Nat.log2_lt hm).mpr (show m < 2 ^ 24 by omega)
    omega
  refine ⟨m * 2 ^ (52 - m.log2), q - (52 - m.log2 : Nat), ?_, ?_⟩
  · have hlow : 2 ^ 52 ≤ m * 2 ^ (52 - m.log2) := by
      calc 2 ^ 52 = 2 ^ m.log2 * 2 ^ (52 - m.log2) := by rw [← Nat.pow_add]; congr 1; omega
        _ ≤ m * 2 ^ (52 - m.log2) := Nat.mul_le_mul_right _ (Nat.log2_self_le hm)
    have hhigh : m * 2 ^ (52 - m.log2) < 2 ^ 53 := by
      calc m * 2 ^ (52 - m.log2) < 2 ^ (m.log2 + 1) * 2 ^ (52 - m.log2) :=
            Nat.mul_lt_mul_of_pos_right Nat.lt_log2_self (by positivity)
        _ = 2 ^ 53 := by rw [← Nat.pow_add]; congr 1; omega
    rw [canonical_binary64_iff]
    omega
  · rw [show (q - (q - ((52 - m.log2 : Nat) : Int))).toNat = 52 - m.log2 by omega,
      show (q - ((52 - m.log2 : Nat) : Int) - q).toNat = 0 by omega, Nat.pow_zero, Nat.mul_one]

end BinaryFormat

/-- Widening a finite single precision number to double precision and narrowing it back gives
the number itself. -/
theorem Binary32.toBinary32_toBinary64 (x : Binary32) (hx : x.isFinite = true) :
    x.toBinary64.toBinary32 = x := by
  obtain ⟨s, m, q, hv⟩ : ∃ s m q, x.value = .finite s m q := by
    unfold Binary32.isFinite at hx
    split at hx
    · next s m q hv => exact ⟨s, m, q, hv⟩
    · cases hx
  obtain ⟨hcanon, hpack⟩ := BinaryFormat.pack_decode_binary32 x.bits.toNat_lt hv
  obtain ⟨M, Q, hcanon64, hexact⟩ := BinaryFormat.exists_canonical_binary64 hcanon
  obtain ⟨hdecode, hlt⟩ := BinaryFormat.decode_pack_binary64 s hcanon64
  have hwide : x.toBinary64 = ⟨(BinaryFormat.binary64.pack s M Q).toUInt64⟩ := by
    rw [Binary32.toBinary64, hv]
    dsimp only
    rw [Binary64.ofScaled,
      BinaryFormat.roundScaled_exact _ BinaryFormat.binary64_precision BinaryFormat.binary64_bias
        s hexact hcanon64]
  have hvalue : (⟨(BinaryFormat.binary64.pack s M Q).toUInt64⟩ : Binary64).value = .finite s M Q := by
    rw [Binary64.value, UInt64.toNat_ofNat_of_lt' hlt, hdecode]
  rw [hwide, Binary64.toBinary32, hvalue]
  dsimp only
  rw [BinaryFormat.roundScaled_exact _ BinaryFormat.binary32_precision BinaryFormat.binary32_bias
      s hexact.symm hcanon, hpack]
  simp

end SessionSquash
