import SessionSquash.Coord
import SessionSquash.Record.Shared

namespace SessionSquash

set_option autoImplicit false

namespace Coord

theorem chunkKey_toNat (x z : Int32) :
    (chunkKey x z).toNat = x.toUInt32.toNat * 4294967296 + z.toUInt32.toNat := by
  have hx := x.toUInt32.toNat_lt
  have hz := z.toUInt32.toNat_lt
  unfold chunkKey
  rw [UInt64.toNat_or, UInt64.toNat_shiftLeft, UInt32.toNat_toUInt64, UInt32.toNat_toUInt64,
    show (32 : UInt64).toNat % 64 = 32 from rfl,
    Nat.mod_eq_of_lt (by rw [Nat.shiftLeft_eq]; omega),
    ← Nat.shiftLeft_add_eq_or_of_lt hz, Nat.shiftLeft_eq]

@[simp] theorem keyX_chunkKey (x z : Int32) : keyX (chunkKey x z) = x := by
  have hx := x.toUInt32.toNat_lt
  have hz := z.toUInt32.toNat_lt
  unfold keyX
  rw [← Int32.toInt32_toUInt32 x]
  congr 1
  apply UInt32.toNat_inj.mp
  rw [UInt64.toNat_toUInt32, UInt64.toNat_shiftRight, chunkKey_toNat, Int32.toInt32_toUInt32,
    show (32 : UInt64).toNat % 64 = 32 from rfl, Nat.shiftRight_eq_div_pow]
  omega

@[simp] theorem keyZ_chunkKey (x z : Int32) : keyZ (chunkKey x z) = z := by
  have hz := z.toUInt32.toNat_lt
  unfold keyZ
  rw [← Int32.toInt32_toUInt32 z]
  congr 1
  apply UInt32.toNat_inj.mp
  rw [UInt64.toNat_toUInt32, chunkKey_toNat, Int32.toInt32_toUInt32]
  omega

@[simp] theorem chunkKey_keyX_keyZ (k : UInt64) : chunkKey (keyX k) (keyZ k) = k := by
  have hk := k.toNat_lt
  apply UInt64.toNat_inj.mp
  rw [chunkKey_toNat]
  unfold keyX keyZ
  simp only [UInt32.toUInt32_toInt32, UInt64.toNat_toUInt32, UInt64.toNat_shiftRight]
  rw [show (32 : UInt64).toNat % 64 = 32 from rfl, Nat.shiftRight_eq_div_pow]
  omega

theorem chunkKey_inj {x z x' z' : Int32} (h : chunkKey x z = chunkKey x' z') : x = x' ∧ z = z' :=
  ⟨by rw [← keyX_chunkKey x z, h, keyX_chunkKey], by rw [← keyZ_chunkKey x z, h, keyZ_chunkKey]⟩

/-- The arithmetic shift by four rounds down to whole chunks. -/
theorem toInt_shiftRight_four (x : Int32) : (x >>> 4).toInt = x.toInt / 16 := by
  rw [← Int32.toInt_toBitVec, Int32.toBitVec_shiftRight, ← Int32.toInt_toBitVec,
    show ((4 : Int32).toBitVec.smod 32) = 4#32 from by decide, BitVec.sshiftRight',
    BitVec.toInt_sshiftRight]
  simp [Int.shiftRight_eq_div_pow]

theorem emod_sixteen_bounds (v : Int32) : 0 ≤ v.toInt % 16 ∧ v.toInt % 16 < 16 :=
  ⟨Int.emod_nonneg _ (by decide), Int.emod_lt_of_pos _ (by decide)⟩

/-- A coordinate is its sixteenth and its remainder. -/
theorem eq_of_ediv_emod {a b : Int32} (hd : a.toInt / 16 = b.toInt / 16)
    (hm : a.toInt % 16 = b.toInt % 16) : a = b := by
  apply Int32.toInt_inj.mp
  rw [← Int.mul_ediv_add_emod a.toInt 16, ← Int.mul_ediv_add_emod b.toInt 16, hd, hm]

theorem blockIndex_toNat (x y z : Int32) :
    (blockIndex x y z).toNat =
      (x.toInt % 16).toNat * 1024 + (y.toInt % 16).toNat * 32 + (z.toInt % 16).toNat := by
  obtain ⟨-, hx⟩ := emod_sixteen_bounds x
  obtain ⟨-, hy⟩ := emod_sixteen_bounds y
  obtain ⟨-, hz⟩ := emod_sixteen_bounds z
  unfold blockIndex
  dsimp only
  rw [Nat.toUInt16_eq, UInt16.toNat_ofNat', Nat.mod_eq_of_lt (by omega)]

theorem toNat_emod_sixteen_lt (v : Int32) : (v.toInt % 16).toNat < 16 := by
  have := emod_sixteen_bounds v
  omega

/-- A remainder is read back from its natural number. -/
theorem emod_eq_of_toNat_eq {a b : Int32} (h : (a.toInt % 16).toNat = (b.toInt % 16).toNat) :
    a.toInt % 16 = b.toInt % 16 := by
  rw [← Int.toNat_of_nonneg (emod_sixteen_bounds a).1,
    ← Int.toNat_of_nonneg (emod_sixteen_bounds b).1, h]

/-- An index unpacks to the three remainders it was packed from. -/
theorem unpackIndex_blockIndex (x y z : Int32) :
    unpackIndex (blockIndex x y z) =
      ((x.toInt % 16).toNat, (y.toInt % 16).toNat, (z.toInt % 16).toNat) := by
  have hx := toNat_emod_sixteen_lt x
  have hy := toNat_emod_sixteen_lt y
  have hz := toNat_emod_sixteen_lt z
  simp only [unpackIndex, blockIndex_toNat, Prod.mk.injEq]
  generalize (x.toInt % 16).toNat = a at *
  generalize (y.toInt % 16).toNat = b at *
  generalize (z.toInt % 16).toNat = c at *
  omega

/-- The index of a block in its section gives its three remainders. -/
theorem emod_eq_of_blockIndex_eq {x y z x' y' z' : Int32}
    (h : (blockIndex x y z).toNat = (blockIndex x' y' z').toNat) :
    x.toInt % 16 = x'.toInt % 16 ∧ y.toInt % 16 = y'.toInt % 16 ∧ z.toInt % 16 = z'.toInt % 16 := by
  have hu := congrArg unpackIndex (UInt16.toNat_inj.mp h)
  rw [unpackIndex_blockIndex, unpackIndex_blockIndex, Prod.mk.injEq, Prod.mk.injEq] at hu
  obtain ⟨hx, hy, hz⟩ := hu
  exact ⟨emod_eq_of_toNat_eq hx, emod_eq_of_toNat_eq hy, emod_eq_of_toNat_eq hz⟩

/-- A coordinate is sixteen times its chunk coordinate plus its place in the chunk, with no
overflow anywhere in the range. -/
theorem toInt_eq_shiftRight_add_emod (x : Int32) :
    x.toInt = 16 * (x >>> 4).toInt + x.toInt % 16 := by
  rw [toInt_shiftRight_four]
  exact (Int.mul_ediv_add_emod x.toInt 16).symm

theorem ediv_eq_of_chunkOfBlock_eq {x z x' z' : Int32}
    (h : chunkOfBlock x z = chunkOfBlock x' z') :
    x.toInt / 16 = x'.toInt / 16 ∧ z.toInt / 16 = z'.toInt / 16 := by
  simp only [chunkOfBlock, Prod.mk.injEq] at h
  rw [← toInt_shiftRight_four, ← toInt_shiftRight_four, ← toInt_shiftRight_four,
    ← toInt_shiftRight_four, h.1, h.2]
  exact ⟨rfl, rfl⟩

theorem sectionOf_eq_some {y : Int32} {level : Nat} (h : sectionOf y = some level) :
    y.toInt / 16 = level ∧ level < 16 := by
  unfold sectionOf at h
  dsimp only at h
  split at h
  · rename_i hs
    simp only [Bool.and_eq_true, decide_eq_true_eq] at hs
    cases h
    omega
  · cases h

end Coord

namespace BlockPos

/-- The key a block change is kept under in its column: the section, then the index in it. -/
def changeKey (pos : BlockPos) : Option Nat :=
  (Coord.sectionOf pos.y).map fun level =>
    level * 65536 + (Coord.blockIndex pos.x pos.y pos.z).toNat

theorem changeKey_div {pos : BlockPos} {k : Nat} (h : pos.changeKey = some k) :
    Coord.sectionOf pos.y = some (k / 65536) := by
  unfold changeKey at h
  cases hs : Coord.sectionOf pos.y with
  | none => rw [hs] at h; cases h
  | some level =>
    rw [hs, Option.map_some, Option.some.injEq] at h
    subst h
    have hi := (Coord.blockIndex pos.x pos.y pos.z).toNat_lt
    congr 1
    omega

/-- A block is fixed by its column, its section and its index in the section. -/
theorem eq_of_cell_eq {p q : BlockPos}
    (hcol : Coord.chunkOfBlock p.x p.z = Coord.chunkOfBlock q.x q.z) {level : Nat}
    (hp : Coord.sectionOf p.y = some level) (hq : Coord.sectionOf q.y = some level)
    (hidx : Coord.blockIndex p.x p.y p.z = Coord.blockIndex q.x q.y q.z) : p = q := by
  obtain ⟨px, py, pz⟩ := p
  obtain ⟨qx, qy, qz⟩ := q
  dsimp only at hcol hp hq hidx
  obtain ⟨hx, hz⟩ := Coord.ediv_eq_of_chunkOfBlock_eq hcol
  have hy := (Coord.sectionOf_eq_some hp).1.trans (Coord.sectionOf_eq_some hq).1.symm
  obtain ⟨hmx, hmy, hmz⟩ := Coord.emod_eq_of_blockIndex_eq (congrArg UInt16.toNat hidx)
  rw [mk.injEq]
  exact ⟨Coord.eq_of_ediv_emod hx hmx, Coord.eq_of_ediv_emod hy hmy, Coord.eq_of_ediv_emod hz hmz⟩

/-- Two positions of one column under one change key are the same position. -/
theorem eq_of_changeKey_eq {p q : BlockPos}
    (hcol : Coord.chunkOfBlock p.x p.z = Coord.chunkOfBlock q.x q.z)
    {k : Nat} (hp : p.changeKey = some k) (hq : q.changeKey = some k) : p = q := by
  have hsp := changeKey_div hp
  have hsq := changeKey_div hq
  refine eq_of_cell_eq hcol hsp hsq (UInt16.toNat_inj.mp ?_)
  unfold changeKey at hp hq
  rw [hsp, Option.map_some, Option.some.injEq] at hp
  rw [hsq, Option.map_some, Option.some.injEq] at hq
  omega

end BlockPos

namespace Coord

/-- Packing a chunk coordinate into a key loses nothing and every key is a packed coordinate; a
block's index unpacks to the Euclidean remainders of its coordinates mod 16, a coordinate is
sixteen times its arithmetic shift by four plus that remainder, and so a block is fixed by its
column, its section and its index. -/
theorem packing_lossless :
    (∀ x z : Int32, keyX (chunkKey x z) = x ∧ keyZ (chunkKey x z) = z) ∧
      (∀ k : UInt64, chunkKey (keyX k) (keyZ k) = k) ∧
      (∀ x y z : Int32, unpackIndex (blockIndex x y z) =
        ((x.toInt % 16).toNat, (y.toInt % 16).toNat, (z.toInt % 16).toNat)) ∧
      (∀ x : Int32, x.toInt = 16 * (x >>> 4).toInt + x.toInt % 16) ∧
      (∀ p q : BlockPos, chunkOfBlock p.x p.z = chunkOfBlock q.x q.z → ∀ level : Nat,
        sectionOf p.y = some level → sectionOf q.y = some level →
        blockIndex p.x p.y p.z = blockIndex q.x q.y q.z → p = q) :=
  ⟨fun x z => ⟨keyX_chunkKey x z, keyZ_chunkKey x z⟩, chunkKey_keyX_keyZ,
    unpackIndex_blockIndex, toInt_eq_shiftRight_add_emod,
    fun _ _ hcol _ hp hq hidx => BlockPos.eq_of_cell_eq hcol hp hq hidx⟩

/-- The block at `(-1, 20, -16)` is the one of column `(-1, -1)`, section 1, at the far `x`
edge and the near `z` edge of its cell. -/
theorem packing_lossless_negativeCorner :
    sectionOf 20 = some 1 ∧
      (⟨-1, 20, -16⟩ : BlockPos) = ⟨16 * -1 + 15, 16 * 1 + 4, 16 * -1 + 0⟩ :=
  ⟨by decide, packing_lossless.2.2.2.2 _ _ (by decide) 1 (by decide) (by decide) (by decide)⟩

end Coord

end SessionSquash
