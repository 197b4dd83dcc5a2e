import NrfBle.Connection.Model
import Mathlib.Algebra.BigOperators.Fin

/-!
# `expand_channel_map` never panics and expands the map bit by bit

`expandChannelMap_eq` gives its result in closed form: channel `k` is `1` exactly when bit `k` of
the five-byte map is set (`chmBit`, least significant bit of byte `0` first), and the count is the
number of set bits among the forty, so that the `u8` counter never overflows.
`expand_channel_map_bits` restates it in the source's terms: channel `8 i + j` holds
`(chm[i] >> j) & 1`, and the count is both the number of channels holding `1` and the sum of the
five bytes' popcounts.

The proof follows the two loops. The inner loop over the eight bits of byte `i` (`expandBit_loop`)
writes channels `8 i` to `8 i + j - 1` and counts their ones after `j` passes; the outer loop
(`expandByte_loop`) has written the first `8 i` channels after `i` passes.
-/

namespace NrfBle

/-- Bit `k` of a five-byte channel map: bit `k % 8` of byte `k / 8`. -/
def chmBit (chm : Fin 5 → BitVec 8) (k : ℕ) : Bool :=
  if h : k / 8 < 5 then (chm ⟨k / 8, h⟩).getLsbD (k % 8) else false

/-- The expansion of a channel map: `1` at each channel whose bit is set, else `0`. -/
def expandedChannels (chm : Fin 5 → BitVec 8) : ChannelMap :=
  fun k => if chmBit chm k then 1 else 0

/-- The number of set bits of a channel map, over all forty channels. -/
def usedCount (chm : Fin 5 → BitVec 8) : ℕ :=
  (List.range numberChannels).countP (chmBit chm)

/-- The number of set bits of a byte. -/
def popcount (b : BitVec 8) : ℕ := (List.range 8).countP b.getLsbD

/-- The low bit of a byte shifted right by `j` is bit `j` of the byte. -/
theorem shiftRight_and_one (x : BitVec 8) (j : ℕ) :
    (x >>> j) &&& 1 = if x.getLsbD j then 1 else 0 := by
  apply BitVec.eq_of_toNat_eq
  have h := Nat.mod_two_eq_zero_or_one (x.toNat >>> j)
  simp only [BitVec.toNat_and, BitVec.toNat_ushiftRight, BitVec.getLsbD, Nat.testBit,
    BitVec.toNat_ofNat]
  split_ifs with hb <;> simp_all [Nat.and_one_is_mod, Nat.one_and_eq_mod_two]

/-- A count below `2^8` is its own byte. -/
theorem toNat_ofNat_byte {m : ℕ} (h : m < 256) : (BitVec.ofNat 8 m).toNat = m := by
  simp [BitVec.toNat_ofNat, Nat.mod_eq_of_lt h]

/-- The map after the inner loop over byte `i` has written channels `8 i` to `8 i + j - 1` from the
low `j` bits of `byte`. -/
def writeBits (channels : ChannelMap) (i j : ℕ) (byte : BitVec 8) : ChannelMap :=
  fun k => if i * 8 ≤ k.val ∧ k.val < i * 8 + j then
    (if byte.getLsbD (k.val - i * 8) then 1 else 0) else channels k

/-- The inner loop after `j` passes over byte `i`: channels `8 i` to `8 i + j - 1` hold the low
`j` bits of the byte, the count has grown by their ones, and the byte is shifted by `j`. -/
theorem expandBit_loop (i : ℕ) (hi : i < 5) (channels : ChannelMap) (n byte : BitVec 8) :
    ∀ j, j ≤ 8 → n.toNat + j < 256 →
      (List.range j).foldlM (expandBit i) (channels, n, byte) =
        some (writeBits channels i j byte,
              BitVec.ofNat 8 (n.toNat + (List.range j).countP byte.getLsbD), byte >>> j)
  | 0, _, _ => by
    have hw : writeBits channels i 0 byte = channels := by
      funext k; simp only [writeBits, add_zero]; rw [if_neg (by omega)]
    simp [hw]
  | j + 1, hj, hn => by
    have hcount : (List.range j).countP byte.getLsbD ≤ j :=
      (List.countP_le_length _).trans (by simp)
    have hnat : (BitVec.ofNat 8 (n.toNat + (List.range j).countP byte.getLsbD)).toNat =
        n.toNat + (List.range j).countP byte.getLsbD := toNat_ofNat_byte (by omega)
    have hk : i * 8 + j < numberChannels := by simp only [numberChannels]; omega
    have hsh : byte >>> j >>> 1 = byte >>> (j + 1) := by
      apply BitVec.eq_of_toNat_eq; simp [BitVec.toNat_ushiftRight, Nat.shiftRight_add]
    -- Pass `j` writes bit `j` at channel `8 i + j`.
    have hw : Function.update (writeBits channels i j byte) ⟨i * 8 + j, hk⟩
        (if byte.getLsbD j then 1 else 0) = writeBits channels i (j + 1) byte := by
      funext k
      simp only [Function.update_apply, writeBits, Fin.ext_iff]
      split_ifs <;> first | rfl | omega | simp_all [show k.val - i * 8 = j by omega]
    rw [foldlM_range_succ, expandBit_loop i hi channels n byte j (by omega) (by omega)]
    simp only [Option.some_bind, expandBit, Option.bind_eq_bind, Option.pure_def]
    simp only [shiftRight_and_one, update?_of_lt _ hk, hw, hsh]
    by_cases hb : byte.getLsbD j
    · have hadd : checkedAdd (BitVec.ofNat 8 (n.toNat + (List.range j).countP byte.getLsbD)) 1 =
          some (BitVec.ofNat 8 (n.toNat + (List.range (j + 1)).countP byte.getLsbD)) := by
        rw [checkedAdd_eq_some, hnat, List.range_succ, List.countP_append]
        simp only [BitVec.toNat_ofNat, hb, List.countP_singleton, if_true]
        have h1 : (1 : BitVec 8).toNat = 1 := rfl
        omega
      simp only [hb, ↓reduceIte, hadd, Option.some_bind]
    · have hc : (List.range (j + 1)).countP byte.getLsbD = (List.range j).countP byte.getLsbD := by
        rw [List.range_succ, List.countP_append]; simp [hb]
      have h01 : ((0 : BitVec 8) = 1) ↔ False := by decide
      simp only [hb, Bool.false_eq_true, ↓reduceIte, hc, h01, Option.some_bind]

/-- Bit `x` of byte `i` is bit `8 i + x` of the map. -/
theorem chmBit_byte (chm : Fin 5 → BitVec 8) {i x : ℕ} (hi : i < 5) (hx : x < 8) :
    chmBit chm (8 * i + x) = (chm ⟨i, hi⟩).getLsbD x := by
  have hdiv : (8 * i + x) / 8 = i := by omega
  have hmod : (8 * i + x) % 8 = x := by omega
  simp only [chmBit, hdiv, hmod, hi, dite_true]

/-- Byte `i` adds its set bits to the count of the bits below `8 i`. -/
theorem countP_range_byte (chm : Fin 5 → BitVec 8) {i : ℕ} (hi : i < 5) :
    (List.range (8 * (i + 1))).countP (chmBit chm) =
      (List.range (8 * i)).countP (chmBit chm) + popcount (chm ⟨i, hi⟩) := by
  rw [show 8 * (i + 1) = 8 * i + 8 by omega, List.range_add, List.countP_append, List.countP_map]
  congr 1
  exact List.countP_congr fun x hx => by
    rw [Function.comp_apply, chmBit_byte chm hi (List.mem_range.mp hx)]

/-- The map after the outer loop has expanded the first `i` bytes: the channels below `8 i`
expanded, the others still `0`. -/
def expandedPrefix (chm : Fin 5 → BitVec 8) (i : ℕ) : ChannelMap :=
  fun k => if k.val < 8 * i then expandedChannels chm k else 0

/-- The outer loop after `i` passes has expanded the first `i` bytes and counted their ones. -/
theorem expandByte_loop (chm : Fin 5 → BitVec 8) :
    ∀ i, i ≤ 5 → (List.range i).foldlM (expandByte chm) (fun _ => 0, 0) =
      some (expandedPrefix chm i, BitVec.ofNat 8 ((List.range (8 * i)).countP (chmBit chm)))
  | 0, _ => by
    have hp : expandedPrefix chm 0 = fun _ => 0 := by funext k; simp [expandedPrefix]
    simp [hp]
  | i + 1, hi => by
    have hcount : (List.range (8 * i)).countP (chmBit chm) ≤ 8 * i :=
      (List.countP_le_length _).trans (by simp)
    have hnat : (BitVec.ofNat 8 ((List.range (8 * i)).countP (chmBit chm))).toNat =
        (List.range (8 * i)).countP (chmBit chm) := toNat_ofNat_byte (by omega)
    -- Pass `i` writes the eight channels of byte `i` and adds their ones to the count.
    have hw : writeBits (expandedPrefix chm i) i 8 (chm ⟨i, by omega⟩) =
        expandedPrefix chm (i + 1) := by
      funext k
      simp only [writeBits, expandedPrefix, expandedChannels]
      split_ifs <;> first | rfl | omega |
        simp_all [← chmBit_byte chm (show i < 5 by omega) (show k.val - i * 8 < 8 by omega),
          show 8 * i + (k.val - i * 8) = k.val by omega]
    rw [foldlM_range_succ, expandByte_loop chm i (by omega)]
    simp only [Option.some_bind, expandByte, index?_of_lt chm (show i < 5 by omega),
      Option.bind_eq_bind, Option.pure_def]
    rw [expandBit_loop i (by omega) _ _ _ 8 le_rfl (by omega)]
    simp only [Option.some_bind, hw, hnat, countP_range_byte chm (show i < 5 by omega), popcount]

/-- `expand_channel_map` never panics: it returns the expansion of the map and the number of its
set bits. -/
theorem expandChannelMap_eq (chm : Fin 5 → BitVec 8) :
    expandChannelMap chm = some (expandedChannels chm, BitVec.ofNat 8 (usedCount chm)) := by
  have hp : expandedPrefix chm 5 = expandedChannels chm := by
    funext k; simp only [expandedPrefix, show k.val < 8 * 5 from k.isLt, if_true]
  rw [expandChannelMap, expandByte_loop chm 5 le_rfl, hp]
  rfl

/-- A map has at most forty set bits. -/
theorem usedCount_le (chm : Fin 5 → BitVec 8) : usedCount chm ≤ numberChannels :=
  (List.countP_le_length _).trans (by simp)

/-- The count fits its byte. -/
theorem toNat_usedCount (chm : Fin 5 → BitVec 8) :
    (BitVec.ofNat 8 (usedCount chm)).toNat = usedCount chm :=
  toNat_ofNat_byte ((usedCount_le chm).trans_lt (by decide))

/-- The set bits below `8 i` are those of the first `i` bytes. -/
theorem countP_range_eq_sum (chm : Fin 5 → BitVec 8) :
    ∀ i (hi : i ≤ 5), (List.range (8 * i)).countP (chmBit chm) =
      ∑ k : Fin i, popcount (chm (Fin.castLE hi k))
  | 0, _ => rfl
  | i + 1, hi => by
    rw [countP_range_byte chm hi, countP_range_eq_sum chm i (by omega), Fin.sum_univ_castSucc]
    rfl

/-- The set bits of the map are the popcounts of its five bytes. -/
theorem usedCount_eq_sum_popcount (chm : Fin 5 → BitVec 8) :
    usedCount chm = ∑ i, popcount (chm i) :=
  countP_range_eq_sum chm 5 le_rfl

/-- Channel `8 i + j` is one of the forty. -/
theorem channel_index_lt (i : Fin 5) (j : Fin 8) : 8 * i.val + j.val < numberChannels := by
  simp only [numberChannels]; omega

/-- A channel of the expansion is `1` exactly when its bit of the map is set. -/
@[simp]
theorem expandedChannels_eq_one (chm : Fin 5 → BitVec 8) (k : Fin numberChannels) :
    expandedChannels chm k = 1 ↔ chmBit chm k = true := by
  by_cases hb : chmBit chm k <;> simp [expandedChannels, hb]

/-- `expand_channel_map` writes `(chm[i] >> j) & 1` at channel `8 i + j` and returns the number of
channels it set to `1`, which is the popcount of the whole map: at most forty, so the `u8` counter
never overflows (an overflow would panic, and the result is `some`). -/
theorem expand_channel_map_bits (chm : Fin 5 → BitVec 8) :
    ∃ channels n, expandChannelMap chm = some (channels, n) ∧
      (∀ (i : Fin 5) (j : Fin 8),
        channels ⟨8 * i.val + j.val, channel_index_lt i j⟩ = (chm i >>> j.val) &&& 1) ∧
      n.toNat = (List.finRange numberChannels).countP (fun k => channels k = 1) ∧
      n.toNat = ∑ i, popcount (chm i) ∧
      n.toNat ≤ numberChannels := by
  have hn := toNat_usedCount chm
  refine ⟨_, _, expandChannelMap_eq chm, fun i j => ?_, ?_,
    hn.trans (usedCount_eq_sum_popcount chm), hn.le.trans (usedCount_le chm)⟩
  · rw [shiftRight_and_one, expandedChannels, chmBit_byte chm i.isLt j.isLt]
  · -- Count over the channel indices `Fin 40` rather than over `range 40`.
    rw [hn, usedCount, ← List.map_coe_finRange, List.countP_map]
    exact List.countP_congr fun k _ => by
      simp only [Function.comp_apply, decide_eq_true_eq, expandedChannels_eq_one]

end NrfBle
