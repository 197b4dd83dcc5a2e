import NrfBle.Connection.Expand
import Mathlib.Data.List.GetD

/-!
# What `next_channel` computes

`remapTable_eq` gives the remapping loop in closed form: the table holds the used channels in
increasing order (`usedBelow`), padded with zeros, and the loop writes one entry per used channel.
`nextChannel_spec` then says what one call returns when the `u8` sum fits and the counter agrees
with the map: the unmapped channel `u = (last + hop) mod 37` is stored, and the channel is
`remapped channels u`, that is `u` itself when used and otherwise entry `u mod N` of the table.
-/

namespace NrfBle

/-- Whether `channels` marks channel `i` used: its byte reads `1`. -/
def isUsed (channels : ChannelMap) (i : ℕ) : Bool :=
  decide (index? channels i = some 1)

/-- The channels below `k` that `channels` marks used, in increasing order. -/
def usedBelow (channels : ChannelMap) (k : ℕ) : List ℕ :=
  (List.range k).filter (isUsed channels)

/-- The remapping table holding the entries of `l`, then zeros. -/
def tableOf (l : List ℕ) : ChannelMap :=
  fun m => BitVec.ofNat 8 (l.getD m 0)

/-- The channel `next_channel` picks for the unmapped channel `u`: `u` itself when it is used, else
entry `u mod N` of the used channels, `N` being their number. -/
def remapped (channels : ChannelMap) (u : ℕ) : ℕ :=
  if isUsed channels u then u
  else (usedBelow channels numberChannels).getD
    (u % (usedBelow channels numberChannels).length) 0

/-- The used channels below `k + 1` are those below `k`, then `k` when it is used. -/
theorem usedBelow_succ (channels : ChannelMap) (k : ℕ) :
    usedBelow channels (k + 1) =
      usedBelow channels k ++ if isUsed channels k then [k] else [] := by
  simp only [usedBelow, List.range_succ, List.filter_append, List.filter_cons, List.filter_nil]

/-- There are at most `k` used channels below `k`. -/
theorem length_usedBelow_le (channels : ChannelMap) (k : ℕ) : (usedBelow channels k).length ≤ k :=
  (List.length_filter_le _ _).trans (by simp)

/-- Every used channel below `k` is below `k`. -/
theorem lt_of_mem_usedBelow {channels : ChannelMap} {k x : ℕ} (h : x ∈ usedBelow channels k) :
    x < k :=
  List.mem_range.mp (List.mem_filter.mp h).1

/-- Every entry of the table, in the list or past it, is below `k` when the list is `usedBelow k`,
for `k > 0`. -/
theorem getD_usedBelow_lt (channels : ChannelMap) {k : ℕ} (hk : 0 < k) (m : ℕ) :
    (usedBelow channels k).getD m 0 < k := by
  rcases Nat.lt_or_ge m (usedBelow channels k).length with h | h
  · rw [List.getD_eq_getElem _ _ h]
    exact lt_of_mem_usedBelow (List.getElem_mem h)
  · rw [List.getD_eq_default _ _ h]; exact hk

/-- The remapping loop after `k` passes: the table holds the used channels below `k`, and `idx`
is their number. -/
theorem remapStep_loop (channels : ChannelMap) :
    ∀ k, k ≤ numberChannels → (List.range k).foldlM (remapStep channels) (fun _ => 0, 0) =
      some (tableOf (usedBelow channels k), (usedBelow channels k).length)
  | 0, _ => by
    have ht : tableOf [] = fun _ => 0 := by funext m; simp [tableOf]
    simp [usedBelow, ht]
  | k + 1, hk => by
    have hk40 : k < numberChannels := by omega
    have hlen : (usedBelow channels k).length < numberChannels :=
      (length_usedBelow_le channels k).trans_lt hk40
    rw [foldlM_range_succ, remapStep_loop channels k (by omega), usedBelow_succ]
    simp only [Option.some_bind, remapStep, index?_of_lt channels hk40, Option.bind_eq_bind,
      Option.pure_def]
    by_cases hc : channels ⟨k, hk40⟩ = 1
    · -- A used channel is written at the next free slot of the table.
      have hu : isUsed channels k = true := by simp [isUsed, index?_of_lt channels hk40, hc]
      have ht : Function.update (tableOf (usedBelow channels k)) ⟨_, hlen⟩ (BitVec.ofNat 8 k) =
          tableOf (usedBelow channels k ++ [k]) := by
        funext m
        simp only [Function.update_apply, tableOf, Fin.ext_iff]
        split_ifs with hm
        · rw [hm, List.getD_append_right _ _ _ _ le_rfl, Nat.sub_self]; rfl
        · rcases Nat.lt_or_gt_of_ne hm with hlt | hgt
          · rw [List.getD_append _ _ _ _ hlt]
          · rw [List.getD_eq_default _ _ (by omega), List.getD_eq_default _ _ (by simp; omega)]
      rw [if_pos hc]
      simp [hu, update?_of_lt _ hlen, ht]
    · have hu : isUsed channels k = false := by simpa [isUsed, index?_of_lt channels hk40] using hc
      rw [if_neg hc]
      simp [hu]

/-- The remapping loop never panics: it tabulates the used channels in increasing order. -/
theorem remapTable_eq (channels : ChannelMap) :
    remapTable channels =
      some (tableOf (usedBelow channels numberChannels),
        (usedBelow channels numberChannels).length) :=
  remapStep_loop channels numberChannels le_rfl

/-- The unmapped channel that follows `last` with the hop increment `hop`. -/
def unmappedAfter (last hop : ℕ) : ℕ :=
  (last + hop) % numberDataChannels

/-- The unmapped channel of the next call of `next_channel` on `s`. -/
def ConnectionData.nextUnmapped (s : ConnectionData) : ℕ :=
  unmappedAfter s.lastUnmappedChannel.toNat s.hopIncrement.toNat

/-- An unmapped channel is a data channel. -/
theorem unmappedAfter_lt (last hop : ℕ) : unmappedAfter last hop < numberDataChannels :=
  Nat.mod_lt _ (by decide)

/-- The `u8` sum of `next_channel` does not panic when it fits. -/
theorem checkedAdd_of_lt {a b : BitVec 8} (h : a.toNat + b.toNat < 256) :
    checkedAdd a b = some (a + b) := by
  rw [checkedAdd_eq_some]; simp [BitVec.toNat_add, Nat.mod_eq_of_lt h, h]

/-- The stored unmapped channel fits its byte. -/
theorem toNat_nextUnmapped (s : ConnectionData) :
    (BitVec.ofNat 8 s.nextUnmapped).toNat = s.nextUnmapped :=
  toNat_ofNat_byte ((unmappedAfter_lt _ _).trans (by decide))

/-- The remainder by `37` of the fitting sum is the next unmapped channel. -/
theorem checkedRem_unmapped (s : ConnectionData)
    (hsum : s.lastUnmappedChannel.toNat + s.hopIncrement.toNat < 256) :
    checkedRem (s.lastUnmappedChannel + s.hopIncrement) (BitVec.ofNat 8 numberDataChannels) =
      some (BitVec.ofNat 8 s.nextUnmapped) := by
  rw [checkedRem_eq_some]
  refine ⟨by decide, BitVec.eq_of_toNat_eq ?_⟩
  rw [toNat_nextUnmapped, ConnectionData.nextUnmapped, unmappedAfter, BitVec.toNat_umod,
    BitVec.toNat_add, Nat.mod_eq_of_lt hsum]
  rfl

/-- One call of `next_channel`, when the `u8` sum of the last unmapped channel and the hop
increment fits and the counter is the number of used channels, not zero: it stores the next
unmapped channel `u` and returns `remapped channels u`. -/
theorem nextChannel_spec (s : ConnectionData)
    (hsum : s.lastUnmappedChannel.toNat + s.hopIncrement.toNat < 256)
    (hn : s.numberUsedChannels.toNat = (usedBelow s.channels numberChannels).length)
    (hpos : 0 < s.numberUsedChannels.toNat) :
    ∃ c, s.nextChannel =
        some (c, { s with lastUnmappedChannel := BitVec.ofNat 8 s.nextUnmapped }) ∧
      (c.index : ℕ) = remapped s.channels s.nextUnmapped := by
  have hu40 : s.nextUnmapped < numberChannels := (unmappedAfter_lt _ _).trans (by decide)
  have hub := toNat_nextUnmapped s
  simp only [ConnectionData.nextChannel, checkedAdd_of_lt hsum, checkedRem_unmapped s hsum,
    Option.some_bind, Option.bind_eq_bind, hub, index?_of_lt _ hu40]
  generalize s.nextUnmapped = u at hu40 hub ⊢
  by_cases hc : s.channels ⟨u, hu40⟩ = 1
  · -- A used channel is the answer.
    rw [if_pos hc, RadioChannel.fromChannelIndex_of_lt (by rw [hub]; exact hu40)]
    refine ⟨_, rfl, ?_⟩
    simp only [hub, remapped, isUsed, index?_of_lt _ hu40, hc, decide_True, if_true]
  · -- An unused channel is remapped through the table.
    have hN : s.numberUsedChannels ≠ 0 := fun h => by simp [h] at hpos
    have hmod : (BitVec.ofNat 8 u % s.numberUsedChannels).toNat =
        u % s.numberUsedChannels.toNat := by
      rw [BitVec.toNat_umod, hub]
    have hlt : u % s.numberUsedChannels.toNat < numberChannels :=
      (Nat.mod_lt _ hpos).trans_le (hn ▸ length_usedBelow_le _ _)
    have ht := getD_usedBelow_lt s.channels (show 0 < numberChannels by decide)
      (u % s.numberUsedChannels.toNat)
    have ht8 := toNat_ofNat_byte (ht.trans (show numberChannels < 256 by decide))
    rw [if_neg hc]
    simp only [checkedRem_eq_some.mpr ⟨hN, rfl⟩, remapTable_eq, Option.some_bind, hmod,
      index?_of_lt _ hlt, tableOf]
    rw [RadioChannel.fromChannelIndex_of_lt (by rw [ht8]; exact ht)]
    refine ⟨_, rfl, ?_⟩
    have hnu : isUsed s.channels u = false := by simpa [isUsed, index?_of_lt _ hu40] using hc
    simp only [remapped, hnu, Bool.false_eq_true, if_false, ← hn]
    exact ht8

end NrfBle
