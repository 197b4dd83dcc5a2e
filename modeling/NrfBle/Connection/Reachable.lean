import NrfBle.Connection.Remap
import Mathlib.Data.Fin.VecNotation

/-!
# The states a connection reaches

`ConnInv chm s` is what holds of every state reached while `chm` is the map in force: the last
unmapped channel is a data channel, the hop increment has five bits, and the expanded map and its
count are those of `chm`. `ConnectionData.new` establishes it (`new_inv`), `update_lldata` moves it
to the new map (`updateLldata_inv`), and `next_channel` keeps it and never panics while the map
has a set bit (`nextChannel_inv`). `exec_inv` runs these over any sequence of calls, and
`connect_safe` states the safety of a whole connection.

The set bit is needed: neither `new` nor `update_lldata` checks the map a peer sends, and once the
map in force has no set bit the next `next_channel` panics, whatever state the connection is in
(`connect_no_set_bit_panics`).
-/

namespace NrfBle

/-- The map has at least one of its forty bits set. -/
def HasSetBit (chm : Fin 5 → BitVec 8) : Prop :=
  ∃ k < numberChannels, chmBit chm k = true

/-- Whether a bit is set is decided over the forty bits. -/
instance : DecidablePred HasSetBit :=
  fun chm => inferInstanceAs (Decidable (∃ k < numberChannels, chmBit chm k = true))

/-- The map in force after the calls `ops`, from the map `chm` of the connection request. -/
def mapInForce (chm : Fin 5 → BitVec 8) : List ConnOp → Fin 5 → BitVec 8
  | [] => chm
  | .nextChannel :: ops => mapInForce chm ops
  | .updateLldata lldata :: ops => mapInForce lldata.chm ops

/-- What holds of a connection state while `chm` is the map in force. -/
structure ConnInv (chm : Fin 5 → BitVec 8) (s : ConnectionData) : Prop where
  last_lt : s.lastUnmappedChannel.toNat < numberDataChannels
  hop_lt : s.hopIncrement.toNat < 32
  channels_eq : s.channels = expandedChannels chm
  count_eq : s.numberUsedChannels.toNat = usedCount chm

/-- A channel below `40` is used in the expansion exactly when its bit is set. -/
theorem isUsed_expandedChannels (chm : Fin 5 → BitVec 8) {i : ℕ} (hi : i < numberChannels) :
    isUsed (expandedChannels chm) i = chmBit chm i := by
  by_cases hb : chmBit chm i <;> simp [isUsed, index?_of_lt _ hi, expandedChannels, hb]

/-- The used channels of the expansion below `k ≤ 40` are the set bits below `k`. -/
theorem usedBelow_expandedChannels (chm : Fin 5 → BitVec 8) {k : ℕ} (hk : k ≤ numberChannels) :
    usedBelow (expandedChannels chm) k = (List.range k).filter (chmBit chm) :=
  List.filter_congr fun _ hi =>
    isUsed_expandedChannels chm ((List.mem_range.mp hi).trans_le hk)

/-- The count is the number of used channels of the expansion. -/
theorem usedCount_eq_length (chm : Fin 5 → BitVec 8) :
    usedCount chm = (usedBelow (expandedChannels chm) numberChannels).length := by
  rw [usedBelow_expandedChannels chm le_rfl, usedCount, List.countP_eq_length_filter]

/-- A map with a set bit has a positive count. -/
theorem usedCount_pos {chm : Fin 5 → BitVec 8} (h : HasSetBit chm) : 0 < usedCount chm := by
  obtain ⟨k, hk, hb⟩ := h
  exact List.countP_pos_iff.mpr ⟨k, List.mem_range.mpr hk, hb⟩

/-- `ConnectionData::new` never panics; it starts at unmapped channel `0` with the expanded map. -/
theorem new_eq (lldata : LLData) :
    ConnectionData.new lldata = some
      { lastUnmappedChannel := 0, channels := expandedChannels lldata.chm,
        numberUsedChannels := BitVec.ofNat 8 (usedCount lldata.chm),
        hopIncrement := lldata.hopAndSca &&& 0b11111, connEventCounter := 0 } := by
  simp [ConnectionData.new, expandChannelMap_eq]

/-- `update_lldata` never panics; it installs the expanded new map and keeps the rest. -/
theorem updateLldata_eq (s : ConnectionData) (lldata : LLData) :
    s.updateLldata lldata = some
      { s with channels := expandedChannels lldata.chm,
               numberUsedChannels := BitVec.ofNat 8 (usedCount lldata.chm) } := by
  simp [ConnectionData.updateLldata, expandChannelMap_eq]

/-- The hop increment, the low five bits of `hop_and_sca`, is below `32`. -/
theorem toNat_hopIncrement_lt (b : BitVec 8) : (b &&& 0b11111).toNat < 32 := by
  rw [BitVec.toNat_and]
  exact Nat.lt_succ_of_le (Nat.and_le_right.trans (by decide))

/-- The state `ConnectionData::new` builds satisfies the invariant for the request's map. -/
theorem new_inv (lldata : LLData) : ∃ s, ConnectionData.new lldata = some s ∧
    ConnInv lldata.chm s ∧ s.lastUnmappedChannel = 0 ∧
    s.hopIncrement = lldata.hopAndSca &&& 0b11111 :=
  ⟨_, new_eq lldata, ⟨by simp [numberDataChannels, numberChannels], toNat_hopIncrement_lt _, rfl,
    toNat_usedCount _⟩, rfl, rfl⟩

/-- `update_lldata` moves the invariant to the new map, keeping the unmapped channel and the hop. -/
theorem updateLldata_inv {chm : Fin 5 → BitVec 8} {s : ConnectionData} (h : ConnInv chm s)
    (lldata : LLData) : ∃ s', s.updateLldata lldata = some s' ∧ ConnInv lldata.chm s' ∧
      s'.lastUnmappedChannel = s.lastUnmappedChannel ∧ s'.hopIncrement = s.hopIncrement :=
  ⟨_, updateLldata_eq s lldata, ⟨h.last_lt, h.hop_lt, rfl, toNat_usedCount _⟩, rfl, rfl⟩

/-- While the map in force has a set bit, `next_channel` does not panic, keeps the invariant,
stores the next unmapped channel and returns its remapping. -/
theorem nextChannel_inv {chm : Fin 5 → BitVec 8} {s : ConnectionData} (h : ConnInv chm s)
    (hpos : 0 < usedCount chm) : ∃ c s', s.nextChannel = some (c, s') ∧ ConnInv chm s' ∧
      s'.lastUnmappedChannel.toNat = s.nextUnmapped ∧ s'.hopIncrement = s.hopIncrement ∧
      (c.index : ℕ) = remapped (expandedChannels chm) s.nextUnmapped := by
  have hsum : s.lastUnmappedChannel.toNat + s.hopIncrement.toNat < 256 := by
    have := h.last_lt; have := h.hop_lt; simp only [numberDataChannels, numberChannels] at *; omega
  have hn : s.numberUsedChannels.toNat = (usedBelow s.channels numberChannels).length := by
    rw [h.count_eq, h.channels_eq, usedCount_eq_length]
  obtain ⟨c, hc, hidx⟩ := nextChannel_spec s hsum hn (h.count_eq ▸ hpos)
  have hu := unmappedAfter_lt s.lastUnmappedChannel.toNat s.hopIncrement.toNat
  have hub : (BitVec.ofNat 8 s.nextUnmapped).toNat = s.nextUnmapped :=
    toNat_ofNat_byte (hu.trans (by decide))
  exact ⟨c, _, hc, ⟨by show (BitVec.ofNat 8 s.nextUnmapped).toNat < _; rw [hub]; exact hu,
    h.hop_lt, h.channels_eq, h.count_eq⟩, hub, rfl, h.channels_eq ▸ hidx⟩

/-- With no set bit in the map in force, `next_channel` panics: the unmapped channel is unused,
and the remainder by the zero count panics. -/
theorem nextChannel_eq_none {chm : Fin 5 → BitVec 8} {s : ConnectionData} (h : ConnInv chm s)
    (h0 : usedCount chm = 0) : s.nextChannel = none := by
  have hsum : s.lastUnmappedChannel.toNat + s.hopIncrement.toNat < 256 := by
    have := h.last_lt; have := h.hop_lt; simp only [numberDataChannels, numberChannels] at *; omega
  have hu40 : s.nextUnmapped < numberChannels := (unmappedAfter_lt _ _).trans (by decide)
  have hnone : chmBit chm s.nextUnmapped = false :=
    Bool.eq_false_iff.mpr fun hb => (usedCount_pos ⟨_, hu40, hb⟩).ne' h0
  have hc : ¬s.channels ⟨s.nextUnmapped, hu40⟩ = 1 := by
    rw [h.channels_eq]; simp [expandedChannels, hnone]
  have hN : s.numberUsedChannels = 0 := BitVec.eq_of_toNat_eq (by rw [h.count_eq, h0]; rfl)
  simp only [ConnectionData.nextChannel, checkedAdd_of_lt hsum, checkedRem_unmapped s hsum,
    Option.some_bind, Option.bind_eq_bind, toNat_nextUnmapped, index?_of_lt _ hu40]
  rw [if_neg hc]
  simp [checkedRem, hN]

/-- Whatever the map, a call of `next_channel` that returns keeps the invariant, stores the next
unmapped channel and returns its remapping. -/
theorem nextChannel_inv_of_some {chm : Fin 5 → BitVec 8} {s s' : ConnectionData} {c : RadioChannel}
    (h : ConnInv chm s) (hs : s.nextChannel = some (c, s')) : ConnInv chm s' ∧
      s'.lastUnmappedChannel.toNat = s.nextUnmapped ∧ s'.hopIncrement = s.hopIncrement ∧
      (c.index : ℕ) = remapped (expandedChannels chm) s.nextUnmapped := by
  rcases Nat.eq_zero_or_pos (usedCount chm) with h0 | hpos
  · rw [nextChannel_eq_none h h0] at hs; cases hs
  · obtain ⟨c', s'', hc, hinv⟩ := nextChannel_inv h hpos
    obtain ⟨rfl, rfl⟩ := Prod.mk.inj (Option.some.inj (hs.symm.trans hc))
    exact hinv

/-- Calls that return keep the invariant for the map then in force, and the hop increment. -/
theorem exec_inv_of_some : ∀ (ops : List ConnOp) {chm : Fin 5 → BitVec 8}
    {s s' : ConnectionData} {outs : List RadioChannel}, ConnInv chm s →
    s.exec ops = some (outs, s') →
    ConnInv (mapInForce chm ops) s' ∧ s'.hopIncrement = s.hopIncrement
  | [], _, _, _, _, h, he => by
    simp only [ConnectionData.exec, Option.some.injEq, Prod.mk.injEq] at he
    exact he.2 ▸ ⟨h, rfl⟩
  | .nextChannel :: ops, _, s, _, _, h, he => by
    simp only [ConnectionData.exec, Option.bind_eq_bind, Option.bind_eq_some,
      Option.pure_def, Option.some.injEq] at he
    obtain ⟨⟨c, s₁⟩, hc, ⟨outs', s₂⟩, he', hr⟩ := he
    obtain ⟨h₁, -, hhop, -⟩ := nextChannel_inv_of_some h hc
    obtain ⟨h₂, hhop₂⟩ := exec_inv_of_some ops h₁ he'
    obtain ⟨-, rfl⟩ := Prod.mk.inj hr
    exact ⟨h₂, hhop₂.trans hhop⟩
  | .updateLldata lldata :: ops, _, s, _, _, h, he => by
    obtain ⟨s₁, hu, h₁, -, hhop⟩ := updateLldata_inv h lldata
    simp only [ConnectionData.exec, Option.bind_eq_bind, hu, Option.some_bind] at he
    obtain ⟨h₂, hhop₂⟩ := exec_inv_of_some ops h₁ he
    exact ⟨h₂, hhop₂.trans hhop⟩

/-- The map in force has a set bit when the request's map and every installed map have one. -/
theorem mapInForce_hasSetBit : ∀ (ops : List ConnOp) {chm : Fin 5 → BitVec 8}, HasSetBit chm →
    (∀ l, ConnOp.updateLldata l ∈ ops → HasSetBit l.chm) → HasSetBit (mapInForce chm ops)
  | [], _, h, _ => h
  | .nextChannel :: ops, _, h, hops =>
    mapInForce_hasSetBit ops h fun l hl => hops l (List.mem_cons_of_mem _ hl)
  | .updateLldata lldata :: ops, _, _, hops =>
    mapInForce_hasSetBit ops (hops lldata (List.mem_cons_self _ _))
      fun l hl => hops l (List.mem_cons_of_mem _ hl)

/-- Any calls from a state satisfying the invariant, while every map installed has a set bit,
never panic and end in a state satisfying the invariant for the map then in force. -/
theorem exec_inv : ∀ (ops : List ConnOp) {chm : Fin 5 → BitVec 8} {s : ConnectionData},
    ConnInv chm s → HasSetBit chm → (∀ l, ConnOp.updateLldata l ∈ ops → HasSetBit l.chm) →
    ∃ outs s', s.exec ops = some (outs, s') ∧ ConnInv (mapInForce chm ops) s'
  | [], _, s, h, _, _ => ⟨[], s, rfl, h⟩
  | .nextChannel :: ops, chm, s, h, hm, hops => by
    obtain ⟨c, s₁, hc, h₁, -⟩ := nextChannel_inv h (usedCount_pos hm)
    obtain ⟨outs, s', he, h'⟩ := exec_inv ops h₁ hm fun l hl => hops l (List.mem_cons_of_mem _ hl)
    exact ⟨c :: outs, s', by simp [ConnectionData.exec, hc, he], h'⟩
  | .updateLldata lldata :: ops, chm, s, h, _, hops => by
    obtain ⟨s₁, hu, h₁, -⟩ := updateLldata_inv h lldata
    obtain ⟨outs, s', he, h'⟩ := exec_inv ops h₁ (hops lldata (List.mem_cons_self _ _))
      fun l hl => hops l (List.mem_cons_of_mem _ hl)
    exact ⟨outs, s', by simp [ConnectionData.exec, hu, he], h'⟩

/-- A connection whose request map and every later map have a set bit never panics, whatever the
hop increment and the sequence of calls. In every state it reaches the last unmapped channel is a
data channel and the next `next_channel` returns a channel `c` (its `u8` sum fits, its divisor is
nonzero, its reads and writes are in bounds and `from_channel_index` gets an index below `40`).
When the next unmapped channel is unused, the remapping index `next_unmapped % number_used_channels`
is below the number of entries the scan fills, and `c` is the table entry at that index. -/
theorem connect_safe (lldata : LLData) (ops : List ConnOp) (h0 : HasSetBit lldata.chm)
    (hops : ∀ l, ConnOp.updateLldata l ∈ ops → HasSetBit l.chm) :
    ∃ outs s, connect lldata ops = some (outs, s) ∧
      s.lastUnmappedChannel.toNat < numberDataChannels ∧
      ∃ c s', s.nextChannel = some (c, s') ∧
        (isUsed s.channels s.nextUnmapped = false →
          ∃ table idx, remapTable s.channels = some (table, idx) ∧
            s.nextUnmapped % s.numberUsedChannels.toNat < idx ∧
            (index? table (s.nextUnmapped % s.numberUsedChannels.toNat)).map BitVec.toNat =
              some (c.index : ℕ)) := by
  obtain ⟨s₀, hn, h₀, -⟩ := new_inv lldata
  obtain ⟨outs, s, he, h⟩ := exec_inv ops h₀ h0 hops
  have hm := mapInForce_hasSetBit ops h0 hops
  obtain ⟨c, s', hc, -, -, -, hidx⟩ := nextChannel_inv h (usedCount_pos hm)
  refine ⟨outs, s, by simp [connect, hn, he], h.last_lt, c, s', hc, fun hnu => ?_⟩
  -- The divisor is the number of entries the scan fills.
  have hlen : s.numberUsedChannels.toNat = (usedBelow s.channels numberChannels).length := by
    rw [h.count_eq, h.channels_eq, usedCount_eq_length]
  have hlt : s.nextUnmapped % s.numberUsedChannels.toNat <
      (usedBelow s.channels numberChannels).length :=
    hlen ▸ Nat.mod_lt _ (h.count_eq ▸ usedCount_pos hm)
  have hentry := getD_usedBelow_lt s.channels (show 0 < numberChannels by decide)
    (s.nextUnmapped % s.numberUsedChannels.toNat)
  refine ⟨_, _, remapTable_eq s.channels, hlt, ?_⟩
  rw [index?_of_lt _ (hlt.trans_le (length_usedBelow_le _ _)), Option.map_some', tableOf,
    toNat_ofNat_byte (hentry.trans (by decide)), hidx, ← h.channels_eq, remapped, hnu, ← hlen]
  rfl

/-- A map with only channel `37` set, a reserved bit, and a zero hop increment, over a call and
an update to channel `0` alone. -/
theorem connect_safe_reserved_only :
    ∃ outs s, connect ⟨![0, 0, 0, 0, 0x20], 0⟩
        [.nextChannel, .updateLldata ⟨![1, 0, 0, 0, 0], 0⟩, .nextChannel] = some (outs, s) ∧
      s.lastUnmappedChannel.toNat < numberDataChannels ∧
      ∃ c s', s.nextChannel = some (c, s') ∧
        (isUsed s.channels s.nextUnmapped = false →
          ∃ table idx, remapTable s.channels = some (table, idx) ∧
            s.nextUnmapped % s.numberUsedChannels.toNat < idx ∧
            (index? table (s.nextUnmapped % s.numberUsedChannels.toNat)).map BitVec.toNat =
              some (c.index : ℕ)) :=
  connect_safe _ _ (by decide) fun l hl => by
    simp only [List.mem_cons, reduceCtorEq, ConnOp.updateLldata.injEq, false_or,
      List.not_mem_nil, or_false] at hl
    subst hl
    decide

/-- A map with no set bit has count zero. -/
theorem usedCount_eq_zero {chm : Fin 5 → BitVec 8} (h : ¬HasSetBit chm) : usedCount chm = 0 :=
  List.countP_eq_zero.mpr fun k hk hb => h ⟨k, List.mem_range.mp hk, hb⟩

/-- From a state satisfying the invariant, calls after which the map in force has no set bit, and
then `next_channel`, panic. -/
theorem exec_nextChannel_eq_none : ∀ (ops : List ConnOp) {chm : Fin 5 → BitVec 8}
    {s : ConnectionData}, ConnInv chm s → ¬HasSetBit (mapInForce chm ops) →
    s.exec (ops ++ [.nextChannel]) = none
  | [], _, _, h, hm => by
    simp [ConnectionData.exec, nextChannel_eq_none h (usedCount_eq_zero hm)]
  | .nextChannel :: ops, _, s, h, hm => by
    rcases hc : s.nextChannel with _ | ⟨c, s₁⟩
    · simp [ConnectionData.exec, hc]
    · simp [ConnectionData.exec, hc,
        exec_nextChannel_eq_none ops (nextChannel_inv_of_some h hc).1 hm]
  | .updateLldata lldata :: ops, _, s, h, hm => by
    obtain ⟨s₁, hu, h₁, -⟩ := updateLldata_inv h lldata
    simp [ConnectionData.exec, hu, exec_nextChannel_eq_none ops h₁ hm]

/-- For every connection request and every sequence of calls after which the map in force has none
of its forty bits set, the next `next_channel` panics. -/
theorem connect_no_set_bit_panics (lldata : LLData) (ops : List ConnOp)
    (hm : ¬HasSetBit (mapInForce lldata.chm ops)) :
    connect lldata (ops ++ [.nextChannel]) = none := by
  obtain ⟨s₀, hn, h₀, -⟩ := new_inv lldata
  simp only [connect, hn, Option.some_bind]
  exact exec_nextChannel_eq_none ops h₀ hm

/-- All channels used, one call, then an update to an empty map. -/
theorem connect_no_set_bit_panics_update :
    ¬HasSetBit (mapInForce ![0xFF, 0xFF, 0xFF, 0xFF, 0x1F]
        [.nextChannel, .updateLldata ⟨![0, 0, 0, 0, 0], 5⟩]) ∧
      connect ⟨![0xFF, 0xFF, 0xFF, 0xFF, 0x1F], 5⟩
        ([.nextChannel, .updateLldata ⟨![0, 0, 0, 0, 0], 5⟩] ++ [.nextChannel]) = none :=
  ⟨by decide, connect_no_set_bit_panics _ _ (by decide)⟩

end NrfBle
