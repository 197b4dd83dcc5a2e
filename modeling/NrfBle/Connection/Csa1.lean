import NrfBle.Connection.Reachable
import Mathlib.Data.Fin.VecNotation

/-!
# The connection follows Channel Selection Algorithm #1

The BLE 4.x data-channel selection, as the spec states it (§4.3): with `h` the hop increment,
`u = (last + h) mod 37` becomes the last unmapped channel, and the channel is `u` when bit `u` of
the map is set, and otherwise the `(u mod N)`-th smallest of the set bits `0`–`36`, `N` their
number. `csa1Run` is that algorithm over a sequence of calls, written from the spec's words, and
`connect_csa1` shows that the code computes it for every map whose reserved bits `37`–`39` are
clear, every hop and every sequence of calls, through the simulation `exec_csa1`.

The reserved bits are where the two differ: `expand_channel_map` and the remapping scan run over
all forty entries, so a set reserved bit is counted and can be returned as an advertising channel
(`connect_reserved_bit_channel`).
-/

namespace NrfBle

/-- The map's reserved bits `37`–`39`, the high three bits of `chm[4]`, are clear. -/
def ReservedClear (chm : Fin 5 → BitVec 8) : Prop :=
  chm 4 &&& 0xE0 = 0

/-- The map has at least one data channel set, among bits `0`–`36`. -/
def HasDataChannel (chm : Fin 5 → BitVec 8) : Prop :=
  ∃ k < numberDataChannels, chmBit chm k = true

/-- Whether the reserved bits are clear is decided by a byte comparison. -/
instance : DecidablePred ReservedClear :=
  fun chm => inferInstanceAs (Decidable (chm 4 &&& 0xE0 = 0))

/-- Whether a data channel is set is decided over the thirty-seven bits. -/
instance : DecidablePred HasDataChannel :=
  fun chm => inferInstanceAs (Decidable (∃ k < numberDataChannels, chmBit chm k = true))

/-- The data channels that the map marks used, in increasing order: its set bits among `0`–`36`. -/
def csa1UsedChannels (chm : Fin 5 → BitVec 8) : List ℕ :=
  (List.range numberDataChannels).filter (chmBit chm)

/-- Channel Selection Algorithm #1 at the unmapped channel `u`: `u` when its bit is set, else the
`(u mod N)`-th smallest set data channel, `N` their number. -/
def csa1Channel (chm : Fin 5 → BitVec 8) (u : ℕ) : ℕ :=
  if chmBit chm u then u
  else (csa1UsedChannels chm).getD (u % (csa1UsedChannels chm).length) 0

/-- The channels that Channel Selection Algorithm #1 picks for the `next_channel` calls of `ops`,
with hop increment `hop`, from the last unmapped channel `last` and the map `chm`; an
`update_lldata` changes the map and keeps `last`. -/
def csa1Run (hop : ℕ) : ℕ → (Fin 5 → BitVec 8) → List ConnOp → List ℕ
  | _, _, [] => []
  | last, chm, .nextChannel :: ops =>
    csa1Channel chm ((last + hop) % 37) :: csa1Run hop ((last + hop) % 37) chm ops
  | last, _, .updateLldata lldata :: ops => csa1Run hop last lldata.chm ops

/-- With the reserved bits clear, bits `37`–`39` read zero. -/
theorem chmBit_reserved {chm : Fin 5 → BitVec 8} (h : ReservedClear chm) {k : ℕ}
    (hk : numberDataChannels ≤ k) (hk' : k < numberChannels) : chmBit chm k = false := by
  have hdiv : k / 8 = 4 := by simp only [numberDataChannels, numberChannels] at hk hk'; omega
  have hbit := congrArg (fun x : BitVec 8 => x.getLsbD (k % 8)) h
  have hmod : k % 8 = 5 ∨ k % 8 = 6 ∨ k % 8 = 7 := by
    simp only [numberDataChannels, numberChannels] at hk hk'; omega
  simp only [chmBit, hdiv, show 4 < 5 by decide, dite_true]
  show (chm 4).getLsbD (k % 8) = false
  rcases hmod with hm | hm | hm <;> simpa [hm] using hbit

/-- With the reserved bits clear, the code's table of used channels is the data channels set. -/
theorem usedBelow_reservedClear {chm : Fin 5 → BitVec 8} (h : ReservedClear chm) :
    usedBelow (expandedChannels chm) numberChannels = csa1UsedChannels chm := by
  rw [usedBelow_expandedChannels chm le_rfl, csa1UsedChannels,
    show numberChannels = numberDataChannels + 3 from rfl, List.range_add, List.filter_append]
  refine (List.append_right_eq_self).mpr (List.filter_eq_nil_iff.mpr fun x hx => ?_)
  obtain ⟨y, hy, rfl⟩ := List.mem_map.mp hx
  have hy3 := List.mem_range.mp hy
  simp [chmBit_reserved h (Nat.le_add_right numberDataChannels y)
    (by simp only [numberDataChannels, numberChannels]; omega)]

/-- With the reserved bits clear, the code's remapping of a data channel is the algorithm's. -/
theorem remapped_reservedClear {chm : Fin 5 → BitVec 8} (h : ReservedClear chm) {u : ℕ}
    (hu : u < numberDataChannels) : remapped (expandedChannels chm) u = csa1Channel chm u := by
  rw [remapped, csa1Channel, usedBelow_reservedClear h,
    isUsed_expandedChannels chm (hu.trans (by decide))]

/-- The code simulates the algorithm: from a state with the invariant for a map with the reserved
bits clear, calls whose maps all have their reserved bits clear and a data channel set return the
channels that the algorithm picks from the state's last unmapped channel and hop. -/
theorem exec_csa1 : ∀ (ops : List ConnOp) {chm : Fin 5 → BitVec 8} {s : ConnectionData},
    ConnInv chm s → ReservedClear chm → HasDataChannel chm →
    (∀ l, ConnOp.updateLldata l ∈ ops → ReservedClear l.chm ∧ HasDataChannel l.chm) →
    ∃ outs s', s.exec ops = some (outs, s') ∧
      outs.map (fun c => (c.index : ℕ)) =
        csa1Run s.hopIncrement.toNat s.lastUnmappedChannel.toNat chm ops
  | [], _, s, _, _, _, _ => ⟨[], s, rfl, rfl⟩
  | .nextChannel :: ops, chm, s, h, hr, hd, hops => by
    obtain ⟨k, hk, hb⟩ := hd
    obtain ⟨c, s₁, hc, h₁, hlast, hhop, hidx⟩ :=
      nextChannel_inv h (usedCount_pos ⟨k, hk.trans (by decide), hb⟩)
    obtain ⟨outs, s', he, hmap⟩ := exec_csa1 ops h₁ hr ⟨k, hk, hb⟩
      fun l hl => hops l (List.mem_cons_of_mem _ hl)
    refine ⟨c :: outs, s', by simp [ConnectionData.exec, hc, he], ?_⟩
    rw [List.map_cons, hmap, hlast, hhop, hidx]
    exact congrArg₂ List.cons (remapped_reservedClear hr (unmappedAfter_lt _ _)) rfl
  | .updateLldata lldata :: ops, chm, s, h, _, _, hops => by
    obtain ⟨s₁, hu, h₁, hlast, hhop⟩ := updateLldata_inv h lldata
    obtain ⟨hr₁, hd₁⟩ := hops lldata (List.mem_cons_self _ _)
    obtain ⟨outs, s', he, hmap⟩ := exec_csa1 ops h₁ hr₁ hd₁
      fun l hl => hops l (List.mem_cons_of_mem _ hl)
    refine ⟨outs, s', by simp [ConnectionData.exec, hu, he], ?_⟩
    rw [hmap, hlast, hhop]
    rfl

/-- For every connection request whose map has its reserved bits clear and a data channel set,
every hop increment, and every sequence of `next_channel` and `update_lldata` calls whose maps are
alike, the calls never panic and the channels returned are those of Channel Selection Algorithm #1
from last unmapped channel `0` and hop `hop_and_sca & 0x1F`. -/
theorem connect_csa1 (lldata : LLData) (ops : List ConnOp)
    (h0 : ReservedClear lldata.chm ∧ HasDataChannel lldata.chm)
    (hops : ∀ l, ConnOp.updateLldata l ∈ ops → ReservedClear l.chm ∧ HasDataChannel l.chm) :
    ∃ outs s, connect lldata ops = some (outs, s) ∧
      outs.map (fun c => (c.index : ℕ)) =
        csa1Run (lldata.hopAndSca &&& 0b11111).toNat 0 lldata.chm ops := by
  obtain ⟨s₀, hn, h₀, hlast, hhop⟩ := new_inv lldata
  obtain ⟨outs, s, he, hmap⟩ := exec_csa1 ops h₀ h0.1 h0.2 hops
  refine ⟨outs, s, by simp [connect, hn, he], ?_⟩
  rw [hmap, hlast, hhop]
  rfl

/-- The spec's second example: channels `0`–`31` used and hop `7`, over five calls. -/
theorem connect_csa1_hop7 :
    ∃ outs s, connect ⟨![0xFF, 0xFF, 0xFF, 0xFF, 0x00], 7⟩ (List.replicate 5 .nextChannel) =
        some (outs, s) ∧
      outs.map (fun c => (c.index : ℕ)) =
        csa1Run 7 0 ![0xFF, 0xFF, 0xFF, 0xFF, 0x00] (List.replicate 5 .nextChannel) :=
  connect_csa1 _ _ (by decide) fun _ hl => by simp at hl

/-- A request map with bits `0` and `37` set, with hop increment `5`: the first call returns
channel `37`, an advertising channel. The reserved bit is counted and scanned into the table. -/
theorem connect_reserved_bit_channel :
    (connect ⟨![0x01, 0x00, 0x00, 0x00, 0x20], 5⟩ [.nextChannel]).map
      (fun r => r.1.map fun c => (c.index : ℕ)) = some [37] := by
  decide

end NrfBle
