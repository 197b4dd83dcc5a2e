import NrfBle.Connection.Reachable
import Mathlib.Data.Fin.VecNotation
import Mathlib.Data.ZMod.Basic
import Mathlib.Tactic.NormNum.Prime

/-!
# The hop sequence is periodic and covers the map

Between two map updates a connection calls `next_channel` once per connection event. After `k + 1`
calls from a state whose last unmapped channel is `last`, the unmapped channel is
`(last + (k + 1) h) mod 37` (`hopChannel_index`), so the channels repeat with period `37`. Since
`37` is prime, a hop increment that is not a multiple of `37` runs `last + t h` through every
residue in any `37` consecutive calls (`exists_hop_hits`), and a used channel is returned as
itself. `connect_hops_periodic_cover` states both for every reachable state.

The code takes the hop increment as the low five bits of `hop_and_sca` and checks no range, so it
accepts `0`, and then the unmapped channel never moves: every call returns the channel of the
first (`connect_hop_zero_stays`).
-/

namespace NrfBle

/-- The channel of the call after `k` consecutive calls of `next_channel` on `s`. -/
def ConnectionData.hopChannel (s : ConnectionData) : ℕ → Option RadioChannel
  | 0 => s.nextChannel.map Prod.fst
  | k + 1 => s.nextChannel.bind fun r => r.2.hopChannel k

/-- Modulo the prime `37`, the multiples of a hop that is not a multiple of `37`, added to any
start, reach every residue within `37` steps. -/
theorem exists_hop_hits (a : ℕ) {c h : ℕ} (hc : c < 37) (hh : h % 37 ≠ 0) :
    ∃ t < 37, (a + t * h) % 37 = c := by
  haveI : Fact (Nat.Prime 37) := ⟨by norm_num⟩
  have hh' : (h : ZMod 37) ≠ 0 := by
    rwa [Ne, ZMod.natCast_zmod_eq_zero_iff_dvd, Nat.dvd_iff_mod_eq_zero]
  refine ⟨(((c : ZMod 37) - a) * (h : ZMod 37)⁻¹).val, ZMod.val_lt _, ?_⟩
  have key : ((a + (((c : ZMod 37) - a) * (h : ZMod 37)⁻¹).val * h : ℕ) : ZMod 37) = c := by
    push_cast
    rw [ZMod.natCast_zmod_val, mul_assoc, inv_mul_cancel₀ hh', mul_one, add_sub_cancel]
  rw [← ZMod.val_natCast, key, ZMod.val_natCast, Nat.mod_eq_of_lt hc]

/-- With a set bit in the map in force, the call after `k` calls returns the remapping of the
unmapped channel `(last + (k + 1) hop) mod 37`. -/
theorem hopChannel_index {chm : Fin 5 → BitVec 8} (hpos : 0 < usedCount chm) :
    ∀ (k : ℕ) {s : ConnectionData}, ConnInv chm s → ∃ c, s.hopChannel k = some c ∧
      (c.index : ℕ) = remapped (expandedChannels chm)
        ((s.lastUnmappedChannel.toNat + (k + 1) * s.hopIncrement.toNat) % 37)
  | 0, s, h => by
    obtain ⟨c, s', hc, -, -, -, hidx⟩ := nextChannel_inv h hpos
    exact ⟨c, by simp [ConnectionData.hopChannel, hc], by rw [hidx, zero_add, one_mul]; rfl⟩
  | k + 1, s, h => by
    obtain ⟨c, s', hc, h', hlast, hhop, -⟩ := nextChannel_inv h hpos
    obtain ⟨c', hc', hidx⟩ := hopChannel_index hpos k h'
    refine ⟨c', by simp [ConnectionData.hopChannel, hc, hc'], ?_⟩
    rw [hidx, hlast, hhop, ConnectionData.nextUnmapped, unmappedAfter]
    congr 1
    have hmul : (k + 1 + 1) * s.hopIncrement.toNat =
        (k + 1) * s.hopIncrement.toNat + s.hopIncrement.toNat := by ring
    rw [hmul]
    simp only [numberDataChannels, numberChannels]
    omega

/-- Two channels with the same index are equal. -/
theorem RadioChannel.eq_of_index {c c' : RadioChannel} (h : (c.index : ℕ) = c'.index) : c = c' := by
  cases c; cases c'; simp only [RadioChannel.mk.injEq]; exact Fin.ext h

/-- For every connection request, every hop increment in `[5, 16]` and every state reached through
calls that return, while the map in force has a set bit, the channels of consecutive
`next_channel` calls repeat with period `37`, and any `37` consecutive calls return every data
channel whose bit is set in the map. -/
theorem connect_hops_periodic_cover (lldata : LLData) (ops : List ConnOp)
    (outs : List RadioChannel) (s : ConnectionData) (hs : connect lldata ops = some (outs, s))
    (hmap : HasSetBit (mapInForce lldata.chm ops))
    (hhop : 5 ≤ (lldata.hopAndSca &&& 0b11111).toNat ∧ (lldata.hopAndSca &&& 0b11111).toNat ≤ 16) :
    (∀ k, s.hopChannel (k + 37) = s.hopChannel k) ∧
    ∀ j c, c < numberDataChannels → chmBit (mapInForce lldata.chm ops) c = true →
      ∃ k ch, j ≤ k ∧ k < j + 37 ∧ s.hopChannel k = some ch ∧ (ch.index : ℕ) = c := by
  obtain ⟨s₀, hn, h₀, -, hhop₀⟩ := new_inv lldata
  simp only [connect, hn, Option.some_bind] at hs
  obtain ⟨h, hhop'⟩ := exec_inv_of_some ops h₀ hs
  have hpos := usedCount_pos hmap
  generalize mapInForce lldata.chm ops = chm at h hmap hpos
  generalize ha : s.lastUnmappedChannel.toNat = a
  have hh : s.hopIncrement.toNat = (lldata.hopAndSca &&& 0b11111).toNat := by rw [hhop', hhop₀]
  refine ⟨fun k => ?_, fun j c hc hb => ?_⟩
  · -- Period: `37` more hops add a multiple of `37`.
    obtain ⟨c, hc, hidx⟩ := hopChannel_index hpos (k + 37) h
    obtain ⟨c', hc', hidx'⟩ := hopChannel_index hpos k h
    rw [hc, hc', RadioChannel.eq_of_index (hidx.trans (hidx'.trans ?_).symm)]
    congr 1
    have hmul : (k + 37 + 1) * s.hopIncrement.toNat =
        (k + 1) * s.hopIncrement.toNat + 37 * s.hopIncrement.toNat := by ring
    rw [hmul]
    omega
  · -- Coverage: some hop in the window lands on `c`, which is used and returned as itself.
    obtain ⟨t, ht, hit⟩ := exists_hop_hits (a + (j + 1) * s.hopIncrement.toNat) hc
      (show s.hopIncrement.toNat % 37 ≠ 0 by rw [hh]; omega)
    obtain ⟨ch, hch, hidx⟩ := hopChannel_index hpos (j + t) h
    refine ⟨j + t, ch, Nat.le_add_right _ _, by omega, hch, ?_⟩
    have hmul : (j + t + 1) * s.hopIncrement.toNat =
        (j + 1) * s.hopIncrement.toNat + t * s.hopIncrement.toNat := by ring
    rw [hidx, ha, hmul, ← add_assoc, hit, remapped,
      isUsed_expandedChannels chm (hc.trans (by decide)), hb, if_pos rfl]

/-- The spec's third example, map `{0, 4, 8, 12}` and hop `16`, from the state `new` builds. -/
theorem connect_hops_periodic_cover_map4 :
    (∀ k, ConnectionData.hopChannel ⟨0, expandedChannels ![0x11, 0x11, 0, 0, 0], 0, 16 &&& 0b11111,
        BitVec.ofNat 8 (usedCount ![0x11, 0x11, 0, 0, 0])⟩ (k + 37) =
      ConnectionData.hopChannel ⟨0, expandedChannels ![0x11, 0x11, 0, 0, 0], 0, 16 &&& 0b11111,
        BitVec.ofNat 8 (usedCount ![0x11, 0x11, 0, 0, 0])⟩ k) ∧
    ∀ j c, c < numberDataChannels → chmBit ![0x11, 0x11, 0, 0, 0] c = true →
      ∃ k ch, j ≤ k ∧ k < j + 37 ∧
        ConnectionData.hopChannel ⟨0, expandedChannels ![0x11, 0x11, 0, 0, 0], 0, 16 &&& 0b11111,
          BitVec.ofNat 8 (usedCount ![0x11, 0x11, 0, 0, 0])⟩ k = some ch ∧ (ch.index : ℕ) = c :=
  connect_hops_periodic_cover ⟨![0x11, 0x11, 0, 0, 0], 16⟩ [] [] _
    (by simp [connect, new_eq, ConnectionData.exec]) (by decide)
    ⟨by decide, by decide⟩

/-- For every connection request whose hop increment, the low five bits of `hop_and_sca`, is `0`,
and every state reached through calls that return, consecutive `next_channel` calls all return
what the first returns: the connection stays on one channel, or panics at every call when the map
in force has no set bit. -/
theorem connect_hop_zero_stays (lldata : LLData) (ops : List ConnOp) (outs : List RadioChannel)
    (s : ConnectionData) (hs : connect lldata ops = some (outs, s))
    (hhop : lldata.hopAndSca &&& 0b11111 = 0) : ∀ k, s.hopChannel k = s.hopChannel 0 := by
  obtain ⟨s₀, hn, h₀, -, hhop₀⟩ := new_inv lldata
  simp only [connect, hn, Option.some_bind] at hs
  obtain ⟨h, hhop'⟩ := exec_inv_of_some ops h₀ hs
  have h0 : s.hopIncrement.toNat = 0 := by rw [hhop', hhop₀, hhop]; rfl
  intro k
  rcases Nat.eq_zero_or_pos (usedCount (mapInForce lldata.chm ops)) with hz | hpos
  · -- No set bit: every call panics.
    cases k <;> simp [ConnectionData.hopChannel, nextChannel_eq_none h hz]
  · -- The unmapped channel stays at the last one, so every call remaps the same channel.
    obtain ⟨c, hc, hidx⟩ := hopChannel_index hpos k h
    obtain ⟨c₀, hc₀, hidx₀⟩ := hopChannel_index hpos 0 h
    rw [hc, hc₀, RadioChannel.eq_of_index (hidx.trans (hidx₀.trans ?_).symm)]
    simp [h0]

/-- `hop_and_sca = 0x20`: a sleep clock accuracy of `1` and a hop increment of `0`, all channels
used. -/
theorem connect_hop_zero_stays_sca :
    ∃ outs s, connect ⟨![0xFF, 0xFF, 0xFF, 0xFF, 0x1F], 0x20⟩ [.nextChannel] = some (outs, s) ∧
      (0x20 : BitVec 8) &&& 0b11111 = 0 ∧ ∀ k, s.hopChannel k = s.hopChannel 0 := by
  obtain ⟨outs, s, hs⟩ : ∃ outs s,
      connect ⟨![0xFF, 0xFF, 0xFF, 0xFF, 0x1F], 0x20⟩ [.nextChannel] = some (outs, s) :=
    ⟨_, _, by simp [connect, new_eq, ConnectionData.exec]; rfl⟩
  exact ⟨outs, s, hs, by decide, connect_hop_zero_stays _ _ outs s hs (by decide)⟩

end NrfBle
