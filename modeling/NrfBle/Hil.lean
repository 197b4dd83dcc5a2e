import Mathlib.Data.BitVec

/-!
# The BLE advertising HIL

The types of `nrf5x::ble_advertising_hil` that the radio driver and the connection code share.
That module is not part of this source; its types are modelled from the spec, which names their
values (§3, §4.2.2 and §6.2): a radio channel is a BLE channel index `0`–`39`, of which `37`, `38`
and `39` are the advertising channels, and the clients' answers are the three enumerations below.
-/

namespace NrfBle

/-- Modelled from the spec: `RadioChannel`, a BLE channel given by its index `0`–`39`. -/
structure RadioChannel where
  /-- The channel index; `37`, `38` and `39` are the advertising channels. -/
  index : Fin 40
  deriving DecidableEq, Repr

/-- Modelled from the spec: `RadioChannel::from_channel_index`, the channel of an index, if any. -/
def RadioChannel.fromChannelIndex (idx : BitVec 8) : Option RadioChannel :=
  if h : idx.toNat < 40 then some ⟨⟨idx.toNat, h⟩⟩ else none

/-- Modelled from the spec: `RadioChannel::get_channel_index`. -/
def RadioChannel.getChannelIndex (channel : RadioChannel) : BitVec 32 :=
  BitVec.ofNat 32 channel.index

/-- Modelled from the spec: `PhyTransition`, what the radio does at the next packet boundary. -/
inductive PhyTransition
  | None
  | MoveToRX
  | MoveToTX
  deriving DecidableEq, Repr

/-- Modelled from the spec: `ReadAction`, the receive client's answer to `receive_start`. -/
inductive ReadAction
  | ReadFrameAndStayRX
  | ReadFrameAndMoveToTX
  | SkipFrame
  deriving DecidableEq, Repr

/-- Modelled from the spec: `TxImmediate`, the advertisement client's answer to
`advertisement_done`. -/
inductive TxImmediate
  | TX
  | RespondAfterTifs
  | GoToSleep
  deriving DecidableEq, Repr

/-- `from_channel_index` of an index below `40` is its channel. -/
theorem RadioChannel.fromChannelIndex_of_lt {idx : BitVec 8} (h : idx.toNat < 40) :
    RadioChannel.fromChannelIndex idx = some ⟨⟨idx.toNat, h⟩⟩ := by
  simp [RadioChannel.fromChannelIndex, h]

/-- `from_channel_index` accepts exactly the indices below `40`, and keeps the index. -/
@[simp]
theorem RadioChannel.fromChannelIndex_eq_some {idx : BitVec 8} {c : RadioChannel} :
    RadioChannel.fromChannelIndex idx = some c ↔ idx.toNat < 40 ∧ (c.index : ℕ) = idx.toNat := by
  unfold RadioChannel.fromChannelIndex
  split_ifs with h
  · simp only [Option.some.injEq, h, true_and]
    constructor
    · rintro rfl; rfl
    · intro hc; cases c; simp only [RadioChannel.mk.injEq]; exact Fin.ext hc.symm
  · simp [h]

end NrfBle
