import NrfBle.Rust
import NrfBle.Hil

/-!
# The connection's channel hopping

`ConnectionData` of `chips/nrf5x/src/ble_connection.rs`, translated function by function. The
channel map of a connection request is five bytes; `expand_channel_map` spreads them into one byte
per channel, `0` or `1`, over `NUMBER_CHANNELS = 40` entries, and counts the ones. `next_channel`
adds the hop increment to the last unmapped channel modulo `NUMBER_DATA_CHANNELS = 37`; when that
channel is unused it scans the whole map into a table of the used channels and takes the entry at
the unmapped channel modulo their number.

Every operation panics as the Rust code does, so each returns an `Option`: the `u8` additions,
the remainders, the array reads and writes, and the `unwrap` of `from_channel_index`. The loops
`for i in 0..k` are folds over `List.range k`.
-/

namespace NrfBle

/-- `NUMBER_CHANNELS`. -/
def numberChannels : ℕ := 40

/-- `NUMBER_DATA_CHANNELS`. -/
def numberDataChannels : ℕ := numberChannels - 3

/-- `ChannelMap`: a byte per channel, `1` for a used channel. -/
abbrev ChannelMap := Fin numberChannels → BitVec 8

/-- The fields of `LLData` that the connection reads: the channel map `chm` and `hop_and_sca`, the
hop increment in the low five bits and the sleep clock accuracy in the high three. -/
structure LLData where
  /-- The channel map, five bytes, least significant bit first. -/
  chm : Fin 5 → BitVec 8
  /-- The hop increment and the sleep clock accuracy. -/
  hopAndSca : BitVec 8

/-- `ConnectionData`. -/
structure ConnectionData where
  /-- The unmapped channel of the last connection event. -/
  lastUnmappedChannel : BitVec 8
  /-- The expanded channel map. -/
  channels : ChannelMap
  /-- The connection event counter. -/
  connEventCounter : BitVec 16
  /-- The hop increment. -/
  hopIncrement : BitVec 8
  /-- The number of ones in `channels`. -/
  numberUsedChannels : BitVec 8

/-- One pass `j` of the inner loop of `expand_channel_map` over byte `i`: the low bit of the
shifted byte is counted and stored at channel `i * 8 + j`, and the byte is shifted on. -/
def expandBit (i : ℕ) (acc : ChannelMap × BitVec 8 × BitVec 8) (j : ℕ) :
    Option (ChannelMap × BitVec 8 × BitVec 8) := do
  let bit := acc.2.2 &&& 1
  let numberUsedChannels ← if bit = 1 then checkedAdd acc.2.1 1 else pure acc.2.1
  let channels ← update? acc.1 (i * 8 + j) bit
  pure (channels, numberUsedChannels, acc.2.2 >>> 1)

/-- One pass `i` of the outer loop of `expand_channel_map`: the eight bits of byte `i`. -/
def expandByte (chm : Fin 5 → BitVec 8) (acc : ChannelMap × BitVec 8) (i : ℕ) :
    Option (ChannelMap × BitVec 8) := do
  let byte ← index? chm i
  let r ← (List.range 8).foldlM (expandBit i) (acc.1, acc.2, byte)
  pure (r.1, r.2.1)

/-- `ConnectionData::expand_channel_map`: the map and the number of ones. -/
def expandChannelMap (chm : Fin 5 → BitVec 8) : Option (ChannelMap × BitVec 8) :=
  (List.range 5).foldlM (expandByte chm) (fun _ => 0, 0)

namespace ConnectionData

/-- `ConnectionData::new`. -/
def new (lldata : LLData) : Option ConnectionData := do
  let r ← expandChannelMap lldata.chm
  pure { lastUnmappedChannel := 0, channels := r.1, numberUsedChannels := r.2,
         hopIncrement := lldata.hopAndSca &&& 0b11111, connEventCounter := 0 }

/-- `ConnectionData::update_lldata`: a new map, with the hop state kept. -/
def updateLldata (self : ConnectionData) (lldata : LLData) : Option ConnectionData := do
  let r ← expandChannelMap lldata.chm
  pure { self with channels := r.1, numberUsedChannels := r.2 }

end ConnectionData

/-- One pass `i` of the remapping loop of `next_channel`: a used channel `i` is written to the
table at `idx`, which then moves on. -/
def remapStep (channels : ChannelMap) (acc : ChannelMap × ℕ) (i : ℕ) :
    Option (ChannelMap × ℕ) := do
  let c ← index? channels i
  if c = 1 then
    let table ← update? acc.1 acc.2 (BitVec.ofNat 8 i)
    pure (table, acc.2 + 1)
  else pure acc

/-- The remapping loop `for i in 0..self.channels.len()` of `next_channel`: the table and the
number of entries written. -/
def remapTable (channels : ChannelMap) : Option (ChannelMap × ℕ) :=
  (List.range numberChannels).foldlM (remapStep channels) (fun _ => 0, 0)

namespace ConnectionData

/-- `ConnectionData::next_channel`: the channel of the next connection event, and the state with
the new unmapped channel. -/
def nextChannel (self : ConnectionData) : Option (RadioChannel × ConnectionData) := do
  let sum ← checkedAdd self.lastUnmappedChannel self.hopIncrement
  let unmappedChannel ← checkedRem sum (BitVec.ofNat 8 numberDataChannels)
  let c ← index? self.channels unmappedChannel.toNat
  let self := { self with lastUnmappedChannel := unmappedChannel }
  if c = 1 then
    let channel ← RadioChannel.fromChannelIndex unmappedChannel
    pure (channel, self)
  else
    let remappingIndex ← checkedRem unmappedChannel self.numberUsedChannels
    let r ← remapTable self.channels
    let t ← index? r.1 remappingIndex.toNat
    let channel ← RadioChannel.fromChannelIndex t
    pure (channel, self)

end ConnectionData

/-- A call on a live connection. -/
inductive ConnOp
  | nextChannel
  | updateLldata (lldata : LLData)

namespace ConnectionData

/-- The calls `ops` on `self` in order: the channels `next_channel` returned, and the state after;
`none` when a call panics. -/
def exec (self : ConnectionData) : List ConnOp → Option (List RadioChannel × ConnectionData)
  | [] => some ([], self)
  | .nextChannel :: ops => do
    let r ← self.nextChannel
    let rest ← r.2.exec ops
    pure (r.1 :: rest.1, rest.2)
  | .updateLldata lldata :: ops => do
    let s ← self.updateLldata lldata
    s.exec ops

end ConnectionData

/-- A connection from `ConnectionData::new lldata` through the calls `ops`. -/
def connect (lldata : LLData) (ops : List ConnOp) : Option (List RadioChannel × ConnectionData) :=
  (ConnectionData.new lldata).bind (·.exec ops)

end NrfBle
