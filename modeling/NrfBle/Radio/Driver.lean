import NrfBle.Radio.Model

/-!
# The radio driver

The functions of `Radio` in `chips/nrf52/src/radio.rs`, with its implementations of
`BleAdvertisementDriver` and `BleConfig`, in the order of the source. A run of the driver is a
sequence of entries (`Op`): a public operation called from the kernel, or the radio interrupt,
each running to its end or to a panic.

The two busy-wait loops read the hardware until it answers: the loop of `wait_until_disabled`
until `STATE` leaves a disabling state, and the loop of `handle_address_event` until `BCMATCH` is
set or `STATE` reads `DISABLED`. Each pass reads `STATE`, so they are given as many passes as the
sequence has values, and a loop never ends for want of passes before the values run out.

The writes of `ble_set_channel_rate`, `set_tx_address`, `set_rx_address`,
`ble_set_packet_config` and of the CRC configuration and polynomial store constants of `nrf5x`
that no modelled function reads, and the GPIO debug pins are outside the radio: both are left out.
-/

namespace NrfBle

/-- `BLE_T_IFS`. -/
def bleTIfs : BitVec 32 := 150

/-- `NRF52_FAST_RAMPUP_TIME_TX`. -/
def nrf52FastRampupTimeTx : BitVec 32 := 40

/-- `NRF52_TX_DELAY`. -/
def nrf52TxDelay : BitVec 32 := 3

/-- `NRF52_TX_END_DELAY`. -/
def nrf52TxEndDelay : BitVec 32 := 3

/-- `NRF52_RX_END_DELAY`. -/
def nrf52RxEndDelay : BitVec 32 := 7

/-- Modelled from the spec: `RADIO_CRCINIT_BLE`, the advertising CRC init `0x555555` (§6.1). -/
def radioCrcinitBle : BitVec 32 := 0x555555

/-- Modelled from the spec: `channel as u32`, which the spec gives as the channel index (§4.2). -/
def RadioChannel.toU32 (channel : RadioChannel) : BitVec 32 :=
  BitVec.ofNat 32 channel.index

/-- `Radio::enable_interrupt`: a write of `INTENSET`. -/
def enableInterrupt (intr : Finset Interrupt) : DriverM Unit :=
  modifyRegs fun r => { r with inten := r.inten ∪ intr }

/-- `Radio::clear_interrupt`: a write of `INTENCLR`. -/
def clearInterrupt (intr : Finset Interrupt) : DriverM Unit :=
  modifyRegs fun r => { r with inten := r.inten \ intr }

/-- `Radio::disable_all_interrupts`: `0xffffffff` to `INTENCLR`. -/
def disableAllInterrupts : DriverM Unit :=
  modifyRegs fun r => { r with inten := ∅ }

/-- `Radio::enable_interrupts`. -/
def enableInterrupts : DriverM Unit :=
  enableInterrupt {.address}

/-- The write `regs.shorts.set(shorts)`. -/
def setShorts (shorts : Finset Short) : DriverM Unit :=
  modifyRegs fun r => { r with shorts := shorts }

/-- The write `self.state.set(state)`. -/
def setState (state : RadioState) : DriverM Unit :=
  modifyRadio fun r => { r with state := state }

/-- The loop `while regs.state.get() == state {}` of `wait_until_disabled`, with `fuel` passes. -/
def spinWhile (state : HwState) : ℕ → DriverM Unit
  | 0 => failure
  | fuel + 1 => do
    if (← readState) = state then spinWhile state fuel else pure ()

/-- `Radio::wait_until_disabled`: it waits only while `STATE` reads a disabling state. -/
def waitUntilDisabled : DriverM Unit := do
  let state ← readState
  if state ≠ .disabled then
    if state = .rxDisable ∨ state = .txDisable then
      spinWhile state (← get).hwStates.length

section

variable (P : Platform)

/-- `Radio::set_dma_ptr_tx`. -/
def setDmaPtrTx : DriverM Unit :=
  modifyRegs fun r => { r with packetptr := P.txPayload }

/-- `Radio::set_dma_ptr_rx`. -/
def setDmaPtrRx : DriverM Unit :=
  modifyRegs fun r => { r with packetptr := P.rxPayload }

/-- `Radio::setup_tx`. -/
def setupTx : DriverM Unit := do
  setDmaPtrTx P
  setState .TX
  setShorts {.endDisable, .readyStart}
  enableInterrupt {.disabled}

/-- `Radio::tx`. -/
def tx : DriverM Unit := do
  waitUntilDisabled
  setupTx P
  trigger .txen

/-- `Radio::setup_rx`. -/
def setupRx : DriverM Unit := do
  setDmaPtrRx P
  disablePpi {20}
  setState .RX
  modifyRegs fun r => { r with bcc := 8 }
  setShorts {.endDisable, .readyStart, .addressBcstart}
  enableInterrupt {.address}

/-- `Radio::rx`. -/
def rx : DriverM Unit := do
  waitUntilDisabled
  disableAllInterrupts
  setupRx P
  trigger .rxen

end

/-- `Radio::radio_on`: the power is reset, then enabled. -/
def radioOn : DriverM Unit := do
  modifyRegs fun r => { r with power := 0 }
  modifyRegs fun r => { r with power := 1 }

/-- `Radio::set_tx_power`, the register write of the power in `tx_power`. -/
def setTxPowerReg : DriverM Unit := do
  let txPower := (← get).radio.txPower
  modifyRegs fun r => { r with txpower := txPower }

/-- The turnaround of `schedule_tx_after_t_ifs` and `schedule_rx_after_t_ifs`: `CC[0]` is set to
the captured end `CC[2]` plus `BLE_T_IFS` less the delays `d₁`, `d₂` and `d₃`, in `u32`, and the
PPI channel `ch` from the compare event to the radio's enable task is enabled. -/
def scheduleAfterTIfs (d₁ d₂ d₃ : BitVec 32) (ch : ℕ) : DriverM Unit := do
  let endTime ← readCc2
  let time ← ofOption do
    let t ← checkedAdd endTime bleTIfs
    let t ← checkedSub t d₁
    let t ← checkedSub t d₂
    checkedSub t d₃
  modifyTimer fun t => { t with cc0 := time }
  enablePpi {ch}

/-- `Radio::schedule_tx_after_t_ifs`: `TXEN` through channel `20`. -/
def scheduleTxAfterTIfs : DriverM Unit :=
  scheduleAfterTIfs nrf52RxEndDelay nrf52FastRampupTimeTx nrf52TxDelay 20

/-- `Radio::schedule_rx_after_t_ifs`: `RXEN` through channel `21`, with `earlier_listen = 2`. -/
def scheduleRxAfterTIfs : DriverM Unit :=
  scheduleAfterTIfs nrf52TxEndDelay nrf52FastRampupTimeTx 2 21

/-- `Radio::disable_radio`. -/
def disableRadio : DriverM Unit := do
  disableAllInterrupts
  setShorts ∅
  trigger .disable
  disablePpi {20, 21, 23, 25, 31}
  setState .Initialized

/-- `self.advertisement_client.get().map_or(TxImmediate::GoToSleep, |client|
client.advertisement_done())`. -/
def askAdvertisementClient : DriverM TxImmediate := do
  if (← get).radio.advertisementClient then advertisementDone else pure .GoToSleep

/-- The frame length `RX_PAYLOAD[1] + 2` given to the receive client, a `u8` sum. -/
def frameLength : DriverM (BitVec 8) := do
  let len ← readLength
  ofOption (checkedAdd len 2)

/-- The loop of `handle_address_event`: each pass reads `STATE`, then `BCMATCH`; it ends with
`true` when `BCMATCH` is set, and with `false` when it is not and `STATE` read `DISABLED`. -/
def addressLoop : ℕ → DriverM Bool
  | 0 => failure
  | fuel + 1 => do
    let state ← readState
    if ← readEvent then pure true
    else if state = .disabled then pure false
    else addressLoop fuel

section

variable (P : Platform)

/-- `Radio::handle_address_event`. -/
def handleAddressEvent : DriverM Bool := do
  clearInterrupt {.disabled, .address}
  if ← addressLoop (← get).hwStates.length then
    if (← get).radio.rxClient then
      let _ ← frameLength
      match ← receiveStart with
      | .ReadFrameAndStayRX => enableInterrupt {.«end»}
      | .ReadFrameAndMoveToTX =>
        modifyRadio fun r => { r with transition := .MoveToTX }
        enableInterrupt {.«end»}
      | .SkipFrame =>
        disableRadio
        waitUntilDisabled
        if (← askAdvertisementClient) = .TX then tx P
      pure true
    else failure
  else
    disableAllInterrupts
    setShorts ∅
    pure false

/-- `Radio::handle_rx_end_event`. -/
def handleRxEndEvent : DriverM Unit := do
  clearInterrupt {.«end»}
  disablePpi {21}
  let _crcOk ← readEvent
  if (← get).radio.rxClient then
    let _ ← frameLength
    match ← receiveEnd with
    | .MoveToTX =>
      setupTx P
      scheduleTxAfterTIfs
    | .MoveToRX =>
      modifyRadio fun r => { r with debugBit := true }
      disableRadio
      waitUntilDisabled
      setupRx P
      rx P
    | .None =>
      disableRadio
      waitUntilDisabled
      match ← askAdvertisementClient with
      | .TX => tx P
      | .RespondAfterTifs => scheduleTxAfterTIfs
      | .GoToSleep => pure ()
  else failure

/-- `Radio::handle_tx_end_event`. -/
def handleTxEndEvent : DriverM Unit := do
  clearInterrupt {.disabled}
  let transition := (← get).radio.transition
  if transition = .MoveToRX then
    setupRx P
    scheduleRxAfterTIfs
  else if transition = .MoveToTX then
    waitUntilDisabled
    if (← askAdvertisementClient) = .TX then tx P
  else if transition ≠ .None then failure

/-- `Radio::handle_interrupt`: the events enabled in `INTEN` and set are handled in the order
`READY`, `ADDRESS`, `DISABLED`, `END`; an `ADDRESS` that keeps the frame masks `DISABLED`. A
`DISABLED` in `RX` only calls the advertisement client's `timer_expired`, which returns nothing to
the driver. -/
def handleInterrupt : DriverM Unit := do
  let enabled := (← get).regs.inten
  if Interrupt.ready ∈ enabled then
    if ← readEvent then clearInterrupt {.ready}
  let enabled ← if Interrupt.address ∈ enabled then do
      if ← readEvent then do
        if ← handleAddressEvent P then pure (enabled \ {.disabled}) else pure enabled
      else pure enabled
    else pure enabled
  if Interrupt.disabled ∈ enabled then
    if ← readEvent then
      let state := (← get).radio.state
      if state = .RX then pure ()
      else if state = .Uninitialized then failure
      else handleTxEndEvent P
  if Interrupt.«end» ∈ enabled then
    if ← readEvent then handleRxEndEvent P

end

/-- `Radio::ble_set_crcinit`. -/
def bleSetCrcinit (crcinit : BitVec 32) : DriverM Unit :=
  modifyRegs fun r => { r with crcinit := crcinit }

/-- `Radio::ble_initialize`: the first call from `Uninitialized` configures the radio for BLE and
wires channels `26` and `27`, `ADDRESS` and `END` to TIMER0's captures; every call starts the
timer. -/
def bleInitialize : DriverM Unit := do
  if (← get).radio.state = .Uninitialized then
    radioOn
    setTxPowerReg
    modifyRegs fun r => { r with tifs := 150 }
    bleSetCrcinit radioCrcinitBle
    setState .Initialized
    enablePpi {26, 27}
  modifyTimer fun t => { t with prescaler := 4, bitmode := 3, running := true }

/-- `Radio::ble_set_access_address`: the high byte into `PREFIX0`'s low byte, the low three bytes
into `BASE0`'s high three. -/
def bleSetAccessAddress (aa : BitVec 32) : DriverM Unit := do
  modifyRegs fun r => { r with prefix0 := (r.prefix0 &&& (0xffffff00 : BitVec 32)) ||| (aa >>> 24) }
  modifyRegs fun r => { r with base0 := aa <<< 8 }

/-- `Radio::ble_set_data_whitening`. -/
def bleSetDataWhitening (channel : RadioChannel) : DriverM Unit :=
  modifyRegs fun r => { r with datawhiteiv := channel.getChannelIndex }

/-- `Radio::ble_set_channel`: it asserts that `STATE` reads `DISABLED`. -/
def bleSetChannel (channel : RadioChannel) : DriverM Unit := do
  if (← readState) ≠ .disabled then failure
  modifyRadio fun r => { r with channel := some channel }
  modifyRegs fun r => { r with frequency := channel.toU32 }
  bleSetDataWhitening channel

/-- The copy loop of `replace_radio_buffer`: `bytes` into `TX_PAYLOAD` from index `i` on. -/
def writeTxPayload : ℕ → List (BitVec 8) → DriverM Unit
  | _, [] => pure ()
  | i, c :: cs => do
    setTxPayload i c
    writeTxPayload (i + 1) cs

/-- `Radio::replace_radio_buffer`: `buf[0..len]` into `TX_PAYLOAD`; it returns `buf`. -/
def replaceRadioBuffer (buf : List (BitVec 8)) (len : ℕ) : DriverM (List (BitVec 8)) := do
  if buf.length < len then failure
  writeTxPayload 0 (buf.take len)
  pure buf

section

variable (P : Platform)

namespace BleAdvertisementDriver

/-- `BleAdvertisementDriver::set_advertisement_data`. -/
def setAdvertisementData (buf : List (BitVec 8)) (len : ℕ) : DriverM (List (BitVec 8)) :=
  replaceRadioBuffer buf len

/-- `BleAdvertisementDriver::transmit_advertisement`. -/
def transmitAdvertisement (buf : List (BitVec 8)) (len : ℕ) : DriverM (List (BitVec 8)) := do
  bleInitialize
  let res ← setAdvertisementData buf len
  tx P
  pure res

/-- `BleAdvertisementDriver::receive_advertisement`. -/
def receiveAdvertisement : DriverM Unit := do
  bleInitialize
  rx P
  enableInterrupts

/-- `BleAdvertisementDriver::set_receive_client`. -/
def setReceiveClient : DriverM Unit :=
  modifyRadio fun r => { r with rxClient := true }

/-- `BleAdvertisementDriver::set_transmit_client`. -/
def setTransmitClient : DriverM Unit :=
  modifyRadio fun r => { r with txClient := true }

/-- `BleAdvertisementDriver::set_advertisement_client`. -/
def setAdvertisementClient : DriverM Unit :=
  modifyRadio fun r => { r with advertisementClient := true }

end BleAdvertisementDriver

namespace BleConfig

/-- `BleConfig::set_tx_power`: a power that `TxPower::try_from` rejects is unsupported. -/
def setTxPower (txPower : BitVec 8) : DriverM ReturnCode :=
  match P.txPowerTryFrom txPower with
  | none => pure .ENOSUPPORT
  | some res => do
    modifyRadio fun r => { r with txPower := res }
    pure .SUCCESS

/-- `BleConfig::set_channel`. -/
def setChannel (channel : RadioChannel) (address crcinit : BitVec 32) : DriverM Unit := do
  bleSetChannel channel
  bleSetAccessAddress address
  bleSetCrcinit crcinit

/-- `BleConfig::set_transition_state`. -/
def setTransitionState (state : PhyTransition) : DriverM Unit :=
  modifyRadio fun r => { r with transition := state }

/-- `BleConfig::set_access_address`. -/
def setAccessAddress (aa : BitVec 32) : DriverM Unit :=
  bleSetAccessAddress aa

end BleConfig

end

/-- An entry into the driver: a public operation called from the kernel, or the radio
interrupt. -/
inductive Op
  | transmitAdvertisement (buf : List (BitVec 8)) (len : ℕ)
  | setAdvertisementData (buf : List (BitVec 8)) (len : ℕ)
  | receiveAdvertisement
  | setReceiveClient
  | setTransmitClient
  | setAdvertisementClient
  | setTxPower (txPower : BitVec 8)
  | setChannel (channel : RadioChannel) (address crcinit : BitVec 32)
  | setTransitionState (state : PhyTransition)
  | setAccessAddress (aa : BitVec 32)
  | tx
  | rx
  | bleInitialize
  | handleInterrupt

section

variable (P : Platform)

/-- What an entry runs; the values that operations return to their callers are dropped. -/
def Op.act : Op → DriverM Unit
  | .transmitAdvertisement buf len => do
    let _ ← BleAdvertisementDriver.transmitAdvertisement P buf len
  | .setAdvertisementData buf len => do
    let _ ← BleAdvertisementDriver.setAdvertisementData buf len
  | .receiveAdvertisement => BleAdvertisementDriver.receiveAdvertisement P
  | .setReceiveClient => BleAdvertisementDriver.setReceiveClient
  | .setTransmitClient => BleAdvertisementDriver.setTransmitClient
  | .setAdvertisementClient => BleAdvertisementDriver.setAdvertisementClient
  | .setTxPower txPower => do
    let _ ← BleConfig.setTxPower P txPower
  | .setChannel channel address crcinit => BleConfig.setChannel channel address crcinit
  | .setTransitionState state => BleConfig.setTransitionState state
  | .setAccessAddress aa => BleConfig.setAccessAddress aa
  | .tx => NrfBle.tx P
  | .rx => NrfBle.rx P
  | .bleInitialize => NrfBle.bleInitialize
  | .handleInterrupt => NrfBle.handleInterrupt P

/-- One entry into the driver: the machine after it, or `none` when it panics. -/
def step (m : Machine) (op : Op) : Option Machine :=
  (op.act P m).map Prod.snd

/-- A run of the driver: the entries `ops` in order. -/
def run (m : Machine) : List Op → Option Machine
  | [] => some m
  | op :: ops => (step P m op).bind (run · ops)

end

end NrfBle
