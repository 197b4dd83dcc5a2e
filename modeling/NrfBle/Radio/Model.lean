import NrfBle.Rust
import NrfBle.Hil
import Mathlib.Data.Finset.Basic

/-!
# The radio, its peripherals and the hardware's answers

The state of `Radio` of `chips/nrf52/src/radio.rs`, with the registers it drives: the RADIO
peripheral's, the PPI channel enables and TIMER0's. The driver runs in the monad `DriverM`, a
state of type `Machine` that may panic (`none`).

A register mask of `nrf5x::constants` names one bit per event, shortcut or channel. The interrupt
and shortcut masks are modelled as the sets of the bits they name, so that `enable_interrupt`,
`clear_interrupt` and `disable_all_interrupts` are union, difference and the empty set, as writes
to `INTENSET` and `INTENCLR` act on the `INTEN` register; a PPI mask `PPI_CHEN_CHn` is channel `n`.

What the hardware decides comes from outside the driver: the values that `STATE` reads return
(`hwStates`, read from position `stateReads` on), the event flags and the counters, the length
byte the radio writes into `RX_PAYLOAD`, and the clients' answers (`Env`). The driver's writes of
`0` to the `EVENTS_*` registers acknowledge events; they leave no state, since the hardware may set
an event again at any time and every read of an event is the environment's. The tasks that the
driver triggers are logged in `tasks`, each with the number of `STATE` reads before it.

The constants of `nrf5x` that this source does not contain are parameters (`Platform`).
-/

namespace NrfBle

/-- `RadioState`. -/
inductive RadioState
  | TX
  | RX
  | Initialized
  | Uninitialized
  deriving DecidableEq, Repr

/-- The values of the radio's `STATE` register, of which the driver names `RADIO_STATE_DISABLE`,
`RADIO_STATE_RXDISABLE` and `RADIO_STATE_TXDISABLE`. -/
inductive HwState
  | disabled
  | rxRu
  | rxIdle
  | rx
  | rxDisable
  | txRu
  | txIdle
  | tx
  | txDisable
  deriving DecidableEq, Repr

/-- The radio interrupts the driver names, one `INTENSET` bit each (`RADIO_INTENSET_*`). -/
inductive Interrupt
  | ready
  | address
  | «end»
  | disabled
  deriving DecidableEq, Repr

/-- The radio shortcuts the driver programs, one `SHORTS` bit each (`RADIO_SHORTS_*`). -/
inductive Short
  | readyStart
  | endDisable
  | addressBcstart
  deriving DecidableEq, Repr

/-- The radio tasks the driver triggers. -/
inductive Task
  | txen
  | rxen
  | disable
  deriving DecidableEq, Repr

/-- Modelled from the spec: `kernel::ReturnCode`, of which `set_tx_power` returns two. -/
inductive ReturnCode
  | SUCCESS
  | ENOSUPPORT
  deriving DecidableEq, Repr

/-- The constants of `nrf5x` and of the linker that the driver uses and that this source does not
contain: the addresses of `TX_PAYLOAD` and `RX_PAYLOAD`, `RADIO_PAYLOAD_LENGTH`, and `TxPower`
as the register values of its variants, with `TxPower::try_from`. -/
structure Platform where
  /-- `&TX_PAYLOAD as *const u8 as u32`. -/
  txPayload : BitVec 32
  /-- `&RX_PAYLOAD as *const u8 as u32`. -/
  rxPayload : BitVec 32
  /-- `RADIO_PAYLOAD_LENGTH`, the length of both payload buffers. -/
  radioPayloadLength : ℕ
  /-- `TxPower::ZerodBm as u32`. -/
  zerodBm : BitVec 32
  /-- `TxPower::try_from(tx_power)`, as the register value of the power. -/
  txPowerTryFrom : BitVec 8 → Option (BitVec 32)

/-- The fields of the `Radio` struct; a client is a registered reference, of which only whether it
is set matters to the driver. -/
structure RadioFields where
  txPower : BitVec 32
  rxClient : Bool
  txClient : Bool
  advertisementClient : Bool
  state : RadioState
  channel : Option RadioChannel
  transition : PhyTransition
  debugBit : Bool

/-- The RADIO registers that the driver writes and that the modelled functions read or set. -/
structure Regs where
  power : BitVec 32
  txpower : BitVec 32
  tifs : BitVec 32
  crcinit : BitVec 32
  prefix0 : BitVec 32
  base0 : BitVec 32
  frequency : BitVec 32
  datawhiteiv : BitVec 32
  shorts : Finset Short
  /-- `INTEN`, set through `INTENSET` and cleared through `INTENCLR`; a read of `INTENCLR`
  returns it. -/
  inten : Finset Interrupt
  packetptr : BitVec 32
  bcc : BitVec 32

/-- The TIMER0 registers that the driver writes. -/
structure Timer where
  cc0 : BitVec 32
  prescaler : BitVec 32
  bitmode : BitVec 32
  running : Bool

/-- The answers of the hardware and the clients that the driver has not read yet, in order. -/
structure Env where
  /-- Reads of `EVENTS_*`, `BCMATCH` and `CRCOK`: whether the flag is set. -/
  events : List Bool
  /-- Reads of TIMER0 `CC[2]`, the captured end of the last packet. -/
  cc2 : List (BitVec 32)
  /-- Reads of `RX_PAYLOAD[1]`, the length byte of the received packet. -/
  lengths : List (BitVec 8)
  /-- The receive client's answers to `receive_start`. -/
  readActions : List ReadAction
  /-- The receive client's answers to `receive_end`. -/
  phyTransitions : List PhyTransition
  /-- The advertisement client's answers to `advertisement_done`. -/
  txImmediates : List TxImmediate

/-- The driver and what it drives. -/
structure Machine where
  radio : RadioFields
  regs : Regs
  /-- The enabled PPI channels. -/
  ppi : Finset ℕ
  timer : Timer
  /-- `TX_PAYLOAD`. -/
  txPayload : List (BitVec 8)
  /-- The values that the hardware's `STATE` register returns, read after read. -/
  hwStates : List HwState
  /-- How many reads of `STATE` the driver has made. -/
  stateReads : ℕ
  env : Env
  /-- The tasks triggered, newest first, each with the number of `STATE` reads before it. -/
  tasks : List (Task × ℕ)

/-- The driver's computations: they change the machine, or panic. -/
abbrev DriverM := StateT Machine Option

/-- `Radio::new()`, with the peripherals' registers zero and the hardware's answers given. -/
def Machine.new (P : Platform) (hwStates : List HwState) (env : Env) : Machine where
  radio := { txPower := P.zerodBm, rxClient := false, txClient := false,
             advertisementClient := false, state := .Uninitialized, channel := none,
             transition := .None, debugBit := false }
  regs := { power := 0, txpower := 0, tifs := 0, crcinit := 0, prefix0 := 0, base0 := 0,
            frequency := 0, datawhiteiv := 0, shorts := ∅, inten := ∅, packetptr := 0, bcc := 0 }
  ppi := ∅
  timer := { cc0 := 0, prescaler := 0, bitmode := 0, running := false }
  txPayload := List.replicate P.radioPayloadLength 0
  hwStates := hwStates
  stateReads := 0
  env := env
  tasks := []

/-- A computation of `Option` in the driver: its value, or its panic. -/
def ofOption {α : Type} (o : Option α) : DriverM α :=
  fun m => o.map (·, m)

/-- A change of the `Radio` fields. -/
def modifyRadio (f : RadioFields → RadioFields) : DriverM Unit :=
  modify fun m => { m with radio := f m.radio }

/-- A write of RADIO registers. -/
def modifyRegs (f : Regs → Regs) : DriverM Unit :=
  modify fun m => { m with regs := f m.regs }

/-- A write of TIMER0 registers. -/
def modifyTimer (f : Timer → Timer) : DriverM Unit :=
  modify fun m => { m with timer := f m.timer }

/-- `ppi::PPI.enable(pins)`: the channels `pins` are enabled. -/
def enablePpi (pins : Finset ℕ) : DriverM Unit :=
  modify fun m => { m with ppi := m.ppi ∪ pins }

/-- `ppi::PPI.disable(pins)`: the channels `pins` are disabled. -/
def disablePpi (pins : Finset ℕ) : DriverM Unit :=
  modify fun m => { m with ppi := m.ppi \ pins }

/-- The write `regs.task_*.set(1)` that triggers task `t`. -/
def trigger (t : Task) : DriverM Unit :=
  modify fun m => { m with tasks := (t, m.stateReads) :: m.tasks }

/-- The write `TX_PAYLOAD[i] = c`, which panics past the end of the buffer. -/
def setTxPayload (i : ℕ) (c : BitVec 8) : DriverM Unit :=
  fun m => if i < m.txPayload.length then some ((), { m with txPayload := m.txPayload.set i c })
    else none

/-- A read `regs.state.get()` of the hardware's `STATE`: the next value of the sequence. -/
def readState : DriverM HwState :=
  fun m => m.hwStates[m.stateReads]?.map fun s => (s, { m with stateReads := m.stateReads + 1 })

/-- The next answer of one of the environment's sequences; a read past its end has no result. -/
def answer {α : Type} (get : Env → List α) (put : List α → Env → Env) : DriverM α :=
  fun m => match get m.env with
    | [] => none
    | a :: rest => some (a, { m with env := put rest m.env })

/-- A read of an event flag, `BCMATCH` or `CRCOK`: whether it is set. -/
def readEvent : DriverM Bool :=
  answer Env.events fun l e => { e with events := l }

/-- `TIMER0.get_cc2()`. -/
def readCc2 : DriverM (BitVec 32) :=
  answer Env.cc2 fun l e => { e with cc2 := l }

/-- The read `RX_PAYLOAD[1]` of the received length byte. -/
def readLength : DriverM (BitVec 8) :=
  answer Env.lengths fun l e => { e with lengths := l }

/-- `client.receive_start(..)`: the receive client's answer. -/
def receiveStart : DriverM ReadAction :=
  answer Env.readActions fun l e => { e with readActions := l }

/-- `client.receive_end(..)`: the receive client's answer. -/
def receiveEnd : DriverM PhyTransition :=
  answer Env.phyTransitions fun l e => { e with phyTransitions := l }

/-- `client.advertisement_done()`: the advertisement client's answer. -/
def advertisementDone : DriverM TxImmediate :=
  answer Env.txImmediates fun l e => { e with txImmediates := l }

/-! ### What each step of the driver does -/

/-- A sequence of two computations returns exactly when the first returns and the second returns
from the machine that the first leaves. -/
theorem bind_apply_eq_some {α β : Type} {x : DriverM α} {f : α → DriverM β} {m m' : Machine}
    {b : β} : (x >>= f) m = some (b, m') ↔ ∃ a m₁, x m = some (a, m₁) ∧ f a m₁ = some (b, m') := by
  change (x >>= f).run m = _ ↔ _
  rw [StateT.run_bind, Option.bind_eq_bind, Option.bind_eq_some]
  exact ⟨fun ⟨⟨a, m₁⟩, h₁, h₂⟩ => ⟨a, m₁, h₁, h₂⟩, fun ⟨a, m₁, h₁, h₂⟩ => ⟨(a, m₁), h₁, h₂⟩⟩

/-- A sequence runs its second part on the machine that its first part leaves. -/
@[simp]
theorem bind_apply {α β : Type} (x : DriverM α) (f : α → DriverM β) (m : Machine) :
    (x >>= f) m = (x m).bind fun p => f p.1 p.2 := rfl

/-- A `return` leaves the machine as it is. -/
@[simp]
theorem pure_apply {α : Type} (a : α) (m : Machine) : (pure a : DriverM α) m = some (a, m) := rfl

/-- Reading the machine returns it and leaves it as it is. -/
@[simp]
theorem get_apply (m : Machine) : (get : DriverM Machine) m = some (m, m) := rfl

/-- A panic. -/
@[simp]
theorem failure_apply {α : Type} (m : Machine) : (failure : DriverM α) m = none := rfl

/-- An `unwrap` returns the value and leaves the machine, or panics. -/
@[simp]
theorem ofOption_apply {α : Type} (o : Option α) (m : Machine) :
    ofOption o m = o.map (·, m) := rfl

/-- A write of the `Radio` fields. -/
@[simp]
theorem modifyRadio_apply (f : RadioFields → RadioFields) (m : Machine) :
    modifyRadio f m = some ((), { m with radio := f m.radio }) := rfl

/-- A write of the RADIO registers. -/
@[simp]
theorem modifyRegs_apply (f : Regs → Regs) (m : Machine) :
    modifyRegs f m = some ((), { m with regs := f m.regs }) := rfl

/-- A write of the TIMER0 registers. -/
@[simp]
theorem modifyTimer_apply (f : Timer → Timer) (m : Machine) :
    modifyTimer f m = some ((), { m with timer := f m.timer }) := rfl

/-- Enabling PPI channels adds them to the enabled set. -/
@[simp]
theorem enablePpi_apply (pins : Finset ℕ) (m : Machine) :
    enablePpi pins m = some ((), { m with ppi := m.ppi ∪ pins }) := rfl

/-- Disabling PPI channels removes them from the enabled set. -/
@[simp]
theorem disablePpi_apply (pins : Finset ℕ) (m : Machine) :
    disablePpi pins m = some ((), { m with ppi := m.ppi \ pins }) := rfl

/-- A trigger is logged with the number of `STATE` reads before it. -/
@[simp]
theorem trigger_apply (t : Task) (m : Machine) :
    trigger t m = some ((), { m with tasks := (t, m.stateReads) :: m.tasks }) := rfl

/-- A read of `STATE` returns the next value of the sequence and moves the cursor past it. -/
theorem readState_eq_some {m m' : Machine} {s : HwState} :
    readState m = some (s, m') ↔
      m.hwStates[m.stateReads]? = some s ∧ m' = { m with stateReads := m.stateReads + 1 } := by
  unfold readState
  cases m.hwStates[m.stateReads]? <;> simp [eq_comm]

/-- A write of `TX_PAYLOAD` returns when the index is within the buffer, and replaces that byte. -/
theorem setTxPayload_eq_some {i : ℕ} {c : BitVec 8} {m m' : Machine} {a : Unit} :
    setTxPayload i c m = some (a, m') ↔
      i < m.txPayload.length ∧ m' = { m with txPayload := m.txPayload.set i c } := by
  unfold setTxPayload
  split <;> simp [*, eq_comm]

/-- An answer of the environment is the head of its sequence, which it drops. -/
theorem answer_eq_some {α : Type} {get : Env → List α} {put : List α → Env → Env} {m m' : Machine}
    {a : α} : answer get put m = some (a, m') ↔
      ∃ rest, get m.env = a :: rest ∧ m' = { m with env := put rest m.env } := by
  unfold answer
  split
  · next h => simp [h]
  · next a' rest h =>
    simp only [h, Option.some.injEq, Prod.mk.injEq, List.cons.injEq]
    constructor
    · rintro ⟨rfl, rfl⟩
      exact ⟨rest, ⟨rfl, rfl⟩, rfl⟩
    · rintro ⟨_, ⟨rfl, rfl⟩, rfl⟩
      exact ⟨rfl, rfl⟩

end NrfBle
