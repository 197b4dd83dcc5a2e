import NrfBle.Radio.Driver

/-!
# Relations that every entry of the driver moves along

A property of whole runs of the driver (a channel that stays enabled, a task triggered only after
some read) is stated as a relation `R` between the machine before an entry and the machine after
it, reflexive and transitive: `Moves R act` says that whatever `act` returns, it leaves a machine
related to the one it started from.

The driver is built from a few primitive steps (the writes of the `Radio` fields, of the RADIO and
TIMER0 registers and of `TX_PAYLOAD`, the PPI enables and disables, the reads of the hardware and
of the clients, the trigger of a task) by `bind`, `if` and `match`. `Frame R` asks that every
primitive step move along `R`, except for the triggers of `TXEN` and `RXEN` in `tx` and `rx`: those
two are what a property of the triggers has to check for itself, so `Frame.act` takes them as
hypotheses, and `Frame.tx` and `Frame.rx` give them for a relation that every trigger moves
along. The PPI channels that the driver disables are all among `20`, `21`, `23`, `25` and `31`;
`Frame` asks only for those. The module `Walk` then walks the handlers and the entries: every
entry moves along `R` (`Frame.act`), and every run (`Frame.run`).
-/

namespace NrfBle

/-- `act` moves the machine along `R`: when it returns, the machine after it is related to the
machine before it. -/
def Moves {α : Type} (R : Machine → Machine → Prop) (act : DriverM α) : Prop :=
  ∀ m a m', act m = some (a, m') → R m m'

/-- A panic moves along every relation. -/
theorem moves_failure {α : Type} {R : Machine → Machine → Prop} :
    Moves R (failure : DriverM α) :=
  fun _ _ _ h => nomatch h

/-- An `if` moves along `R` when both of its branches do. -/
theorem Moves.ite {α : Type} {R : Machine → Machine → Prop} {c : Prop} [Decidable c]
    {t e : DriverM α} (ht : Moves R t) (he : Moves R e) : Moves R (if c then t else e) := by
  split <;> assumption

/-! ### Sequences and runs

These need of `R` only that it be reflexive (`hrefl`) or transitive (`htrans`), so that they serve
every relation between machines, and `Frame` as well as the invariants of later modules. -/

section

variable {α β : Type} {R : Machine → Machine → Prop}

/-- A `return` leaves the machine as it is. -/
theorem Moves.pure (hrefl : ∀ m, R m m) (a : α) : Moves R (pure a : DriverM α) := by
  rintro m b m' ⟨⟩
  exact hrefl m

/-- Reading the machine leaves it as it is. -/
theorem Moves.get (hrefl : ∀ m, R m m) : Moves R (get : DriverM Machine) := by
  rintro m b m' ⟨⟩
  exact hrefl m

/-- An `unwrap` that does not panic leaves the machine as it is. -/
theorem Moves.ofOption (hrefl : ∀ m, R m m) (o : Option α) : Moves R (ofOption o) := by
  intro m b m' h
  obtain ⟨a, -, ⟨⟩⟩ := Option.map_eq_some'.mp h
  exact hrefl m

/-- A sequence moves along `R` when each of its parts does. -/
theorem Moves.bind {x : DriverM α} {f : α → DriverM β} (hx : Moves R x)
    (hf : ∀ a, Moves R (f a)) (htrans : ∀ {m₁ m₂ m₃}, R m₁ m₂ → R m₂ m₃ → R m₁ m₃) :
    Moves R (x >>= f) := by
  intro m b m' h
  obtain ⟨a, m₁, h₁, h₂⟩ := bind_apply_eq_some.mp h
  exact htrans (hx _ _ _ h₁) (hf a _ _ _ h₂)

/-- A run moves along `R` when every entry does. -/
theorem Moves.run (P : Platform) (hact : ∀ op : Op, Moves R (op.act P)) (hrefl : ∀ m, R m m)
    (htrans : ∀ {m₁ m₂ m₃}, R m₁ m₂ → R m₂ m₃ → R m₁ m₃) :
    ∀ {m m' : Machine} (ops : List Op), run P m ops = some m' → R m m'
  | m, _, [], h => by cases h; exact hrefl m
  | m, m', op :: ops, h => by
    obtain ⟨m₁, h₁, h₂⟩ := Option.bind_eq_some.mp h
    obtain ⟨⟨a, m₁⟩, hact₁, rfl⟩ := Option.map_eq_some'.mp h₁
    exact htrans (hact op m a m₁ hact₁) (Moves.run P hact hrefl htrans ops h₂)

end

/-! ### The steps that only read, or fill the payload

`wait_until_disabled`, the loop of `handle_address_event`, the copy into `TX_PAYLOAD`, the frame
length and the question to the advertisement client are made of reads of `STATE`, of the event
flags and of the length byte, of the advertisement client's answers and of writes of
`TX_PAYLOAD`. Every preorder along which those move (`ReadFrame`) is moved along by all of them. `Frame` extends `ReadFrame`, and the invariants of later modules are `ReadFrame`s too. -/

/-- A preorder along which the reads of `STATE`, of the event flags and of the length byte, the
advertisement client's answers and the writes of `TX_PAYLOAD` move. -/
structure ReadFrame (R : Machine → Machine → Prop) : Prop where
  /-- Every machine is related to itself. -/
  refl : ∀ m, R m m
  /-- Steps along `R` compose. -/
  trans : ∀ {m₁ m₂ m₃}, R m₁ m₂ → R m₂ m₃ → R m₁ m₃
  /-- A write of `TX_PAYLOAD`. -/
  setTxPayload : ∀ i c, Moves R (setTxPayload i c)
  /-- A read of `STATE`. -/
  readState : Moves R readState
  /-- A read of an event flag. -/
  readEvent : Moves R readEvent
  /-- A read of the length byte. -/
  readLength : Moves R readLength
  /-- An answer of the advertisement client. -/
  advertisementDone : Moves R advertisementDone

section

variable {R : Machine → Machine → Prop} (hR : ReadFrame R)
include hR

/-- A `return` moves along a `ReadFrame`. -/
theorem ReadFrame.pure {α : Type} (a : α) : Moves R (pure a : DriverM α) :=
  Moves.pure hR.refl a

/-- Reading the machine moves along a `ReadFrame`. -/
theorem ReadFrame.get : Moves R (get : DriverM Machine) := Moves.get hR.refl

/-- An `unwrap` moves along a `ReadFrame`. -/
theorem ReadFrame.ofOption {α : Type} (o : Option α) : Moves R (ofOption o) :=
  Moves.ofOption hR.refl o

/-- A sequence moves along a `ReadFrame` when each of its parts does. -/
theorem ReadFrame.bind {α β : Type} {x : DriverM α} {f : α → DriverM β} (hx : Moves R x)
    (hf : ∀ a, Moves R (f a)) : Moves R (x >>= f) :=
  Moves.bind hx hf hR.trans

/-- Each busy-wait of `wait_until_disabled`, by induction on its fuel. -/
theorem ReadFrame.spinWhile (state : HwState) : ∀ fuel, Moves R (spinWhile state fuel)
  | 0 => moves_failure
  | fuel + 1 => by
    rw [NrfBle.spinWhile]
    exact hR.bind hR.readState fun _ => Moves.ite (ReadFrame.spinWhile state fuel) (hR.pure _)

/-- `wait_until_disabled`: a read of `STATE` and a busy-wait. -/
theorem ReadFrame.waitUntilDisabled : Moves R waitUntilDisabled := by
  unfold NrfBle.waitUntilDisabled
  exact hR.bind hR.readState fun _ => Moves.ite
    (Moves.ite (hR.bind hR.get fun _ => hR.spinWhile _ _) (hR.pure _)) (hR.pure _)

/-- The wait for `BCMATCH` in `handle_address_event`, by induction on its fuel. -/
theorem ReadFrame.addressLoop : ∀ fuel, Moves R (addressLoop fuel)
  | 0 => moves_failure
  | fuel + 1 => by
    rw [NrfBle.addressLoop]
    exact hR.bind hR.readState fun _ => hR.bind hR.readEvent fun _ =>
      Moves.ite (hR.pure _) (Moves.ite (hR.pure _) (ReadFrame.addressLoop fuel))

/-- The copy of a buffer into `TX_PAYLOAD`, byte by byte. -/
theorem ReadFrame.writeTxPayload : ∀ i bytes, Moves R (writeTxPayload i bytes)
  | _, [] => hR.pure _
  | i, c :: cs => by
    rw [NrfBle.writeTxPayload]
    exact hR.bind (hR.setTxPayload i c) fun _ => ReadFrame.writeTxPayload (i + 1) cs

/-- `replace_radio_buffer`: its length check and its copy. -/
theorem ReadFrame.replaceRadioBuffer (buf : List (BitVec 8)) (len : ℕ) :
    Moves R (replaceRadioBuffer buf len) := by
  unfold NrfBle.replaceRadioBuffer
  dsimp only
  exact Moves.ite
    (hR.bind moves_failure fun _ => hR.bind (hR.writeTxPayload _ _) fun _ => hR.pure _)
    (hR.bind (hR.pure _) fun _ => hR.bind (hR.writeTxPayload _ _) fun _ => hR.pure _)

/-- The question to the advertisement client, asked only when one is set. -/
theorem ReadFrame.askAdvertisementClient : Moves R askAdvertisementClient :=
  hR.bind hR.get fun _ => Moves.ite hR.advertisementDone (hR.pure _)

/-- The read of the length byte, plus the two header bytes. -/
theorem ReadFrame.frameLength : Moves R frameLength :=
  hR.bind hR.readLength fun _ => hR.ofOption _

end

/-- What a relation between machines needs for every entry of the driver to move along it: it is
a `ReadFrame`, and every other primitive step but the triggers of `TXEN` and `RXEN` moves along
it. -/
structure Frame (R : Machine → Machine → Prop) extends ReadFrame R : Prop where
  /-- A write of the `Radio` fields. -/
  modifyRadio : ∀ f, Moves R (modifyRadio f)
  /-- A write of the RADIO registers. -/
  modifyRegs : ∀ f, Moves R (modifyRegs f)
  /-- A write of the TIMER0 registers. -/
  modifyTimer : ∀ f, Moves R (modifyTimer f)
  /-- Enabling PPI channels. -/
  enablePpi : ∀ pins, Moves R (enablePpi pins)
  /-- Disabling channels among those the driver disables. -/
  disablePpi : ∀ pins ⊆ ({20, 21, 23, 25, 31} : Finset ℕ), Moves R (disablePpi pins)
  /-- Every answer of the hardware and the clients. -/
  answer : ∀ {α : Type} (get : Env → List α) put, Moves R (answer get put)
  /-- The trigger of `DISABLE`, in `disable_radio`. -/
  disable : Moves R (trigger .disable)
  readEvent := answer _ _
  readLength := answer _ _
  advertisementDone := answer _ _

section

variable {R : Machine → Machine → Prop} (hR : Frame R) (P : Platform)
include hR

/-- `setup_tx`: writes of the registers and of the state. -/
theorem Frame.setupTx : Moves R (setupTx P) :=
  hR.bind (hR.modifyRegs _) fun _ => hR.bind (hR.modifyRadio _) fun _ =>
    hR.bind (hR.modifyRegs _) fun _ => hR.modifyRegs _

/-- `setup_rx`: writes of the registers and of the state, and the disable of channel `20`. -/
theorem Frame.setupRx : Moves R (setupRx P) :=
  hR.bind (hR.modifyRegs _) fun _ => hR.bind (hR.disablePpi _ (by decide)) fun _ =>
    hR.bind (hR.modifyRadio _) fun _ => hR.bind (hR.modifyRegs _) fun _ =>
      hR.bind (hR.modifyRegs _) fun _ => hR.modifyRegs _

/-- `disable_radio`: the clears, the trigger of `DISABLE`, the disables of channels `20` and
`21`, and the state. -/
theorem Frame.disableRadio : Moves R disableRadio :=
  hR.bind (hR.modifyRegs _) fun _ => hR.bind (hR.modifyRegs _) fun _ =>
    hR.bind hR.disable fun _ => hR.bind (hR.disablePpi _ (by decide)) fun _ => hR.modifyRadio _

/-- A turnaround: the capture read, the timer and the enable of its channel. -/
theorem Frame.scheduleAfterTIfs (d₁ d₂ d₃ : BitVec 32) (ch : ℕ) :
    Moves R (scheduleAfterTIfs d₁ d₂ d₃ ch) :=
  hR.bind (hR.answer _ _) fun _ => hR.bind (hR.ofOption _) fun _ =>
    hR.bind (hR.modifyTimer _) fun _ => hR.enablePpi _

/-- `tx` moves along a relation that every trigger moves along. -/
theorem Frame.tx (htrigger : ∀ t, Moves R (trigger t)) : Moves R (tx P) :=
  hR.bind hR.waitUntilDisabled fun _ => hR.bind (hR.setupTx P) fun _ => htrigger _

/-- `rx` moves along a relation that every trigger moves along. -/
theorem Frame.rx (htrigger : ∀ t, Moves R (trigger t)) : Moves R (rx P) :=
  hR.bind hR.waitUntilDisabled fun _ => hR.bind (hR.modifyRegs _) fun _ =>
    hR.bind (hR.setupRx P) fun _ => htrigger _

end

end NrfBle
