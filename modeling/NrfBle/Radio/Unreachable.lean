import NrfBle.Radio.Initialize

/-!
# What the guards of two fatal branches read

`handle_interrupt` panics (`"Oh no!"`) when its snapshot of `INTEN` has `DISABLED`, the event is
set and the radio is `Uninitialized`; `handle_rx_end_event`, called when the snapshot has `END`,
panics (`"No rx_client?"`) when no receive client is set. Two facts about the enabled interrupts
hold from `Radio::new()` over every run (`fatal_branches_unreachable`):

* while the radio is `Uninitialized`, no interrupt is enabled. Every function that enables an
  interrupt sets the state first (`setup_tx` to `TX`, `setup_rx` to `RX`), `END` is enabled by
  `handle_address_event`, which runs only from an enabled `ADDRESS`, and no function sets the state
  back to `Uninitialized`;
* `END` is enabled only with a receive client: `handle_address_event` enables it after finding the
  client, and no function unsets a client.

So at the entry of `handle_interrupt` in a state the driver reaches, a snapshot with `DISABLED`
comes with an initialized radio, and one with `END` with a receive client. The theorems here are
about those states; the checks themselves run later in the entry, after steps that keep the radio
initialized (`KeepsInit`) and the client set (`ClientForEnd`).

The first fact is not kept by `handle_interrupt` from every machine (from an `Uninitialized`
radio with `ADDRESS` enabled, `handle_address_event` would enable `END`), so it is proved of the
entries from the machines where it holds. The second is a `Walk`.
-/

namespace NrfBle

/-! ### No interrupt while `Uninitialized` -/

/-- No interrupt is enabled while the radio is `Uninitialized`. -/
def QuietUninitialized (m : Machine) : Prop :=
  m.radio.state = .Uninitialized → m.regs.inten = ∅

/-- `handle_interrupt` with no interrupt enabled reads its snapshot and returns. -/
theorem handleInterrupt_of_inten_empty (P : Platform) {m : Machine} (h : m.regs.inten = ∅) :
    handleInterrupt P m = some ((), m) := by
  simp [NrfBle.handleInterrupt, h]

/-- `setup_tx` enters `TX`. -/
theorem setupTx_state (P : Platform) {m m' : Machine} {a : Unit}
    (h : setupTx P m = some (a, m')) : m'.radio.state = .TX := by
  cases h
  rfl

/-- `tx` leaves the radio in `TX`. -/
theorem tx_state (P : Platform) {m m' : Machine} {a : Unit} (h : tx P m = some (a, m')) :
    m'.radio.state = .TX := by
  obtain ⟨_, _, -, h₁⟩ := bind_apply_eq_some.mp h
  obtain ⟨_, _, h₂, h₃⟩ := bind_apply_eq_some.mp h₁
  rw [← setupTx_state P h₂]
  cases h₃
  rfl

/-- `rx` leaves the radio in `RX`. -/
theorem rx_state (P : Platform) {m m' : Machine} {a : Unit} (h : rx P m = some (a, m')) :
    m'.radio.state = .RX := by
  obtain ⟨_, _, -, h₁⟩ := bind_apply_eq_some.mp h
  obtain ⟨_, _, ⟨⟩, h₂⟩ := bind_apply_eq_some.mp h₁
  obtain ⟨_, _, ⟨⟩, ⟨⟩⟩ := bind_apply_eq_some.mp h₂
  rfl

/-- An entry that leaves the radio initialized keeps `QuietUninitialized`. -/
theorem quietUninitialized_of_initialized {α : Type} {act : DriverM α}
    (h : ∀ m a m', act m = some (a, m') → m'.radio.state ≠ .Uninitialized) :
    Moves (fun m m' => QuietUninitialized m → QuietUninitialized m') act :=
  fun m a m' hact _ hu => absurd hu (h m a m' hact)

/-- A sequence leaves the radio initialized when its first part does and the rest keeps the
initialization. -/
theorem initialized_bind {α β : Type} {x : DriverM α} {f : α → DriverM β}
    (hx : ∀ m a m', x m = some (a, m') → m'.radio.state ≠ .Uninitialized)
    (hf : ∀ a, Moves KeepsInit (f a)) :
    ∀ m b m', (x >>= f) m = some (b, m') → m'.radio.state ≠ .Uninitialized := by
  intro m b m' h
  obtain ⟨a, m₁, h₁, h₂⟩ := bind_apply_eq_some.mp h
  exact (hf a m₁ b m' h₂ (hx m a m₁ h₁)).1

/-- `ble_initialize` leaves the radio initialized. -/
theorem bleInitialize_initialized {m m' : Machine} {a : Unit}
    (h : bleInitialize m = some (a, m')) : m'.radio.state ≠ .Uninitialized := by
  rw [bleInitialize_apply, Option.some.injEq, Prod.mk.injEq] at h
  obtain ⟨-, rfl⟩ := h
  by_cases hu : m.radio.state = .Uninitialized <;> simp [hu]

/-- `handle_interrupt` keeps `QuietUninitialized`: from an `Uninitialized` radio it finds no
interrupt enabled and returns, and from any other state it keeps the radio initialized. -/
theorem quietUninitialized_handleInterrupt (P : Platform) :
    Moves (fun m m' => QuietUninitialized m → QuietUninitialized m') (handleInterrupt P) := by
  intro m a m' h hq
  by_cases hu : m.radio.state = .Uninitialized
  · rw [handleInterrupt_of_inten_empty P (hq hu)] at h
    cases h
    exact hq
  · exact fun hu' => absurd hu' ((keepsInit_walk P).handleInterrupt m a m' h hu).1

/-- The public operations that neither set the state nor enable an interrupt. -/
def SameStateInten (m m' : Machine) : Prop :=
  m'.radio.state = m.radio.state ∧ m'.regs.inten = m.regs.inten

/-- The reads, the answers and the writes of `TX_PAYLOAD` keep the state and `INTEN`. -/
theorem sameStateInten_readFrame : ReadFrame SameStateInten :=
  .of_reads (fun _ => ⟨rfl, rfl⟩) (fun h₁ h₂ => ⟨h₂.1.trans h₁.1, h₂.2.trans h₁.2⟩)
    (fun _ _ => ⟨rfl, rfl⟩) (fun _ _ => ⟨rfl, rfl⟩) fun _ _ => ⟨rfl, rfl⟩

/-- Every entry into the driver keeps `QuietUninitialized`. -/
theorem quietUninitialized_act (P : Platform) (op : Op) :
    Moves (fun m m' => QuietUninitialized m → QuietUninitialized m') (op.act P) := by
  have hR := sameStateInten_readFrame
  have hK := keepsInit_walk P
  have hsame {α : Type} {act : DriverM α} (h : Moves SameStateInten act) :
      Moves (fun m m' => QuietUninitialized m → QuietUninitialized m') act :=
    h.imp fun ⟨hs, hi⟩ hq hu => hi ▸ hq (hs ▸ hu)
  cases op
  case handleInterrupt => exact quietUninitialized_handleInterrupt P
  case tx => exact quietUninitialized_of_initialized fun _ _ _ h => by rw [tx_state P h]; nofun
  case rx => exact quietUninitialized_of_initialized fun _ _ _ h => by rw [rx_state P h]; nofun
  case bleInitialize =>
    exact quietUninitialized_of_initialized fun _ _ _ h => bleInitialize_initialized h
  case transmitAdvertisement =>
    exact quietUninitialized_of_initialized <| initialized_bind
      (initialized_bind (fun _ _ _ h => bleInitialize_initialized h) fun _ =>
        hK.bind (hK.replaceRadioBuffer _ _) fun _ => hK.bind hK.tx fun _ => hK.pure _)
      fun _ => hK.pure _
  case receiveAdvertisement =>
    exact quietUninitialized_of_initialized <|
      initialized_bind (fun _ _ _ h => bleInitialize_initialized h) fun _ =>
        hK.bind hK.rx fun _ => by
          unfold enableInterrupts enableInterrupt
          exact keepsInit_modifyRegs _ fun _ => rfl
  case setAdvertisementData => exact hsame (hR.bind (hR.replaceRadioBuffer _ _) fun _ => hR.pure _)
  -- The setters write neither the state nor `INTEN`.
  all_goals
    exact hsame <| hR.setter (fun _ hf => by rintro m _ _ ⟨⟩; exact ⟨hf _, rfl⟩)
      (fun _ hf => by rintro m _ _ ⟨⟩; exact ⟨rfl, (hf _).2.2.2.2.1⟩) _ rfl

/-! ### `END` only with a receive client -/

/-- A step never unsets the receive client, and enables `END` only with one. -/
def ClientForEnd (m m' : Machine) : Prop :=
  (m.radio.rxClient → m'.radio.rxClient) ∧
    (Interrupt.«end» ∈ m'.regs.inten → Interrupt.«end» ∈ m.regs.inten ∨ m'.radio.rxClient)

/-- Two steps that keep the client and enable `END` only with one do so together. -/
theorem clientForEnd_trans {m₁ m₂ m₃ : Machine} (h₁ : ClientForEnd m₁ m₂)
    (h₂ : ClientForEnd m₂ m₃) : ClientForEnd m₁ m₃ :=
  ⟨h₂.1 ∘ h₁.1, fun h => (h₂.2 h).elim (fun h' => (h₁.2 h').imp_right h₂.1) .inr⟩

/-- A step that keeps the receive client and enables no `END`. -/
theorem clientForEnd_of_eq {m m' : Machine} (hrx : m'.radio.rxClient = m.radio.rxClient)
    (hend : Interrupt.«end» ∈ m'.regs.inten → Interrupt.«end» ∈ m.regs.inten) :
    ClientForEnd m m' :=
  ⟨fun h => hrx ▸ h, fun h => .inl (hend h)⟩

/-- The reads, the answers and the writes of `TX_PAYLOAD` keep the client and enable no
`END`. -/
theorem clientForEnd_readFrame : ReadFrame ClientForEnd :=
  .of_reads (fun _ => clientForEnd_of_eq rfl id) clientForEnd_trans
    (fun _ _ => clientForEnd_of_eq rfl id) (fun _ _ => clientForEnd_of_eq rfl id)
    fun _ _ => clientForEnd_of_eq rfl id

/-- The handlers enable `END` only after finding the receive client, and never unset it. -/
theorem clientForEnd_walk (P : Platform) : Walk P ClientForEnd := by
  have hR := clientForEnd_readFrame
  refine { toReadFrame := hR,
           receiveStart := moves_answer (fun _ _ => clientForEnd_of_eq rfl id) _ _,
           receiveEnd := moves_answer (fun _ _ => clientForEnd_of_eq rfl id) _ _,
           scheduleTx := fun m _ m' _ h => by
             obtain ⟨_, _, rfl⟩ := scheduleAfterTIfs_eq_some h
             exact clientForEnd_of_eq rfl id,
           scheduleRx := fun m _ m' _ h => by
             obtain ⟨_, _, rfl⟩ := scheduleAfterTIfs_eq_some h
             exact clientForEnd_of_eq rfl id,
           enableEnd := by rintro m _ _ hm ⟨⟩; exact ⟨id, fun _ => .inr hm⟩,
           tx := hR.tx ?setupTx ?txen, rx := hR.rx ?clear ?setupRx ?rxen,
           clearInterrupt := fun _ => ?_, disableAllInterrupts := ?clear, setShorts := fun _ => ?_,
           disablePpi21 := ?_, setDebugBit := ?_, setupTx := ?setupTx, setupRx := ?setupRx,
           disableRadio := ?_, moveToTx := ?_ }
  all_goals
    intro m
    first
      | rintro _ _ ⟨⟩
      | rintro _ _ _ ⟨⟩
    exact clientForEnd_of_eq rfl fun h => by simp_all

/-- `ble_initialize` enables no interrupt and leaves the receive client alone. -/
theorem clientForEnd_bleInitialize : Moves ClientForEnd bleInitialize := by
  intro m _ m' h
  rw [bleInitialize_apply, Option.some.injEq, Prod.mk.injEq] at h
  obtain ⟨-, rfl⟩ := h
  split_ifs <;> exact clientForEnd_of_eq rfl id

/-- Every entry into the driver keeps the receive client, and enables `END` only with one: the
setters enable no interrupt, and `set_receive_client` sets the client. -/
theorem clientForEnd_act (P : Platform) (op : Op) : Moves ClientForEnd (op.act P) := by
  have hR := clientForEnd_readFrame
  refine (clientForEnd_walk P).act clientForEnd_bleInitialize
    (by rintro m _ _ ⟨⟩; exact clientForEnd_of_eq rfl fun h => by simp_all) op fun hs => ?_
  cases op <;> cases hs <;>
  unfold Op.act BleAdvertisementDriver.setReceiveClient BleAdvertisementDriver.setTransmitClient
    BleAdvertisementDriver.setAdvertisementClient BleConfig.setTxPower BleConfig.setChannel
    BleConfig.setTransitionState BleConfig.setAccessAddress bleSetChannel bleSetAccessAddress
    bleSetCrcinit bleSetDataWhitening <;>
  dsimp only <;>
  repeat' first
    | with_reducible first
      | exact hR.pure _ | exact moves_failure | exact hR.readState
      | refine hR.bind ?_ fun _ => ?_
      | refine Moves.ite ?_ ?_
    | (rintro m _ _ ⟨⟩; exact ⟨fun h => by simp_all, fun h => by simp_all⟩)
    | split

/-- For every platform, every machine where no interrupt is enabled while the radio is
`Uninitialized` and `END` is enabled only with a receive client, and every run from it: both still
hold after the run. They hold at `Radio::new()`, so in every state the driver reaches, an enabled
`DISABLED` comes with an initialized radio and an enabled `END` with a receive client. -/
theorem fatal_branches_unreachable (P : Platform) (m₀ m : Machine) (ops : List Op)
    (h₀ : (m₀.radio.state = .Uninitialized → m₀.regs.inten = ∅) ∧
      (Interrupt.«end» ∈ m₀.regs.inten → m₀.radio.rxClient))
    (hrun : run P m₀ ops = some m) :
    (m.radio.state = .Uninitialized → m.regs.inten = ∅) ∧
      (Interrupt.«end» ∈ m.regs.inten → m.radio.rxClient) := by
  have hquiet := Moves.run P (quietUninitialized_act P) (fun _ => id)
    (fun h₁ h₂ hq => h₂ (h₁ hq)) ops hrun h₀.1
  obtain ⟨hrx, hend⟩ := Moves.run P (clientForEnd_act P) (fun _ => clientForEnd_of_eq rfl id)
    clientForEnd_trans ops hrun
  exact ⟨hquiet, fun h => (hend h).elim (fun h' => hrx (h₀.2 h')) id⟩

/-- From `Radio::new()`: a receive client set, a receive, then a frame kept with
`ReadFrameAndStayRX`; `END` is enabled, with the client. -/
theorem fatal_branches_unreachable_stay_rx :
    ∃ m, run ⟨0, 0, 0, 0, fun _ => none⟩
        (Machine.new ⟨0, 0, 0, 0, fun _ => none⟩ [.disabled, .rx]
          ⟨[true, true], [], [10], [.ReadFrameAndStayRX], [], []⟩)
        [.setReceiveClient, .receiveAdvertisement, .handleInterrupt] = some m ∧
      Interrupt.«end» ∈ m.regs.inten ∧
      ((m.radio.state = .Uninitialized → m.regs.inten = ∅) ∧
        (Interrupt.«end» ∈ m.regs.inten → m.radio.rxClient)) := by
  obtain ⟨m, hm⟩ : ∃ m, run ⟨0, 0, 0, 0, fun _ => none⟩
      (Machine.new ⟨0, 0, 0, 0, fun _ => none⟩ [.disabled, .rx]
        ⟨[true, true], [], [10], [.ReadFrameAndStayRX], [], []⟩)
      [.setReceiveClient, .receiveAdvertisement, .handleInterrupt] = some m := ⟨_, rfl⟩
  refine ⟨m, hm, ?_, fatal_branches_unreachable _ _ m _
    ⟨fun _ => rfl, fun h => absurd h (Finset.not_mem_empty _)⟩ hm⟩
  cases hm
  decide

end NrfBle
