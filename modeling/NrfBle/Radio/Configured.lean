import NrfBle.Radio.Initialize

/-!
# The radio's configuration follows the driver's state

`setup_tx` and `setup_rx` point `PACKETPTR` at their buffer and then set the state. Only
`setup_tx` enables `DISABLED`, and it does so once the state is `TX`. Every path that leaves `TX`
first clears the interrupts: `rx` and `disable_radio` clear them all, and `handle_tx_end_event`
clears `DISABLED` before its `setup_rx`. So over every run from `Radio::new()`, `DISABLED` is
enabled only in `TX`, and `PACKETPTR` holds `TX_PAYLOAD` in `TX` and `RX_PAYLOAD` in `RX`
(`configuration_follows_state`): the radio reads the transmit buffer when it transmits and writes
the receive buffer when it receives. In particular `DISABLED` is never enabled while the radio is
`Uninitialized`.

The proof is an invariant, `Configured`, and a `Walk` of the relation that keeps it. Most steps
leave the state, `DISABLED` and `PACKETPTR` as they are (`keepsConfigured_of`). `setup_tx` and
`disable_radio` set all three and leave a configured radio whatever they start from; `setup_rx`
does when it starts with `DISABLED` off, which is how the handlers and `rx` call it.
-/

namespace NrfBle

/-- The radio's configuration agrees with the driver's state. -/
structure Configured (P : Platform) (m : Machine) : Prop where
  /-- `DISABLED` is enabled only in `TX`. -/
  disabled_tx : Interrupt.disabled ∈ m.regs.inten → m.radio.state = .TX
  /-- In `TX` the radio reads `TX_PAYLOAD`. -/
  packetptr_tx : m.radio.state = .TX → m.regs.packetptr = P.txPayload
  /-- In `RX` the radio writes `RX_PAYLOAD`. -/
  packetptr_rx : m.radio.state = .RX → m.regs.packetptr = P.rxPayload

/-- `Radio::new()` is configured: no interrupt is enabled, and the state is `Uninitialized`. -/
theorem configured_new (P : Platform) (hw : List HwState) (env : Env) :
    Configured P (Machine.new P hw env) :=
  ⟨by simp [Machine.new], nofun, nofun⟩

/-- A step keeps the configuration: it leaves a configured machine when it starts from one. -/
def KeepsConfigured (P : Platform) (m m' : Machine) : Prop :=
  Configured P m → Configured P m'

section

variable {P : Platform}

/-- Two steps that keep the configuration keep it together. -/
theorem keepsConfigured_trans {m₁ m₂ m₃ : Machine} (h₁ : KeepsConfigured P m₁ m₂)
    (h₂ : KeepsConfigured P m₂ m₃) : KeepsConfigured P m₁ m₃ :=
  fun h => h₂ (h₁ h)

/-- A step that keeps the state and `PACKETPTR`, and enables no `DISABLED`, keeps the
configuration. -/
theorem keepsConfigured_of {m m' : Machine} (hstate : m'.radio.state = m.radio.state)
    (hdisabled : Interrupt.disabled ∈ m'.regs.inten → Interrupt.disabled ∈ m.regs.inten)
    (hptr : m'.regs.packetptr = m.regs.packetptr) : KeepsConfigured P m m' := fun hc =>
  ⟨fun h => hstate ▸ hc.disabled_tx (hdisabled h), fun h => hptr ▸ hc.packetptr_tx (hstate ▸ h),
    fun h => hptr ▸ hc.packetptr_rx (hstate ▸ h)⟩

/-- A step that changes neither the `Radio` fields nor the RADIO registers keeps the
configuration. -/
theorem keepsConfigured_of_eq {m m' : Machine} (hradio : m'.radio = m.radio)
    (hregs : m'.regs = m.regs) : KeepsConfigured P m m' :=
  keepsConfigured_of (by rw [hradio]) (by rw [hregs]; exact id) (by rw [hregs])

/-- The configuration is kept by the reads and by the writes of `TX_PAYLOAD`, and so by the
waits, the loop of `handle_address_event`, the copy of the payload and the clients' answers. -/
theorem keepsConfigured_readFrame : ReadFrame (KeepsConfigured P) :=
  .of_reads (fun _ => id) keepsConfigured_trans (fun _ _ => keepsConfigured_of_eq rfl rfl)
    (fun _ _ => keepsConfigured_of_eq rfl rfl) fun _ _ => keepsConfigured_of_eq rfl rfl

/-- A write of the `Radio` fields that keeps the state keeps the configuration. -/
theorem keepsConfigured_modifyRadio (f : RadioFields → RadioFields)
    (hf : ∀ r, (f r).state = r.state) : Moves (KeepsConfigured P) (modifyRadio f) := by
  rintro m _ _ ⟨⟩
  exact keepsConfigured_of (hf m.radio) id rfl

/-- A write of the registers that enables no `DISABLED` and keeps `PACKETPTR` keeps the
configuration. -/
theorem keepsConfigured_modifyRegs (f : Regs → Regs)
    (hf : ∀ r, (Interrupt.disabled ∈ (f r).inten → Interrupt.disabled ∈ r.inten) ∧
      (f r).packetptr = r.packetptr) : Moves (KeepsConfigured P) (modifyRegs f) := by
  rintro m _ _ ⟨⟩
  exact keepsConfigured_of rfl (hf m.regs).1 (hf m.regs).2

/-! ### The functions that configure the radio -/

/-- `setup_tx` leaves the radio configured for `TX`, whatever it was configured for. -/
theorem setupTx_configured {m m' : Machine} {a : Unit} (h : setupTx P m = some (a, m')) :
    Configured P m' := by
  cases h
  exact ⟨fun _ => rfl, fun _ => rfl, nofun⟩

/-- `setup_rx` leaves the radio configured for `RX` when it starts with `DISABLED` off. -/
theorem setupRx_configured {m m' : Machine} {a : Unit}
    (hd : Interrupt.disabled ∉ m.regs.inten) (h : setupRx P m = some (a, m')) :
    Configured P m' := by
  cases h
  exact ⟨fun h => absurd (by simpa using h) hd, nofun, fun _ => rfl⟩

/-- `disable_radio` clears every interrupt and leaves the radio `Initialized`. -/
theorem disableRadio_configured {m m' : Machine} {a : Unit} (h : disableRadio m = some (a, m')) :
    Configured P m' := by
  cases h
  exact ⟨by simp, nofun, nofun⟩

/-- `ble_initialize` keeps the configuration: from `Uninitialized`, where `DISABLED` is off, it
enters `Initialized`. -/
theorem keepsConfigured_bleInitialize : Moves (KeepsConfigured P) bleInitialize := by
  intro m _ m' h hc
  rw [bleInitialize_apply, Option.some.injEq, Prod.mk.injEq] at h
  obtain ⟨-, rfl⟩ := h
  split_ifs with hu
  · exact ⟨fun h => absurd (hc.disabled_tx h) (by rw [hu]; nofun), nofun, nofun⟩
  · exact ⟨hc.1, hc.2, hc.3⟩

/-! ### The walk -/

/-- The handlers configure the radio whenever they set its state, and their `setup_rx` runs with
`DISABLED` off; their other steps keep the state and `PACKETPTR` and enable no `DISABLED`. -/
theorem keepsConfigured_walk : Walk P (KeepsConfigured P) := by
  have hR := keepsConfigured_readFrame (P := P)
  refine { toReadFrame := hR,
           receiveStart := moves_answer (fun _ _ => keepsConfigured_of_eq rfl rfl) _ _,
           receiveEnd := moves_answer (fun _ _ => keepsConfigured_of_eq rfl rfl) _ _,
           scheduleTx := fun m _ m' _ h => by
             obtain ⟨_, _, rfl⟩ := scheduleAfterTIfs_eq_some h
             exact keepsConfigured_of_eq rfl rfl,
           scheduleRx := fun m _ m' _ h => by
             obtain ⟨_, _, rfl⟩ := scheduleAfterTIfs_eq_some h
             exact keepsConfigured_of_eq rfl rfl,
           setupTx := fun _ _ _ h _ => setupTx_configured h,
           setupRx := fun _ _ _ hd h _ => setupRx_configured hd h,
           disableRadio := fun _ _ _ h _ => disableRadio_configured h,
           tx := hR.tx (fun _ _ _ h _ => setupTx_configured h) ?txen,
           rx := hR.rx ?clear (fun _ _ _ hd h _ => setupRx_configured hd h) ?rxen,
           clearInterrupt := fun _ => ?_, disableAllInterrupts := ?clear, setShorts := fun _ => ?_,
           disablePpi21 := ?_, setDebugBit := ?_, enableEnd := ?_, moveToTx := ?_ }
  all_goals
    intro m
    first
      | rintro _ _ ⟨⟩
      | rintro _ _ _ ⟨⟩
    first
      | exact keepsConfigured_of_eq rfl rfl
      | exact keepsConfigured_of rfl (fun h => by simp_all) rfl

/-- Every entry into the driver keeps the configuration: the setters write neither the state, nor
`INTEN`, nor `PACKETPTR`. -/
theorem keepsConfigured_act (op : Op) : Moves (KeepsConfigured P) (op.act P) :=
  keepsConfigured_walk.act keepsConfigured_bleInitialize
    (keepsConfigured_modifyRegs _ fun _ => ⟨by simp, rfl⟩) op <|
    keepsConfigured_readFrame.setter keepsConfigured_modifyRadio
      (fun f hf => keepsConfigured_modifyRegs f fun r => ⟨by rw [(hf r).2.2.2.2.1]; exact id,
        (hf r).2.2.2.2.2⟩) op

end

/-- For every platform, every sequence of values of `STATE`, every answer of the hardware and the
clients, and every run from `Radio::new()`: the `DISABLED` interrupt is enabled only in `TX`,
`PACKETPTR` holds `TX_PAYLOAD` in `TX`, and it holds `RX_PAYLOAD` in `RX`. -/
theorem configuration_follows_state (P : Platform) (hw : List HwState) (env : Env)
    (ops : List Op) (m : Machine) (hrun : run P (Machine.new P hw env) ops = some m) :
    (Interrupt.disabled ∈ m.regs.inten → m.radio.state = .TX) ∧
      (m.radio.state = .TX → m.regs.packetptr = P.txPayload) ∧
      (m.radio.state = .RX → m.regs.packetptr = P.rxPayload) :=
  have hc := Moves.run P keepsConfigured_act (fun _ => id) keepsConfigured_trans ops hrun
    (configured_new P hw env)
  ⟨hc.disabled_tx, hc.packetptr_tx, hc.packetptr_rx⟩

/-- A receive and then a transmit from `Radio::new()`, on a platform whose `TX_PAYLOAD` is at
address `1` and `RX_PAYLOAD` at address `2`. -/
theorem configuration_follows_state_receive_transmit :
    ∃ m, run ⟨1, 2, 0, 0, fun _ => none⟩
        (Machine.new ⟨1, 2, 0, 0, fun _ => none⟩ [.disabled, .disabled]
          ⟨[], [], [], [], [], []⟩)
        [.receiveAdvertisement, .transmitAdvertisement [] 0] = some m ∧
      (Interrupt.disabled ∈ m.regs.inten → m.radio.state = .TX) ∧
      (m.radio.state = .TX → m.regs.packetptr = 1) ∧
      (m.radio.state = .RX → m.regs.packetptr = 2) := by
  obtain ⟨m, hm⟩ : ∃ m, run ⟨1, 2, 0, 0, fun _ => none⟩
      (Machine.new ⟨1, 2, 0, 0, fun _ => none⟩ [.disabled, .disabled]
        ⟨[], [], [], [], [], []⟩)
      [.receiveAdvertisement, .transmitAdvertisement [] 0] = some m := ⟨_, rfl⟩
  exact ⟨m, hm, configuration_follows_state _ _ _ _ m hm⟩

end NrfBle
