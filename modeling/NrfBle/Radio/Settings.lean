import NrfBle.Radio.Initialize

/-!
# The channel and the access address stay as the link layer set them

`BleConfig::set_channel` records the channel, tunes `FREQUENCY`, seeds the whitening
(`DATAWHITEIV`) and writes the access address (`PREFIX0`, `BASE0`) and `CRCINIT`;
`set_access_address` writes the access address alone. No other function of the driver writes
the field `channel`, `FREQUENCY`, `DATAWHITEIV`, `PREFIX0` or `BASE0`, and of the others only
`ble_initialize` writes `CRCINIT`, once, when it finds the radio `Uninitialized`. So between two
calls of the two setters, every transmission, reception and turnaround, the response sent
`T_IFS` after a received frame included, runs on the channel and with the access address that the
link layer set (`link_settings_kept`), and once the radio is initialized with its CRC init too.

The transmit power is kept in the same way. `BleConfig::set_tx_power` stores a power only when
`TxPower::try_from` accepts it, and `ble_initialize` writes `TXPOWER` only from the field
`tx_power`. So the comment on `ble_set_tx_power`, that no check is needed there, holds: in every
run from `Radio::new()` the field holds `ZerodBm` or an accepted power, and `TXPOWER` holds its
reset value `0` or such a power (`tx_power_supported`).
-/

namespace NrfBle

/-- The settings that only `set_channel` and `set_access_address` write: the channel, the
frequency, the whitening seed and the access address. -/
def LinkSettings (m : Machine) :
    Option RadioChannel × BitVec 32 × BitVec 32 × BitVec 32 × BitVec 32 :=
  (m.radio.channel, m.regs.frequency, m.regs.datawhiteiv, m.regs.prefix0, m.regs.base0)

/-- A step keeps the link settings, and once the radio is initialized keeps it initialized and
keeps `CRCINIT`. -/
def KeepsLinkSettings (m m' : Machine) : Prop :=
  LinkSettings m' = LinkSettings m ∧
    (m.radio.state ≠ .Uninitialized →
      m'.regs.crcinit = m.regs.crcinit ∧ m'.radio.state ≠ .Uninitialized)

/-- Two steps that keep the link settings keep them together. -/
theorem keepsLinkSettings_trans {m₁ m₂ m₃ : Machine} (h₁ : KeepsLinkSettings m₁ m₂)
    (h₂ : KeepsLinkSettings m₂ m₃) : KeepsLinkSettings m₁ m₃ :=
  ⟨h₂.1.trans h₁.1, fun hu =>
    have h₁₂ := h₁.2 hu
    ⟨(h₂.2 h₁₂.2).1.trans h₁₂.1, (h₂.2 h₁₂.2).2⟩⟩

/-- A step that writes none of the link settings, nor `CRCINIT`, and keeps the state or sets an
initialized one. -/
theorem keepsLinkSettings_of_eq {m m' : Machine} (hs : LinkSettings m' = LinkSettings m)
    (hc : m'.regs.crcinit = m.regs.crcinit)
    (hst : m.radio.state ≠ .Uninitialized → m'.radio.state ≠ .Uninitialized) :
    KeepsLinkSettings m m' :=
  ⟨hs, fun hu => ⟨hc, hst hu⟩⟩

/-- The reads, the answers and the writes of `TX_PAYLOAD` keep the link settings. -/
theorem keepsLinkSettings_readFrame : ReadFrame KeepsLinkSettings :=
  .of_reads (fun _ => keepsLinkSettings_of_eq rfl rfl id) keepsLinkSettings_trans
    (fun _ _ => keepsLinkSettings_of_eq rfl rfl id) (fun _ _ => keepsLinkSettings_of_eq rfl rfl id)
    fun _ _ => keepsLinkSettings_of_eq rfl rfl id

/-- `ble_initialize` writes `CRCINIT` only from `Uninitialized`, and leaves the radio
initialized. -/
theorem keepsLinkSettings_bleInitialize : Moves KeepsLinkSettings bleInitialize := by
  intro m _ m' h
  rw [bleInitialize_apply, Option.some.injEq, Prod.mk.injEq] at h
  obtain ⟨-, rfl⟩ := h
  by_cases hu : m.radio.state = .Uninitialized
  · simp only [hu, if_true]
    exact ⟨rfl, fun h => absurd hu h⟩
  · simp only [hu, if_false]
    exact keepsLinkSettings_of_eq rfl rfl id

/-- The handlers write no link setting and no `CRCINIT`; the states they set are initialized. -/
theorem keepsLinkSettings_walk (P : Platform) : Walk P KeepsLinkSettings := by
  have hR := keepsLinkSettings_readFrame
  refine { toReadFrame := hR,
           receiveStart := moves_answer (fun _ _ => keepsLinkSettings_of_eq rfl rfl id) _ _,
           receiveEnd := moves_answer (fun _ _ => keepsLinkSettings_of_eq rfl rfl id) _ _,
           scheduleTx := fun m _ m' _ h => by
             obtain ⟨_, _, rfl⟩ := scheduleAfterTIfs_eq_some h
             exact keepsLinkSettings_of_eq rfl rfl id,
           scheduleRx := fun m _ m' _ h => by
             obtain ⟨_, _, rfl⟩ := scheduleAfterTIfs_eq_some h
             exact keepsLinkSettings_of_eq rfl rfl id,
           tx := hR.tx ?setupTx ?txen, rx := hR.rx ?clear ?setupRx ?rxen,
           clearInterrupt := fun _ => ?_, disableAllInterrupts := ?clear, setShorts := fun _ => ?_,
           disablePpi21 := ?_, setDebugBit := ?_, setupTx := ?setupTx, setupRx := ?setupRx,
           disableRadio := ?_, enableEnd := ?_, moveToTx := ?_ }
  all_goals
    intro m
    first
      | rintro _ _ ⟨⟩
      | rintro _ _ _ ⟨⟩
    first
      | exact keepsLinkSettings_of_eq rfl rfl id
      | exact keepsLinkSettings_of_eq rfl rfl fun _ => nofun

/-- Every entry but `set_channel` and `set_access_address` keeps the link settings, and from an
initialized radio `CRCINIT`. -/
theorem keepsLinkSettings_act (P : Platform) (op : Op)
    (hop : (∀ c a i, op ≠ .setChannel c a i) ∧ ∀ aa, op ≠ .setAccessAddress aa) :
    Moves KeepsLinkSettings (op.act P) := by
  have hR := keepsLinkSettings_readFrame
  refine (keepsLinkSettings_walk P).act keepsLinkSettings_bleInitialize
    (by rintro m _ _ ⟨⟩; exact keepsLinkSettings_of_eq rfl rfl id) op fun hs => ?_
  cases op <;> cases hs
  case setChannel c a i => exact absurd rfl (hop.1 c a i)
  case setAccessAddress aa => exact absurd rfl (hop.2 aa)
  all_goals
    unfold Op.act BleAdvertisementDriver.setReceiveClient BleAdvertisementDriver.setTransmitClient
      BleAdvertisementDriver.setAdvertisementClient BleConfig.setTxPower
      BleConfig.setTransitionState
    dsimp only
    repeat' first
      | with_reducible first
        | exact hR.pure _
        | refine hR.bind ?_ fun _ => ?_
      | (rintro m _ _ ⟨⟩; exact keepsLinkSettings_of_eq rfl rfl id)
      | split

/-- For every platform, machine and run in which `set_channel` and `set_access_address` are not
called: the channel, `FREQUENCY`, `DATAWHITEIV`, `PREFIX0` and `BASE0` end as they began, and so
does `CRCINIT` when the radio was initialized to begin with. -/
theorem link_settings_kept (P : Platform) (m₀ m : Machine) (ops : List Op)
    (hops : ∀ op ∈ ops, (∀ c a i, op ≠ .setChannel c a i) ∧ ∀ aa, op ≠ .setAccessAddress aa)
    (hrun : run P m₀ ops = some m) :
    m.radio.channel = m₀.radio.channel ∧ m.regs.frequency = m₀.regs.frequency ∧
      m.regs.datawhiteiv = m₀.regs.datawhiteiv ∧ m.regs.prefix0 = m₀.regs.prefix0 ∧
      m.regs.base0 = m₀.regs.base0 ∧
      (m₀.radio.state ≠ .Uninitialized → m.regs.crcinit = m₀.regs.crcinit) := by
  obtain ⟨hs, hc⟩ := moves_run_of_forall P (fun _ => keepsLinkSettings_of_eq rfl rfl id)
    keepsLinkSettings_trans ops (fun op h => keepsLinkSettings_act P op (hops op h)) hrun
  simp only [LinkSettings, Prod.mk.injEq] at hs
  exact ⟨hs.1, hs.2.1, hs.2.2.1, hs.2.2.2.1, hs.2.2.2.2, fun hu => (hc hu).1⟩

/-- The radio initialized and set to channel `37` with the advertising access address, then a
receive and a frame kept with `ReadFrameAndStayRX`: the radio is still tuned to `37`. -/
theorem link_settings_kept_receive :
    ∃ m₀ m, run ⟨0, 0, 0, 0, fun _ => none⟩
        (Machine.new ⟨0, 0, 0, 0, fun _ => none⟩ [.disabled, .disabled, .rx]
          ⟨[true, true], [], [10], [.ReadFrameAndStayRX], [], []⟩)
        [.bleInitialize, .setChannel ⟨37⟩ 0x8E89BED6 0x555555] = some m₀ ∧
      m₀.radio.state ≠ .Uninitialized ∧
      run ⟨0, 0, 0, 0, fun _ => none⟩ m₀
        [.setReceiveClient, .receiveAdvertisement, .handleInterrupt] = some m ∧
      m.regs.frequency = 37 ∧
      (m.radio.channel = m₀.radio.channel ∧ m.regs.frequency = m₀.regs.frequency ∧
        m.regs.datawhiteiv = m₀.regs.datawhiteiv ∧ m.regs.prefix0 = m₀.regs.prefix0 ∧
        m.regs.base0 = m₀.regs.base0 ∧
        (m₀.radio.state ≠ .Uninitialized → m.regs.crcinit = m₀.regs.crcinit)) := by
  obtain ⟨m₀, hm₀⟩ : ∃ m₀, run ⟨0, 0, 0, 0, fun _ => none⟩
      (Machine.new ⟨0, 0, 0, 0, fun _ => none⟩ [.disabled, .disabled, .rx]
        ⟨[true, true], [], [10], [.ReadFrameAndStayRX], [], []⟩)
      [.bleInitialize, .setChannel ⟨37⟩ 0x8E89BED6 0x555555] = some m₀ := ⟨_, rfl⟩
  obtain ⟨m, hm⟩ : ∃ m, run ⟨0, 0, 0, 0, fun _ => none⟩ m₀
      [.setReceiveClient, .receiveAdvertisement, .handleInterrupt] = some m := by
    cases hm₀
    exact ⟨_, rfl⟩
  have h₀ : m₀.radio.state ≠ .Uninitialized := by
    cases hm₀
    nofun
  have hkept := link_settings_kept _ m₀ m _ (by simp) hm
  refine ⟨m₀, m, hm₀, h₀, hm, ?_, hkept⟩
  rw [hkept.2.1]
  cases hm₀
  rfl

/-! ## The transmit power -/

/-- A power that `TxPower` can hold: `ZerodBm`, or one that `TxPower::try_from` accepted. -/
def PowerSupported (P : Platform) (p : BitVec 32) : Prop :=
  p = P.zerodBm ∨ ∃ x, P.txPowerTryFrom x = some p

/-- The field `tx_power` holds a supported power, and `TXPOWER` its reset value or a supported
power. -/
def PowersSupported (P : Platform) (m : Machine) : Prop :=
  PowerSupported P m.radio.txPower ∧ (m.regs.txpower = 0 ∨ PowerSupported P m.regs.txpower)

/-- A step that keeps the powers supported. -/
def KeepsPowersSupported (P : Platform) (m m' : Machine) : Prop :=
  PowersSupported P m → PowersSupported P m'

/-- The reads, the answers and the writes of `TX_PAYLOAD` keep the powers. -/
theorem keepsPowersSupported_readFrame (P : Platform) : ReadFrame (KeepsPowersSupported P) :=
  .of_reads (fun _ => id) (fun h₁ h₂ => h₂ ∘ h₁) (fun _ _ => id) (fun _ _ => id) fun _ _ => id

/-- `set_tx_power` stores only a power that `TxPower::try_from` accepts. -/
theorem keepsPowersSupported_setTxPower (P : Platform) (txPower : BitVec 8) :
    Moves (KeepsPowersSupported P) (BleConfig.setTxPower P txPower) := by
  intro m _ m' h hm
  cases hres : P.txPowerTryFrom txPower
  case none =>
    simp only [BleConfig.setTxPower, hres] at h
    cases h
    exact hm
  case some res =>
    simp only [BleConfig.setTxPower, hres] at h
    cases h
    exact ⟨Or.inr ⟨txPower, hres⟩, hm.2⟩

/-- `ble_initialize` writes `TXPOWER` from the field `tx_power`. -/
theorem keepsPowersSupported_bleInitialize (P : Platform) :
    Moves (KeepsPowersSupported P) bleInitialize := by
  intro m _ m' h hm
  rw [bleInitialize_apply, Option.some.injEq, Prod.mk.injEq] at h
  obtain ⟨-, rfl⟩ := h
  split_ifs
  · exact ⟨hm.1, Or.inr hm.1⟩
  · exact hm

/-- The handlers write neither `tx_power` nor `TXPOWER`. -/
theorem keepsPowersSupported_walk (P : Platform) : Walk P (KeepsPowersSupported P) := by
  have hR := keepsPowersSupported_readFrame P
  refine { toReadFrame := hR,
           receiveStart := moves_answer (fun _ _ => id) _ _,
           receiveEnd := moves_answer (fun _ _ => id) _ _,
           scheduleTx := fun m _ m' _ h => by
             obtain ⟨_, _, rfl⟩ := scheduleAfterTIfs_eq_some h
             exact id,
           scheduleRx := fun m _ m' _ h => by
             obtain ⟨_, _, rfl⟩ := scheduleAfterTIfs_eq_some h
             exact id,
           tx := hR.tx ?setupTx ?txen, rx := hR.rx ?clear ?setupRx ?rxen,
           clearInterrupt := fun _ => ?_, disableAllInterrupts := ?clear, setShorts := fun _ => ?_,
           disablePpi21 := ?_, setDebugBit := ?_, setupTx := ?setupTx, setupRx := ?setupRx,
           disableRadio := ?_, enableEnd := ?_, moveToTx := ?_ }
  all_goals
    intro m
    first
      | rintro _ _ ⟨⟩
      | rintro _ _ _ ⟨⟩
    exact id

/-- Every entry keeps the powers supported: of the setters only `set_tx_power` writes a power. -/
theorem keepsPowersSupported_act (P : Platform) (op : Op) :
    Moves (KeepsPowersSupported P) (op.act P) := by
  have hR := keepsPowersSupported_readFrame P
  refine (keepsPowersSupported_walk P).act (keepsPowersSupported_bleInitialize P)
    (by rintro m _ _ ⟨⟩; exact id) op fun hs => ?_
  cases op <;> cases hs
  case setTxPower => exact hR.bind (keepsPowersSupported_setTxPower P _) fun _ => hR.pure _
  all_goals
    unfold Op.act BleAdvertisementDriver.setReceiveClient BleAdvertisementDriver.setTransmitClient
      BleAdvertisementDriver.setAdvertisementClient BleConfig.setChannel
      BleConfig.setTransitionState BleConfig.setAccessAddress bleSetChannel bleSetDataWhitening
      bleSetAccessAddress bleSetCrcinit
    dsimp only
    repeat' first
      | with_reducible first
        | exact hR.pure _ | exact moves_failure | exact hR.readState
        | refine hR.bind ?_ fun _ => ?_
        | refine Moves.ite ?_ ?_
      | (rintro m _ _ ⟨⟩; exact id)

/-- For every platform, every sequence of `STATE` values, every answer of the hardware and the
clients, and every run from `Radio::new()`: the field `tx_power` holds `ZerodBm` or a power that
`TxPower::try_from` accepted, and `TXPOWER` its reset value `0` or such a power. -/
theorem tx_power_supported (P : Platform) (hw : List HwState) (env : Env) (ops : List Op)
    (m : Machine) (hrun : run P (Machine.new P hw env) ops = some m) :
    PowerSupported P m.radio.txPower ∧ (m.regs.txpower = 0 ∨ PowerSupported P m.regs.txpower) :=
  moves_run_of_forall (R := KeepsPowersSupported P) P (fun _ => id) (fun h₁ h₂ => h₂ ∘ h₁) ops
    (fun op _ => keepsPowersSupported_act P op) hrun ⟨Or.inl rfl, Or.inl rfl⟩

/-- A chip that accepts only the power `4`: after `set_tx_power(4)` and `ble_initialize`, `TXPOWER`
holds `4`. -/
theorem tx_power_supported_initialize :
    ∃ m, run ⟨0, 0, 0, 0, fun x => if x = 4 then some 4 else none⟩
        (Machine.new ⟨0, 0, 0, 0, fun x => if x = 4 then some 4 else none⟩ []
          ⟨[], [], [], [], [], []⟩) [.setTxPower 4, .bleInitialize] = some m ∧
      m.regs.txpower = 4 ∧
      (PowerSupported ⟨0, 0, 0, 0, fun x => if x = 4 then some 4 else none⟩ m.radio.txPower ∧
        (m.regs.txpower = 0 ∨
          PowerSupported ⟨0, 0, 0, 0, fun x => if x = 4 then some 4 else none⟩
            m.regs.txpower)) := by
  obtain ⟨m, hm⟩ : ∃ m, run ⟨0, 0, 0, 0, fun x => if x = 4 then some 4 else none⟩
      (Machine.new ⟨0, 0, 0, 0, fun x => if x = 4 then some 4 else none⟩ []
        ⟨[], [], [], [], [], []⟩) [.setTxPower 4, .bleInitialize] = some m := ⟨_, rfl⟩
  refine ⟨m, hm, ?_, tx_power_supported _ _ _ _ m hm⟩
  cases hm
  rfl

end NrfBle
