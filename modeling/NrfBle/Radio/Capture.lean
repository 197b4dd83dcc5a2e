import NrfBle.Radio.Walk

/-!
# The capture channels stay enabled

`ble_initialize`, run from `Uninitialized`, enables PPI channels `26` and `27`, which wire the
radio's `ADDRESS` and `END` events to TIMER0's captures `CC[1]` and `CC[2]`; `CC[2]`, the end of
the last packet, is where both turnarounds are scheduled from. The driver disables channels only
through `PPI_CHEN_CH20`, `PPI_CHEN_CH21` and the mask of `disable_radio`, all among `20`, `21`,
`23`, `25` and `31`, so any other channel, once enabled, stays enabled over every entry
(`keepsChannels_frame`), and `capture_channels_kept` follows.
-/

namespace NrfBle

/-- Every channel outside `20`, `21`, `23`, `25` and `31` that is enabled in `m` is enabled in
`m'`. -/
def KeepsChannels (m m' : Machine) : Prop :=
  ∀ c ∉ ({20, 21, 23, 25, 31} : Finset ℕ), c ∈ m.ppi → c ∈ m'.ppi

/-- A step that leaves the enabled channels as they are keeps them. -/
theorem keepsChannels_of_ppi_eq {m m' : Machine} (h : m'.ppi = m.ppi) : KeepsChannels m m' :=
  fun _ _ hc => h ▸ hc

/-- The driver's steps keep every channel it never disables. -/
theorem keepsChannels_frame : Frame KeepsChannels where
  refl _ _ _ h := h
  trans h₁ h₂ c hc h := h₂ c hc (h₁ c hc h)
  modifyRadio _ := by rintro m _ _ ⟨⟩; exact keepsChannels_of_ppi_eq rfl
  modifyRegs _ := by rintro m _ _ ⟨⟩; exact keepsChannels_of_ppi_eq rfl
  modifyTimer _ := by rintro m _ _ ⟨⟩; exact keepsChannels_of_ppi_eq rfl
  enablePpi _ := by rintro m _ _ ⟨⟩ c _ hc; exact Finset.mem_union_left _ hc
  disablePpi pins hpins := by
    rintro m _ _ ⟨⟩ c hc hm
    exact Finset.mem_sdiff.mpr ⟨hm, fun h => hc (hpins h)⟩
  setTxPayload _ _ _ _ _ h := by
    obtain ⟨-, rfl⟩ := setTxPayload_eq_some.mp h
    exact keepsChannels_of_ppi_eq rfl
  readState _ _ _ h := by
    obtain ⟨-, rfl⟩ := readState_eq_some.mp h
    exact keepsChannels_of_ppi_eq rfl
  answer _ _ _ _ _ h := by
    obtain ⟨_, -, rfl⟩ := answer_eq_some.mp h
    exact keepsChannels_of_ppi_eq rfl
  disable := by rintro m _ _ ⟨⟩; exact keepsChannels_of_ppi_eq rfl

/-- Every trigger keeps the channels. -/
theorem keepsChannels_trigger (t : Task) : Moves KeepsChannels (trigger t) := by
  rintro m _ _ ⟨⟩
  exact keepsChannels_of_ppi_eq rfl

/-- Every run of the driver keeps every channel it never disables. -/
theorem run_keepsChannels (P : Platform) {m m' : Machine} (ops : List Op)
    (h : run P m ops = some m') : KeepsChannels m m' :=
  keepsChannels_frame.run P (keepsChannels_frame.tx P keepsChannels_trigger)
    (keepsChannels_frame.rx P keepsChannels_trigger) ops h

/-- `ble_initialize` from `Uninitialized` enables channels `26` and `27`. -/
theorem bleInitialize_capture {m m' : Machine} (h : m.radio.state = .Uninitialized)
    (h' : bleInitialize m = some ((), m')) : 26 ∈ m'.ppi ∧ 27 ∈ m'.ppi := by
  simp only [NrfBle.bleInitialize, bind_apply, get_apply, Option.some_bind, h, if_true, radioOn,
    setTxPowerReg, bleSetCrcinit, setState, modifyRegs_apply, modifyRadio_apply, enablePpi_apply,
    modifyTimer_apply, Option.some.injEq, Prod.mk.injEq, true_and] at h'
  subst h'
  simp

/-- An entry that calls `ble_initialize` first (`ble_initialize` itself, `receive_advertisement`
or `transmit_advertisement`) keeps, from the machine `ble_initialize` leaves, the channels it never
disables. -/
theorem keepsChannels_after_bleInitialize (P : Platform) {op : Op}
    (hop : op = .bleInitialize ∨ op = .receiveAdvertisement ∨
      ∃ buf len, op = .transmitAdvertisement buf len)
    {m m' : Machine} {a : Unit} (h : op.act P m = some (a, m')) :
    ∃ mi, bleInitialize m = some ((), mi) ∧ KeepsChannels mi m' := by
  have hR := keepsChannels_frame
  rcases hop with rfl | rfl | ⟨buf, len, rfl⟩
  · exact ⟨m', h, hR.refl m'⟩
  · obtain ⟨_, mi, hi, hrest⟩ := bind_apply_eq_some.mp h
    have hmoves : Moves KeepsChannels (rx P >>= fun _ => enableInterrupts) :=
      hR.bind (hR.rx P keepsChannels_trigger) fun _ =>
        hR.modifyRegs fun r => { r with inten := r.inten ∪ {.address} }
    exact ⟨mi, hi, hmoves _ _ _ hrest⟩
  · obtain ⟨_, m₂, ht, hpure⟩ := bind_apply_eq_some.mp h
    obtain ⟨_, mi, hi, hrest⟩ := bind_apply_eq_some.mp ht
    have hmoves : Moves KeepsChannels (BleAdvertisementDriver.setAdvertisementData buf len >>=
        fun res => tx P >>= fun _ => pure res) :=
      hR.bind (hR.replaceRadioBuffer _ _) fun _ =>
        hR.bind (hR.tx P keepsChannels_trigger) fun _ => hR.pure _
    exact ⟨mi, hi, hR.trans (hmoves _ _ _ hrest) (hR.pure _ _ _ _ hpure)⟩

/-- For every platform, every machine in `Uninitialized` and every run whose first entry calls
`ble_initialize` (`ble_initialize` itself, `receive_advertisement` or `transmit_advertisement`),
channels `26` and `27` are enabled after the run, whatever entries follow. -/
theorem capture_channels_kept (P : Platform) (m₀ m : Machine) (op : Op) (ops : List Op)
    (h₀ : m₀.radio.state = .Uninitialized)
    (hop : op = .bleInitialize ∨ op = .receiveAdvertisement ∨
      ∃ buf len, op = .transmitAdvertisement buf len)
    (hrun : run P m₀ (op :: ops) = some m) : 26 ∈ m.ppi ∧ 27 ∈ m.ppi := by
  obtain ⟨m₁, hstep, hrest⟩ := Option.bind_eq_some.mp hrun
  obtain ⟨⟨_, m₁⟩, hact, rfl⟩ := Option.map_eq_some'.mp hstep
  obtain ⟨mi, hi, hkeep⟩ := keepsChannels_after_bleInitialize P hop hact
  obtain ⟨h26, h27⟩ := bleInitialize_capture h₀ hi
  have hrun' := run_keepsChannels P ops hrest
  exact ⟨hrun' 26 (by decide) (hkeep 26 (by decide) h26),
    hrun' 27 (by decide) (hkeep 27 (by decide) h27)⟩

/-- A receive from `Radio::new()`, then a transmit: both channels are enabled after the run. -/
theorem capture_channels_kept_receive_transmit :
    ∃ m, run ⟨0, 0, 0, 0, fun _ => none⟩
        (Machine.new ⟨0, 0, 0, 0, fun _ => none⟩ [.disabled, .disabled]
          ⟨[], [], [], [], [], []⟩)
        [.receiveAdvertisement, .transmitAdvertisement [] 0] = some m ∧
      26 ∈ m.ppi ∧ 27 ∈ m.ppi := by
  obtain ⟨m, hm⟩ : ∃ m, run ⟨0, 0, 0, 0, fun _ => none⟩
      (Machine.new ⟨0, 0, 0, 0, fun _ => none⟩ [.disabled, .disabled]
        ⟨[], [], [], [], [], []⟩)
      [.receiveAdvertisement, .transmitAdvertisement [] 0] = some m := ⟨_, rfl⟩
  exact ⟨m, hm, capture_channels_kept _ _ m _ _ rfl (Or.inr (Or.inl rfl)) hm⟩

end NrfBle
