import NrfBle.Radio.Initialize

/-!
# The PPI channels that the driver arms

Of the PPI channels the driver enables four: `20` and `21`, from TIMER0's `COMPARE[0]` to the
radio's `TXEN` and `RXEN`, for the turnarounds of `schedule_tx_after_t_ifs` and
`schedule_rx_after_t_ifs`, and `26` and `27`, the captures that `ble_initialize` wires. No run
enables any other (`ppi_footprint`): `23`, `25` and `31`, which `disable_radio` disables, are never
enabled by the driver, and the channels of the other peripherals are left alone.

Channel `21` is armed in one place, `handle_tx_end_event`, and only when the transition is
`MoveToRX`. The driver itself only ever sets the transition to `MoveToTX`, for a frame kept with
`ReadFrameAndMoveToTX`, and never resets it: only `set_transition_state` changes it otherwise. So
in a run without `set_transition_state` the transition ends as it began or as `MoveToTX`, and the
receive turnaround ends armed only if it was armed before or the run began in `MoveToRX`
(`transition_kept_without_link_layer`). From `Radio::new()`, whose transition is `None`, such a
run never arms channel `21`; and after one `ReadFrameAndMoveToTX`, every later end of a
transmission takes the `MoveToTX` branch of `handle_tx_end_event`.

Both are `Walk`s: every step of the handlers moves along them, the arming of channel `21` from
`MoveToRX`.
-/

namespace NrfBle

/-! ### The channels the driver enables -/

/-- A step enables no PPI channel but `20`, `21`, `26` and `27`. -/
def EnablesOwnChannels (m m' : Machine) : Prop :=
  m'.ppi ⊆ m.ppi ∪ {20, 21, 26, 27}

/-- Two steps that enable only the driver's channels enable only those together. -/
theorem enablesOwnChannels_trans {m₁ m₂ m₃ : Machine} (h₁ : EnablesOwnChannels m₁ m₂)
    (h₂ : EnablesOwnChannels m₂ m₃) : EnablesOwnChannels m₁ m₃ :=
  h₂.trans (Finset.union_subset h₁ Finset.subset_union_right)

/-- A step that enables no channel. -/
theorem enablesOwnChannels_of_subset {m m' : Machine} (h : m'.ppi ⊆ m.ppi) :
    EnablesOwnChannels m m' :=
  h.trans Finset.subset_union_left

/-- Enabling some of the driver's channels. -/
theorem enablesOwnChannels_enablePpi (pins : Finset ℕ) (h : pins ⊆ {20, 21, 26, 27}) :
    Moves EnablesOwnChannels (enablePpi pins) := by
  rintro m _ _ ⟨⟩
  exact Finset.union_subset_union subset_rfl h

/-- A turnaround on one of the driver's channels. -/
theorem enablesOwnChannels_scheduleAfterTIfs (d₁ d₂ d₃ : BitVec 32) {ch : ℕ}
    (hch : ch ∈ ({20, 21, 26, 27} : Finset ℕ)) :
    Moves EnablesOwnChannels (scheduleAfterTIfs d₁ d₂ d₃ ch) := by
  intro m _ m' h
  obtain ⟨_, _, rfl⟩ := scheduleAfterTIfs_eq_some h
  exact Finset.union_subset_union subset_rfl (Finset.singleton_subset_iff.mpr hch)

/-- The reads, the answers and the writes of `TX_PAYLOAD` enable no channel. -/
theorem enablesOwnChannels_readFrame : ReadFrame EnablesOwnChannels :=
  .of_reads (fun _ => Finset.subset_union_left) enablesOwnChannels_trans
    (fun _ _ => Finset.subset_union_left) (fun _ _ => Finset.subset_union_left)
    fun _ _ => Finset.subset_union_left

/-- `ble_initialize` enables the capture channels `26` and `27`. -/
theorem enablesOwnChannels_bleInitialize : Moves EnablesOwnChannels bleInitialize := by
  intro m _ m' h
  rw [bleInitialize_apply, Option.some.injEq, Prod.mk.injEq] at h
  obtain ⟨-, rfl⟩ := h
  split_ifs
  · exact Finset.union_subset_union subset_rfl (by decide)
  · exact Finset.subset_union_left

/-- The handlers enable only the turnaround channels; every other step of theirs writes no PPI
enable or disables channels. -/
theorem enablesOwnChannels_walk (P : Platform) : Walk P EnablesOwnChannels := by
  have hR := enablesOwnChannels_readFrame
  refine { toReadFrame := hR,
           receiveStart := moves_answer (fun _ _ => Finset.subset_union_left) _ _,
           receiveEnd := moves_answer (fun _ _ => Finset.subset_union_left) _ _,
           scheduleTx := (enablesOwnChannels_scheduleAfterTIfs _ _ _ (by decide)).movesFrom,
           scheduleRx := (enablesOwnChannels_scheduleAfterTIfs _ _ _ (by decide)).movesFrom,
           tx := hR.tx ?setupTx ?txen, rx := hR.rx ?clear ?setupRx ?rxen,
           clearInterrupt := fun _ => ?_, disableAllInterrupts := ?clear, setShorts := fun _ => ?_,
           disablePpi21 := ?_, setDebugBit := ?_, setupTx := ?setupTx, setupRx := ?setupRx,
           disableRadio := ?_, enableEnd := ?_, moveToTx := ?_ }
  all_goals
    intro m
    first
      | rintro _ _ ⟨⟩
      | rintro _ _ _ ⟨⟩
    first
      | exact Finset.subset_union_left
      | exact enablesOwnChannels_of_subset Finset.sdiff_subset

/-- Every entry into the driver enables no PPI channel but its own. -/
theorem enablesOwnChannels_act (P : Platform) (op : Op) : Moves EnablesOwnChannels (op.act P) :=
  (enablesOwnChannels_walk P).act enablesOwnChannels_bleInitialize
    (by rintro m _ _ ⟨⟩; exact Finset.subset_union_left) op <|
    enablesOwnChannels_readFrame.setter
      (fun _ _ => by rintro m _ _ ⟨⟩; exact Finset.subset_union_left)
      (fun _ _ => by rintro m _ _ ⟨⟩; exact Finset.subset_union_left) op

/-- For every platform, machine and run of the driver: the run enables no PPI channel but `20`,
`21`, `26` and `27`. From `Radio::new()`, which enables none, these four are the only channels
ever enabled. -/
theorem ppi_footprint (P : Platform) (m₀ m : Machine) (ops : List Op)
    (hrun : run P m₀ ops = some m) : m.ppi ⊆ m₀.ppi ∪ {20, 21, 26, 27} :=
  Moves.run P (enablesOwnChannels_act P) (fun _ => Finset.subset_union_left)
    enablesOwnChannels_trans ops hrun

/-- An advertisement sent from `Radio::new()` enables the two capture channels. -/
theorem ppi_footprint_transmit :
    ∃ m, run ⟨0, 0, 0, 0, fun _ => none⟩
        (Machine.new ⟨0, 0, 0, 0, fun _ => none⟩ [.disabled] ⟨[], [], [], [], [], []⟩)
        [.transmitAdvertisement [] 0] = some m ∧ m.ppi = {26, 27} ∧
      m.ppi ⊆ (Machine.new ⟨0, 0, 0, 0, fun _ => none⟩ [.disabled]
        ⟨[], [], [], [], [], []⟩).ppi ∪ {20, 21, 26, 27} := by
  obtain ⟨m, hm⟩ : ∃ m, run ⟨0, 0, 0, 0, fun _ => none⟩
      (Machine.new ⟨0, 0, 0, 0, fun _ => none⟩ [.disabled] ⟨[], [], [], [], [], []⟩)
      [.transmitAdvertisement [] 0] = some m := ⟨_, rfl⟩
  refine ⟨m, hm, ?_, ppi_footprint _ _ m _ hm⟩
  cases hm
  rfl

/-! ### The transition and the receive turnaround -/

/-- A step keeps the transition or sets it to `MoveToTX`, and arms the receive turnaround
(channel `21`) only from `MoveToRX`. -/
def KeepsTransition (m m' : Machine) : Prop :=
  (m'.radio.transition = m.radio.transition ∨ m'.radio.transition = .MoveToTX) ∧
    (21 ∈ m'.ppi → 21 ∈ m.ppi ∨ m.radio.transition = .MoveToRX)

/-- Two steps that keep the transition or set `MoveToTX`, and arm channel `21` only from
`MoveToRX`, do so together. -/
theorem keepsTransition_trans {m₁ m₂ m₃ : Machine} (h₁ : KeepsTransition m₁ m₂)
    (h₂ : KeepsTransition m₂ m₃) : KeepsTransition m₁ m₃ := by
  obtain ⟨ht₁, hc₁⟩ := h₁
  obtain ⟨ht₂, hc₂⟩ := h₂
  refine ⟨ht₂.elim (fun h => h ▸ ht₁) Or.inr, fun h => ?_⟩
  rcases hc₂ h with h | h
  · exact hc₁ h
  · -- A turnaround armed from `MoveToRX` in the middle: the transition was `MoveToRX` before.
    rcases ht₁ with h' | h'
    · exact Or.inr (h' ▸ h)
    · exact absurd (h'.symm.trans h) nofun

/-- A step that keeps the transition and arms no receive turnaround. -/
theorem keepsTransition_of_eq {m m' : Machine}
    (htr : m'.radio.transition = m.radio.transition) (h21 : 21 ∈ m'.ppi → 21 ∈ m.ppi) :
    KeepsTransition m m' :=
  ⟨.inl htr, fun h => .inl (h21 h)⟩

/-- The reads, the answers and the writes of `TX_PAYLOAD` keep the transition and arm no
channel. -/
theorem keepsTransition_readFrame : ReadFrame KeepsTransition :=
  .of_reads (fun _ => keepsTransition_of_eq rfl id) keepsTransition_trans
    (fun _ _ => keepsTransition_of_eq rfl id) (fun _ _ => keepsTransition_of_eq rfl id)
    fun _ _ => keepsTransition_of_eq rfl id

/-- `ble_initialize` leaves the transition and channel `21` alone. -/
theorem keepsTransition_bleInitialize : Moves KeepsTransition bleInitialize := by
  intro m _ m' h
  rw [bleInitialize_apply, Option.some.injEq, Prod.mk.injEq] at h
  obtain ⟨-, rfl⟩ := h
  split_ifs
  · exact keepsTransition_of_eq rfl fun h => by simpa using h
  · exact keepsTransition_of_eq rfl id

/-- The handlers set the transition only to `MoveToTX`, and arm channel `21` only from
`MoveToRX`; `schedule_tx_after_t_ifs` arms channel `20`. -/
theorem keepsTransition_walk (P : Platform) : Walk P KeepsTransition := by
  have hR := keepsTransition_readFrame
  refine { toReadFrame := hR,
           receiveStart := moves_answer (fun _ _ => keepsTransition_of_eq rfl id) _ _,
           receiveEnd := moves_answer (fun _ _ => keepsTransition_of_eq rfl id) _ _,
           scheduleTx := fun m _ m' _ h => by
             obtain ⟨_, _, rfl⟩ := scheduleAfterTIfs_eq_some h
             exact keepsTransition_of_eq rfl fun h => by simpa using h,
           scheduleRx := fun m _ m' hm h => by
             obtain ⟨_, _, rfl⟩ := scheduleAfterTIfs_eq_some h
             exact ⟨.inl rfl, fun _ => .inr hm.1⟩,
           moveToTx := by rintro m _ _ - ⟨⟩; exact ⟨.inr rfl, .inl⟩,
           tx := hR.tx ?setupTx ?txen, rx := hR.rx ?clear ?setupRx ?rxen,
           clearInterrupt := fun _ => ?_, disableAllInterrupts := ?clear, setShorts := fun _ => ?_,
           disablePpi21 := ?_, setDebugBit := ?_, setupTx := ?setupTx, setupRx := ?setupRx,
           disableRadio := ?_, enableEnd := ?_ }
  all_goals
    intro m
    first
      | rintro _ _ ⟨⟩
      | rintro _ _ _ ⟨⟩
    first
      | exact keepsTransition_of_eq rfl id
      | exact keepsTransition_of_eq rfl fun h => (Finset.mem_sdiff.mp h).1

/-- Every entry but `set_transition_state` keeps the transition or sets it to `MoveToTX`, and
arms the receive turnaround only from `MoveToRX`. -/
theorem keepsTransition_act (P : Platform) (op : Op) (hop : ∀ s, op ≠ .setTransitionState s) :
    Moves KeepsTransition (op.act P) := by
  have hR := keepsTransition_readFrame
  refine (keepsTransition_walk P).act keepsTransition_bleInitialize
    (by rintro m _ _ ⟨⟩; exact keepsTransition_of_eq rfl id) op fun hs => ?_
  cases op <;> cases hs
  case setTransitionState s => exact absurd rfl (hop s)
  all_goals
    unfold Op.act BleAdvertisementDriver.setReceiveClient BleAdvertisementDriver.setTransmitClient
      BleAdvertisementDriver.setAdvertisementClient BleConfig.setTxPower BleConfig.setChannel
      BleConfig.setAccessAddress bleSetChannel bleSetAccessAddress bleSetCrcinit
      bleSetDataWhitening
    dsimp only
    repeat' first
      | with_reducible first
        | exact hR.pure _ | exact moves_failure | exact hR.readState
        | refine hR.bind ?_ fun _ => ?_
        | refine Moves.ite ?_ ?_
      | (rintro m _ _ ⟨⟩; exact keepsTransition_of_eq rfl id)
      | split

/-- For every platform, machine and run in which `set_transition_state` is never called: the
transition ends as it began or as `MoveToTX`, since the driver never resets it, and the receive
turnaround (channel `21`) ends enabled only if it was enabled before or the transition was
`MoveToRX` to begin with. From `Radio::new()` such a run never arms the receive turnaround. -/
theorem transition_kept_without_link_layer (P : Platform) (m₀ m : Machine) (ops : List Op)
    (hops : ∀ op ∈ ops, ∀ s, op ≠ .setTransitionState s) (hrun : run P m₀ ops = some m) :
    (m.radio.transition = m₀.radio.transition ∨ m.radio.transition = .MoveToTX) ∧
      (21 ∈ m.ppi → 21 ∈ m₀.ppi ∨ m₀.radio.transition = .MoveToRX) :=
  moves_run_of_forall P (fun _ => keepsTransition_of_eq rfl id) keepsTransition_trans ops
    (fun op h => keepsTransition_act P op (hops op h)) hrun

/-- From `Radio::new()`: a frame kept with `ReadFrameAndMoveToTX`, then its end with
`PhyTransition::None`; the radio is back in `Initialized` and the transition is still
`MoveToTX`. -/
theorem transition_kept_without_link_layer_move_to_tx :
    ∃ m, run ⟨0, 0, 0, 0, fun _ => none⟩
        (Machine.new ⟨0, 0, 0, 0, fun _ => none⟩ [.disabled, .rx, .disabled]
          ⟨[true, true, true, true], [], [10, 10], [.ReadFrameAndMoveToTX], [.None], []⟩)
        [.setReceiveClient, .receiveAdvertisement, .handleInterrupt, .handleInterrupt] = some m ∧
      m.radio.state = .Initialized ∧ m.radio.transition = .MoveToTX ∧
      ((m.radio.transition = PhyTransition.None ∨ m.radio.transition = .MoveToTX) ∧
        (21 ∈ m.ppi → 21 ∈ (∅ : Finset ℕ) ∨ PhyTransition.None = .MoveToRX)) := by
  obtain ⟨m, hm⟩ : ∃ m, run ⟨0, 0, 0, 0, fun _ => none⟩
      (Machine.new ⟨0, 0, 0, 0, fun _ => none⟩ [.disabled, .rx, .disabled]
        ⟨[true, true, true, true], [], [10, 10], [.ReadFrameAndMoveToTX], [.None], []⟩)
      [.setReceiveClient, .receiveAdvertisement, .handleInterrupt, .handleInterrupt] = some m :=
    ⟨_, rfl⟩
  have hkept := transition_kept_without_link_layer _ _ m _ (by simp) hm
  refine ⟨m, hm, ?_, ?_, hkept⟩
  · cases hm
    rfl
  · cases hm
    rfl

end NrfBle
