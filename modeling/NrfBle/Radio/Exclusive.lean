import NrfBle.Radio.Initialize

/-!
# The two timed turnarounds are never armed together

PPI channel `20` wires TIMER0's `COMPARE[0]` to `TXEN`, and channel `21` wires the same event to
`RXEN`. Were both enabled, one compare would start the radio in both directions. The driver
enables `20` only in `schedule_tx_after_t_ifs`, and `21` only in `schedule_rx_after_t_ifs`, each
after the other channel is off. `handle_rx_end_event` disables `21` first, and its `None` branch
disables both through `disable_radio`. `handle_tx_end_event` schedules the receive after
`setup_rx`, which disables `20`. So over every run from `Radio::new()` the two channels are never
enabled together (`turnarounds_exclusive`).

The property is of the set of enabled channels only, so every step that leaves the set alone
keeps it (`KeepsPpi`). Of the others, the disables keep it, and each turnaround is armed once the
handler has disabled the other channel: the walk of the handlers carries that guard to the
turnaround.
-/

namespace NrfBle

/-- Channels `20` and `21` are not both enabled. -/
def TurnaroundsExclusive (s : Finset ℕ) : Prop :=
  ¬ (20 ∈ s ∧ 21 ∈ s)

/-- A step keeps `J` of the enabled PPI channels: the channels it leaves satisfy `J` when those it
started from do. -/
def KeepsPpi (J : Finset ℕ → Prop) (m m' : Machine) : Prop :=
  J m.ppi → J m'.ppi

section

variable {J : Finset ℕ → Prop}

/-- Two steps that keep `J` of the enabled channels keep it together. -/
theorem keepsPpi_trans {m₁ m₂ m₃ : Machine} (h₁ : KeepsPpi J m₁ m₂) (h₂ : KeepsPpi J m₂ m₃) :
    KeepsPpi J m₁ m₃ :=
  fun h => h₂ (h₁ h)

/-- A step that leaves the enabled channels alone keeps every property of them. -/
theorem keepsPpi_of_eq {m m' : Machine} (h : m'.ppi = m.ppi) : KeepsPpi J m m' :=
  fun hJ => h ▸ hJ

/-- Every property of the enabled channels is kept by the reads and by the writes of
`TX_PAYLOAD`, and so by the waits, the loop of `handle_address_event`, the copy of the payload and
the clients' answers. -/
theorem keepsPpi_readFrame : ReadFrame (KeepsPpi J) :=
  .of_reads (fun _ => id) keepsPpi_trans (fun _ _ => keepsPpi_of_eq rfl)
    (fun _ _ => keepsPpi_of_eq rfl) fun _ _ => keepsPpi_of_eq rfl

/-- A write of the `Radio` fields leaves the enabled channels alone. -/
theorem keepsPpi_modifyRadio (f : RadioFields → RadioFields) :
    Moves (KeepsPpi J) (modifyRadio f) := by
  rintro m _ _ ⟨⟩
  exact keepsPpi_of_eq rfl

/-- A write of the registers leaves the enabled channels alone. -/
theorem keepsPpi_modifyRegs (f : Regs → Regs) : Moves (KeepsPpi J) (modifyRegs f) := by
  rintro m _ _ ⟨⟩
  exact keepsPpi_of_eq rfl

end

/-! ### The turnarounds stay exclusive -/

/-- Disabling channels keeps the turnarounds exclusive. -/
theorem turnaroundsExclusive_down {s t : Finset ℕ} (hts : t ⊆ s) (h : TurnaroundsExclusive s) :
    TurnaroundsExclusive t :=
  fun ⟨h20, h21⟩ => h ⟨hts h20, hts h21⟩

/-- Enabling the capture channels `26` and `27` keeps the turnarounds exclusive. -/
theorem turnaroundsExclusive_union_capture (s : Finset ℕ) (h : TurnaroundsExclusive s) :
    TurnaroundsExclusive (s ∪ {26, 27}) :=
  fun ⟨h20, h21⟩ => h ⟨by simpa using h20, by simpa using h21⟩

/-- `ble_initialize` enables at most the capture channels. -/
theorem keepsExclusive_bleInitialize : Moves (KeepsPpi TurnaroundsExclusive) bleInitialize := by
  intro m _ m' h
  rw [bleInitialize_apply, Option.some.injEq, Prod.mk.injEq] at h
  obtain ⟨-, rfl⟩ := h
  split_ifs
  · exact turnaroundsExclusive_union_capture m.ppi
  · exact id

/-- The handlers arm the transmit turnaround with channel `21` off and the receive turnaround with
channel `20` off, and their other steps enable no channel. -/
theorem keepsExclusive_walk (P : Platform) : Walk P (KeepsPpi TurnaroundsExclusive) := by
  have hR := keepsPpi_readFrame (J := TurnaroundsExclusive)
  refine { toReadFrame := hR,
           receiveStart := moves_answer (fun _ _ => keepsPpi_of_eq rfl) _ _,
           receiveEnd := moves_answer (fun _ _ => keepsPpi_of_eq rfl) _ _,
           scheduleTx := fun m _ m' h21 h _ => by
             obtain ⟨_, _, rfl⟩ := scheduleAfterTIfs_eq_some h
             exact fun ⟨_, h⟩ => h21 (by simpa using h),
           scheduleRx := fun m _ m' h20 h _ => by
             obtain ⟨_, _, rfl⟩ := scheduleAfterTIfs_eq_some h
             exact fun ⟨h, _⟩ => h20.2 (by simpa using h),
           tx := hR.tx ?setupTx ?txen, rx := hR.rx ?clear ?setupRx ?rxen,
           clearInterrupt := fun _ => ?_, disableAllInterrupts := ?clear, setShorts := fun _ => ?_,
           disablePpi21 := ?_, setDebugBit := ?_, setupTx := ?setupTx, setupRx := ?setupRx,
           disableRadio := ?_, enableEnd := ?_, moveToTx := ?_ }
  all_goals
    intro m
    first
      | rintro _ _ ⟨⟩
      | rintro _ _ _ ⟨⟩
    first
      | exact keepsPpi_of_eq rfl
      | exact turnaroundsExclusive_down Finset.sdiff_subset

/-- Every entry into the driver keeps the turnarounds exclusive. -/
theorem keepsExclusive_act (P : Platform) (op : Op) :
    Moves (KeepsPpi TurnaroundsExclusive) (op.act P) :=
  (keepsExclusive_walk P).act keepsExclusive_bleInitialize (keepsPpi_modifyRegs _) op <|
    keepsPpi_readFrame.setter (fun _ _ => keepsPpi_modifyRadio _)
      (fun _ _ => keepsPpi_modifyRegs _) op

/-- For every platform, every sequence of values of `STATE`, every answer of the hardware and the
clients, and every run from `Radio::new()`: PPI channels `20` (`COMPARE[0]` to `TXEN`) and `21`
(`COMPARE[0]` to `RXEN`) are not both enabled. -/
theorem turnarounds_exclusive (P : Platform) (hw : List HwState) (env : Env) (ops : List Op)
    (m : Machine) (hrun : run P (Machine.new P hw env) ops = some m) :
    ¬ (20 ∈ m.ppi ∧ 21 ∈ m.ppi) :=
  Moves.run P (keepsExclusive_act P) (fun _ => id) keepsPpi_trans ops hrun
    (by simp [Machine.new, TurnaroundsExclusive])

/-- The run of `respond_after_tifs_arms_disabled_radio`, which arms channel `20`. -/
theorem turnarounds_exclusive_respond_after_tifs :
    ∃ m, run ⟨0, 0, 0, 0, fun _ => none⟩ (Machine.new ⟨0, 0, 0, 0, fun _ => none⟩
        [.disabled, .rx, .disabled]
        ⟨[true, true, true, true], [1000], [10, 10], [.ReadFrameAndStayRX], [.None],
          [.RespondAfterTifs]⟩)
      [.setReceiveClient, .setAdvertisementClient, .receiveAdvertisement, .handleInterrupt,
        .handleInterrupt] = some m ∧ ¬ (20 ∈ m.ppi ∧ 21 ∈ m.ppi) := by
  obtain ⟨m, hm⟩ : ∃ m, run ⟨0, 0, 0, 0, fun _ => none⟩ (Machine.new ⟨0, 0, 0, 0, fun _ => none⟩
      [.disabled, .rx, .disabled]
      ⟨[true, true, true, true], [1000], [10, 10], [.ReadFrameAndStayRX], [.None],
        [.RespondAfterTifs]⟩)
      [.setReceiveClient, .setAdvertisementClient, .receiveAdvertisement, .handleInterrupt,
        .handleInterrupt] = some m := ⟨_, rfl⟩
  exact ⟨m, hm, turnarounds_exclusive _ _ _ _ m hm⟩

end NrfBle
