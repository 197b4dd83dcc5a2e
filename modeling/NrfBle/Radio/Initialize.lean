import NrfBle.Radio.Walk

/-!
# What `ble_initialize` writes stays written

`ble_initialize` configures the radio only when it finds it `Uninitialized`: it powers the radio
on, writes `TXPOWER` from the field `tx_power`, writes `TIFS` and the advertising `CRCINIT`, wires
the capture channels and sets the state to `Initialized`. Every call then starts TIMER0, with the
same prescaler and width each time, so a second call changes nothing (`bleInitialize_idempotent`).

No function of the driver sets the state back to `Uninitialized`, and none but `ble_initialize`
writes `POWER`, `TXPOWER` or `TIFS`. So from a machine that has left `Uninitialized`, every run
keeps the state out of `Uninitialized` and keeps these three registers
(`initialize_registers_kept`). In particular `set_tx_power` reaches the radio only before the
first initialization: it stores a valid power in `tx_power`, and a power stored after that is
never written to `TXPOWER`.

The proof is a `Walk` of a relation `KeepsInit`: every step of the handlers keeps it, and so do
`ble_initialize` and the setters.
-/

namespace NrfBle

/-- `ble_initialize` returns, and leaves the radio configured as its first branch does when it
finds the radio `Uninitialized`; then, on every call, TIMER0 runs at 1 MHz on 32 bits. -/
theorem bleInitialize_apply (m : Machine) :
    bleInitialize m = some ((),
      let m₁ := if m.radio.state = .Uninitialized then
          { m with
            radio := { m.radio with state := .Initialized }
            regs := { m.regs with
              power := 1, txpower := m.radio.txPower, tifs := 150, crcinit := radioCrcinitBle }
            ppi := m.ppi ∪ {26, 27} }
        else m
      { m₁ with timer := { m₁.timer with prescaler := 4, bitmode := 3, running := true } }) := by
  simp only [NrfBle.bleInitialize, bind_apply, get_apply, Option.some_bind]
  split_ifs <;> rfl

/-- For every machine: a second `ble_initialize` leaves the machine that the first one left, and
after one call from `Uninitialized` or `Initialized` the radio is `Initialized`. -/
theorem bleInitialize_idempotent (m m₁ : Machine) (h : bleInitialize m = some ((), m₁)) :
    bleInitialize m₁ = some ((), m₁) ∧
      (m.radio.state = .Uninitialized ∨ m.radio.state = .Initialized →
        m₁.radio.state = .Initialized) := by
  rw [bleInitialize_apply, Option.some.injEq, Prod.mk.injEq] at h
  obtain ⟨-, rfl⟩ := h
  by_cases hu : m.radio.state = .Uninitialized <;> simp [hu, bleInitialize_apply]

/-- The registers that only `ble_initialize` writes: `POWER`, `TXPOWER` and `TIFS`. -/
def InitRegs (r : Regs) : BitVec 32 × BitVec 32 × BitVec 32 :=
  (r.power, r.txpower, r.tifs)

/-- A step keeps the initialization: from a machine that has left `Uninitialized`, it leaves one
that has too, with the same `POWER`, `TXPOWER` and `TIFS`. -/
def KeepsInit (m m' : Machine) : Prop :=
  m.radio.state ≠ .Uninitialized →
    m'.radio.state ≠ .Uninitialized ∧ InitRegs m'.regs = InitRegs m.regs

/-- Two steps that keep the initialization keep it together. -/
theorem keepsInit_trans {m₁ m₂ m₃ : Machine} (h₁ : KeepsInit m₁ m₂) (h₂ : KeepsInit m₂ m₃) :
    KeepsInit m₁ m₃ := fun h =>
  have h₁₂ := h₁ h
  ⟨(h₂ h₁₂.1).1, (h₂ h₁₂.1).2.trans h₁₂.2⟩

/-- A step that keeps the state and the registers of `ble_initialize` keeps the
initialization. -/
theorem keepsInit_of_eq {m m' : Machine} (hstate : m'.radio.state = m.radio.state)
    (hregs : InitRegs m'.regs = InitRegs m.regs) : KeepsInit m m' :=
  fun h => ⟨hstate ▸ h, hregs⟩

/-- The initialization is kept by the reads and by the writes of `TX_PAYLOAD`, and so by the
waits, the loop of `handle_address_event`, the copy of the payload and the clients' answers. -/
theorem keepsInit_readFrame : ReadFrame KeepsInit :=
  .of_reads (fun _ h => ⟨h, rfl⟩) keepsInit_trans (fun _ _ => keepsInit_of_eq rfl rfl)
    (fun _ _ => keepsInit_of_eq rfl rfl) fun _ _ => keepsInit_of_eq rfl rfl

/-- A write of the `Radio` fields that never sets `Uninitialized` keeps the initialization. -/
theorem keepsInit_modifyRadio (f : RadioFields → RadioFields)
    (hf : ∀ r, r.state ≠ .Uninitialized → (f r).state ≠ .Uninitialized) :
    Moves KeepsInit (modifyRadio f) := by
  rintro m _ _ ⟨⟩ h
  exact ⟨hf m.radio h, rfl⟩

/-- A write of RADIO registers other than `POWER`, `TXPOWER` and `TIFS` keeps the
initialization. -/
theorem keepsInit_modifyRegs (f : Regs → Regs) (hf : ∀ r, InitRegs (f r) = InitRegs r) :
    Moves KeepsInit (modifyRegs f) := by
  rintro m _ _ ⟨⟩
  exact keepsInit_of_eq rfl (hf m.regs)

/-- `ble_initialize` keeps the initialization: once the radio has left `Uninitialized`, it only
starts TIMER0. -/
theorem keepsInit_bleInitialize : Moves KeepsInit bleInitialize := by
  intro m _ m' h hu
  rw [bleInitialize_apply, Option.some.injEq, Prod.mk.injEq] at h
  obtain ⟨-, rfl⟩ := h
  rw [if_neg hu]
  exact ⟨hu, rfl⟩

/-- The handlers write neither `POWER`, `TXPOWER` nor `TIFS`, and the states they set are
initialized. -/
theorem keepsInit_walk (P : Platform) : Walk P KeepsInit := by
  have hR := keepsInit_readFrame
  refine { toReadFrame := hR,
           receiveStart := moves_answer (fun _ _ => keepsInit_of_eq rfl rfl) _ _,
           receiveEnd := moves_answer (fun _ _ => keepsInit_of_eq rfl rfl) _ _,
           scheduleTx := fun m _ m' _ h => by
             obtain ⟨_, _, rfl⟩ := scheduleAfterTIfs_eq_some h
             exact keepsInit_of_eq rfl rfl,
           scheduleRx := fun m _ m' _ h => by
             obtain ⟨_, _, rfl⟩ := scheduleAfterTIfs_eq_some h
             exact keepsInit_of_eq rfl rfl,
           tx := hR.tx ?setupTx ?txen, rx := hR.rx ?clear ?setupRx ?rxen,
           clearInterrupt := fun _ => ?_, disableAllInterrupts := ?_, setShorts := fun _ => ?_,
           disablePpi21 := ?_, setDebugBit := ?_, setupTx := ?setupTx, setupRx := ?setupRx,
           disableRadio := ?_, enableEnd := ?_, moveToTx := ?_ }
  all_goals
    intro m
    first
      | rintro _ _ ⟨⟩
      | rintro _ _ _ ⟨⟩
    first
      | exact keepsInit_of_eq rfl rfl
      | exact fun _ => ⟨nofun, rfl⟩

section

variable (P : Platform)

/-- Every entry into the driver keeps the initialization: the setters write neither the state nor
`POWER`, `TXPOWER` or `TIFS`. -/
theorem keepsInit_act (op : Op) : Moves KeepsInit (op.act P) :=
  (keepsInit_walk P).act keepsInit_bleInitialize (keepsInit_modifyRegs _ fun _ => rfl) op <|
    keepsInit_readFrame.setter (fun f hf => keepsInit_modifyRadio f fun r h => by rwa [hf r])
      (fun f hf => keepsInit_modifyRegs f fun r => by
        simp only [InitRegs, (hf r).1, (hf r).2.1, (hf r).2.2.1]) op

end

/-- For every platform, every machine that has left `Uninitialized` and every run from it: the
radio never returns to `Uninitialized`, and `POWER`, `TXPOWER` and `TIFS` keep the values they
had, whatever `set_tx_power` stores in `tx_power` meanwhile. -/
theorem initialize_registers_kept (P : Platform) (m₀ m : Machine) (ops : List Op)
    (h₀ : m₀.radio.state ≠ .Uninitialized) (hrun : run P m₀ ops = some m) :
    m.radio.state ≠ .Uninitialized ∧ m.regs.power = m₀.regs.power ∧
      m.regs.txpower = m₀.regs.txpower ∧ m.regs.tifs = m₀.regs.tifs := by
  obtain ⟨hstate, hregs⟩ :=
    Moves.run P (keepsInit_act P) (fun _ h => ⟨h, rfl⟩) keepsInit_trans ops hrun h₀
  simp only [InitRegs, Prod.mk.injEq] at hregs
  exact ⟨hstate, hregs⟩

/-- A power of `1` set and an advertisement sent from `Radio::new()`, then a power of `2` set and
another advertisement sent: `tx_power` holds `2`, and `TXPOWER` still holds `1`. -/
theorem initialize_registers_kept_late_power :
    ∃ m₀ m, run ⟨0, 0, 0, 0, fun p => some (BitVec.ofNat 32 p.toNat)⟩
        (Machine.new ⟨0, 0, 0, 0, fun p => some (BitVec.ofNat 32 p.toNat)⟩
          [.disabled, .disabled] ⟨[], [], [], [], [], []⟩)
        [.setTxPower 1, .transmitAdvertisement [] 0] = some m₀ ∧
      m₀.radio.state ≠ .Uninitialized ∧
      run ⟨0, 0, 0, 0, fun p => some (BitVec.ofNat 32 p.toNat)⟩ m₀
        [.setTxPower 2, .transmitAdvertisement [] 0] = some m ∧
      m.radio.txPower = 2 ∧ m.regs.txpower = 1 ∧
      (m.radio.state ≠ .Uninitialized ∧ m.regs.power = m₀.regs.power ∧
        m.regs.txpower = m₀.regs.txpower ∧ m.regs.tifs = m₀.regs.tifs) := by
  obtain ⟨m₀, hm₀⟩ : ∃ m₀, run ⟨0, 0, 0, 0, fun p => some (BitVec.ofNat 32 p.toNat)⟩
      (Machine.new ⟨0, 0, 0, 0, fun p => some (BitVec.ofNat 32 p.toNat)⟩
        [.disabled, .disabled] ⟨[], [], [], [], [], []⟩)
      [.setTxPower 1, .transmitAdvertisement [] 0] = some m₀ := ⟨_, rfl⟩
  have h₀ : m₀.radio.state ≠ .Uninitialized := by
    cases hm₀
    nofun
  obtain ⟨m, hm⟩ : ∃ m, run ⟨0, 0, 0, 0, fun p => some (BitVec.ofNat 32 p.toNat)⟩ m₀
      [.setTxPower 2, .transmitAdvertisement [] 0] = some m := by
    cases hm₀
    exact ⟨_, rfl⟩
  have hkept := initialize_registers_kept _ m₀ m _ h₀ hm
  refine ⟨m₀, m, hm₀, h₀, hm, ?_, ?_, hkept⟩
  · cases hm₀
    cases hm
    rfl
  · rw [hkept.2.2.1]
    cases hm₀
    rfl

end NrfBle
