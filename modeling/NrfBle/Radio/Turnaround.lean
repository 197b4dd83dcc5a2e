import NrfBle.Radio.Driver

/-!
# The turnarounds and the frame length

Both turnarounds compute `CC[0] = CC[2] + BLE_T_IFS - d₁ - d₂ - d₃` in `u32`: the transmit one with
the delays `7`, `40` and `3`, the receive one with `3`, `40` and `2` (§4 of the spec). The delays
sum to at most `BLE_T_IFS`, so the subtractions never go below zero, and the sum is exact below
`2^32 - 150`: there `CC[0]` is `CC[2] + 100` and `CC[2] + 105` (`scheduleAfterTIfs_cc0`). From
`2^32 - 150` on, the first addition overflows, which panics. The frame length `RX_PAYLOAD[1] + 2`
given to the receive client is a `u8` sum, which overflows for a length byte of `254` or `255`
(`frameLength_apply`). Both are reached from `Radio::new()` (`turnaround_overflow_panics`).

The answer `RespondAfterTifs` of the advertisement client, after a frame that ends with
`PhyTransition::None`, schedules the transmit turnaround after `disable_radio`: channel `20` is
armed while the radio is `Initialized`, with no shortcut and the receive buffer in `PACKETPTR`
(`respond_after_tifs_arms_disabled_radio`).
-/

namespace NrfBle

/-- A subtraction that does not go below zero, from a value in range. -/
theorem checkedSub_ofNat {a : ℕ} {b : BitVec 32} (ha : a < 2 ^ 32) (hb : b.toNat ≤ a) :
    checkedSub (BitVec.ofNat 32 a) b = some (BitVec.ofNat 32 (a - b.toNat)) := by
  rw [checkedSub_eq_some]
  simp only [BitVec.toNat_ofNat, Nat.mod_eq_of_lt ha]
  exact ⟨hb, Nat.mod_eq_of_lt (by omega)⟩

/-- The turnaround's `u32` arithmetic: exact below `2^32 - 150`, and a panic from there on. -/
theorem turnaroundTime_eq {d₁ d₂ d₃ : BitVec 32} (hd : d₁.toNat + d₂.toNat + d₃.toNat ≤ 150)
    (T : BitVec 32) :
    (checkedAdd T bleTIfs >>= fun t => checkedSub t d₁ >>= fun t => checkedSub t d₂ >>=
      fun t => checkedSub t d₃) =
    if T.toNat < 2 ^ 32 - 150 then
      some (BitVec.ofNat 32 (T.toNat + 150 - d₁.toNat - d₂.toNat - d₃.toNat))
    else none := by
  have hT150 : bleTIfs.toNat = 150 := rfl
  split_ifs with hT
  · have hadd : checkedAdd T bleTIfs = some (BitVec.ofNat 32 (T.toNat + 150)) :=
      checkedAdd_eq_some.mpr ⟨by omega, by simp only [BitVec.toNat_ofNat]; omega⟩
    simp only [hadd, Option.bind_eq_bind, Option.some_bind,
      checkedSub_ofNat (show T.toNat + 150 < 2 ^ 32 by omega)
        (show d₁.toNat ≤ T.toNat + 150 by omega),
      checkedSub_ofNat (show T.toNat + 150 - d₁.toNat < 2 ^ 32 by omega)
        (show d₂.toNat ≤ T.toNat + 150 - d₁.toNat by omega),
      checkedSub_ofNat (show T.toNat + 150 - d₁.toNat - d₂.toNat < 2 ^ 32 by omega)
        (show d₃.toNat ≤ T.toNat + 150 - d₁.toNat - d₂.toNat by omega)]
  · have hadd : checkedAdd T bleTIfs = none := by
      simp only [checkedAdd, hT150]
      rw [if_neg (by omega)]
    simp only [hadd, Option.bind_eq_bind, Option.none_bind]

/-- A turnaround whose delays sum to at most `BLE_T_IFS`, on a captured end `T`: below
`2^32 - 150` it consumes `T`, sets `CC[0]` to `T + 150` less the delays and enables channel `ch`;
from there on it panics. -/
theorem scheduleAfterTIfs_apply {d₁ d₂ d₃ : BitVec 32} (ch : ℕ)
    (hd : d₁.toNat + d₂.toNat + d₃.toNat ≤ 150) {m : Machine} {T : BitVec 32}
    {rest : List (BitVec 32)} (hcc : m.env.cc2 = T :: rest) :
    scheduleAfterTIfs d₁ d₂ d₃ ch m =
      if T.toNat < 2 ^ 32 - 150 then
        some ((), { m with
          env := { m.env with cc2 := rest }
          timer := { m.timer with
            cc0 := BitVec.ofNat 32 (T.toNat + 150 - d₁.toNat - d₂.toNat - d₃.toNat) }
          ppi := m.ppi ∪ {ch} })
      else none := by
  simp only [scheduleAfterTIfs, readCc2, answer, hcc, bind_apply, Option.some_bind, ofOption_apply]
  rw [turnaroundTime_eq hd]
  split_ifs <;> rfl

/-- For every machine whose captured end `CC[2]` is `T`: below `2^32 - 150`,
`schedule_tx_after_t_ifs` sets `CC[0]` to `T + 100` and enables channel `20`, and
`schedule_rx_after_t_ifs` sets `CC[0]` to `T + 105` and enables channel `21`, with nothing else
changed but the capture read; from `2^32 - 150` on, both panic. -/
theorem scheduleAfterTIfs_cc0 (m : Machine) (T : BitVec 32) (rest : List (BitVec 32))
    (hcc : m.env.cc2 = T :: rest) :
    scheduleTxAfterTIfs m =
      (if T.toNat < 2 ^ 32 - 150 then
        some ((), { m with
          env := { m.env with cc2 := rest }
          timer := { m.timer with cc0 := BitVec.ofNat 32 (T.toNat + 100) }
          ppi := m.ppi ∪ {20} })
      else none) ∧
    scheduleRxAfterTIfs m =
      if T.toNat < 2 ^ 32 - 150 then
        some ((), { m with
          env := { m.env with cc2 := rest }
          timer := { m.timer with cc0 := BitVec.ofNat 32 (T.toNat + 105) }
          ppi := m.ppi ∪ {21} })
      else none := by
  constructor
  · rw [scheduleTxAfterTIfs, scheduleAfterTIfs_apply 20 (by decide) hcc]
    rfl
  · rw [scheduleRxAfterTIfs, scheduleAfterTIfs_apply 21 (by decide) hcc]
    rfl

/-- The spec's timing example, `CC[2] = 1000`: `CC[0]` is `1100` for a transmit and `1105` for
a receive. -/
example :
    (scheduleTxAfterTIfs (Machine.new ⟨0, 0, 0, 0, fun _ => none⟩ []
        ⟨[], [1000], [], [], [], []⟩)).map (·.2.timer.cc0) = some 1100 ∧
    (scheduleRxAfterTIfs (Machine.new ⟨0, 0, 0, 0, fun _ => none⟩ []
        ⟨[], [1000], [], [], [], []⟩)).map (·.2.timer.cc0) = some 1105 := by
  obtain ⟨htx, hrx⟩ := scheduleAfterTIfs_cc0 (Machine.new ⟨0, 0, 0, 0, fun _ => none⟩ []
    ⟨[], [1000], [], [], [], []⟩) 1000 [] rfl
  rw [htx, hrx]
  exact ⟨rfl, rfl⟩

/-- For every machine whose next length byte is `L`: below `254` the frame length is `L + 2`,
and from `254` on its `u8` sum panics. -/
theorem frameLength_apply (m : Machine) (L : BitVec 8) (rest : List (BitVec 8))
    (hl : m.env.lengths = L :: rest) :
    frameLength m = if L.toNat < 254 then
      some (BitVec.ofNat 8 (L.toNat + 2), { m with env := { m.env with lengths := rest } })
    else none := by
  simp only [frameLength, readLength, answer, hl, bind_apply, Option.some_bind, ofOption_apply,
    checkedAdd]
  have h2 : (2 : BitVec 8).toNat = 2 := rfl
  by_cases h : L.toNat < 254
  · rw [if_pos (by rw [h2]; omega), if_pos h]
    simp only [Option.map_some', Option.some.injEq, Prod.mk.injEq, and_true]
    exact BitVec.eq_of_toNat_eq (by simp)
  · rw [if_neg (by rw [h2]; omega), if_neg h]
    rfl

/-- The frame length of the spec's scenario, a length byte of `10`, is `12`. -/
example :
    frameLength (Machine.new ⟨0, 0, 0, 0, fun _ => none⟩ [] ⟨[], [], [10], [], [], []⟩) =
      some (12, Machine.new ⟨0, 0, 0, 0, fun _ => none⟩ [] ⟨[], [], [], [], [], []⟩) := by
  rw [frameLength_apply _ 10 [] rfl]
  rfl

/-- For every platform: from `Radio::new()`, with receive and advertisement clients, a received
frame whose `CC[2]` capture is `2^32 - 1` panics when the client answers `RespondAfterTifs`, and a
frame whose length byte is `254` panics on its address event. -/
theorem turnaround_overflow_panics (P : Platform) :
    run P (Machine.new P [.disabled, .rx, .disabled]
        ⟨[true, true, true, true], [0xFFFFFFFF], [10, 10], [.ReadFrameAndStayRX], [.None],
          [.RespondAfterTifs]⟩)
      [.setReceiveClient, .setAdvertisementClient, .receiveAdvertisement, .handleInterrupt,
        .handleInterrupt] = none ∧
    run P (Machine.new P [.disabled, .rx] ⟨[true, true], [], [254], [.ReadFrameAndStayRX], [], []⟩)
      [.setReceiveClient, .receiveAdvertisement, .handleInterrupt] = none :=
  ⟨rfl, rfl⟩

/-- For every platform: from `Radio::new()`, with receive and advertisement clients, a frame
received with `ReadFrameAndStayRX`, ended with `PhyTransition::None` and answered
`RespondAfterTifs` leaves channel `20` enabled while the radio is `Initialized` with no
shortcut. -/
theorem respond_after_tifs_arms_disabled_radio (P : Platform) :
    ∃ m, run P (Machine.new P [.disabled, .rx, .disabled]
        ⟨[true, true, true, true], [1000], [10, 10], [.ReadFrameAndStayRX], [.None],
          [.RespondAfterTifs]⟩)
      [.setReceiveClient, .setAdvertisementClient, .receiveAdvertisement, .handleInterrupt,
        .handleInterrupt] = some m ∧
    20 ∈ m.ppi ∧ m.radio.state = .Initialized ∧ m.regs.shorts = ∅ :=
  ⟨_, rfl, by simp, rfl, rfl⟩

end NrfBle
