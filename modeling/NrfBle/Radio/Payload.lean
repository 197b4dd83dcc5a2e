import NrfBle.Radio.Enable

/-!
# The transmit payload

`replace_radio_buffer` copies `buf[0..len]` into `TX_PAYLOAD` byte by byte. The slice panics
when `len` exceeds the caller's buffer, and the writes panic past the end of `TX_PAYLOAD`, so the
copy returns exactly when `len` fits both. It then leaves `buf[0..len]` at the start of
`TX_PAYLOAD` and the rest of the payload as it was (`replaceRadioBuffer_apply`). The loop is
proved from its index `i` on (`writeTxPayload_apply`).

`transmit_advertisement` copies the buffer this way, configures the radio for `TX` with
`PACKETPTR` at `TX_PAYLOAD`, and triggers `TXEN` last (`transmit_advertisement_sends_buffer`): the
radio transmits the caller's bytes.
-/

namespace NrfBle

/-- Writing `c` at `i` within the buffer and then `cs` from `i + 1` on writes `c :: cs` from `i`
on. -/
theorem set_then_write (l cs : List (BitVec 8)) {i : ℕ} (c : BitVec 8) (h : i < l.length) :
    (l.set i c).take (i + 1) ++ cs ++ (l.set i c).drop (i + 1 + cs.length) =
      l.take i ++ (c :: cs) ++ l.drop (i + (cs.length + 1)) := by
  rw [List.drop_set_of_lt _ _ (by omega), List.set_eq_take_append_cons_drop, if_pos h]
  simp [List.take_append_eq_append_take, Nat.add_comm, Nat.add_left_comm, Nat.add_assoc, h.le]

/-- The copy loop from index `i`: when `bytes` fit from `i` on, it writes them over `TX_PAYLOAD`
there; otherwise it panics. -/
theorem writeTxPayload_apply (bytes : List (BitVec 8)) :
    ∀ (i : ℕ) (m : Machine), i ≤ m.txPayload.length →
      writeTxPayload i bytes m =
        if i + bytes.length ≤ m.txPayload.length then
          some ((), { m with
            txPayload := m.txPayload.take i ++ bytes ++ m.txPayload.drop (i + bytes.length) })
        else none := by
  induction bytes with
  | nil =>
    intro i m hi
    simp [writeTxPayload, hi]
  | cons c cs ih =>
    intro i m hi
    simp only [writeTxPayload, bind_apply, setTxPayload]
    by_cases hlt : i < m.txPayload.length
    · rw [if_pos hlt, Option.some_bind, ih (i + 1) _ (by simpa using hlt)]
      simp only [List.length_set, List.length_cons, set_then_write _ _ _ hlt]
      rw [show i + 1 + cs.length = i + (cs.length + 1) by omega]
    · rw [if_neg hlt, if_neg (by simp; omega)]
      rfl

/-- `replace_radio_buffer(buf, len)` returns `buf` exactly when `len` fits both `buf` and
`TX_PAYLOAD`, and then `TX_PAYLOAD` starts with `buf[0..len]` and keeps its other bytes. -/
theorem replaceRadioBuffer_apply (buf : List (BitVec 8)) (len : ℕ) (m : Machine) :
    replaceRadioBuffer buf len m =
      if len ≤ buf.length ∧ len ≤ m.txPayload.length then
        some (buf, { m with txPayload := buf.take len ++ m.txPayload.drop len })
      else none := by
  unfold replaceRadioBuffer
  by_cases hbuf : buf.length < len
  · rw [if_pos hbuf, if_neg fun h => Nat.not_le_of_lt hbuf h.1]
    rfl
  · have hle : len ≤ buf.length := Nat.le_of_not_lt hbuf
    simp only [hbuf, if_false, bind_apply, pure_apply, Option.some_bind,
      writeTxPayload_apply _ 0 m (Nat.zero_le _), List.length_take, Nat.min_eq_left hle,
      Nat.zero_add, List.take_zero, List.nil_append, hle, true_and]
    split_ifs <;> rfl

/-- `ble_initialize` leaves `TX_PAYLOAD` alone. -/
theorem bleInitialize_txPayload {m m' : Machine} {a : Unit} (h : bleInitialize m = some (a, m')) :
    m'.txPayload = m.txPayload := by
  obtain ⟨_, _, ⟨⟩, h₁⟩ := bind_apply_eq_some.mp h
  split at h₁ <;> cases h₁ <;> rfl

/-- For every platform, buffer, length and machine: whenever `transmit_advertisement(buf, len)`
returns, it returns `buf`, `len` fits `buf`, `TX_PAYLOAD` starts with `buf[0..len]` and keeps its
other bytes, the radio is in `TX` with `PACKETPTR` at `TX_PAYLOAD`, and the last task triggered is
`TXEN`, after the last read of `STATE`. -/
theorem transmit_advertisement_sends_buffer (P : Platform) (buf : List (BitVec 8)) (len : ℕ)
    (m m' : Machine) (res : List (BitVec 8))
    (h : BleAdvertisementDriver.transmitAdvertisement P buf len m = some (res, m')) :
    res = buf ∧ len ≤ buf.length ∧ m'.txPayload = buf.take len ++ m.txPayload.drop len ∧
      m'.regs.packetptr = P.txPayload ∧ m'.radio.state = .TX ∧
      m'.tasks.head? = some (.txen, m'.stateReads) := by
  obtain ⟨_, m₁, hinit, h₁⟩ := bind_apply_eq_some.mp h
  obtain ⟨res', m₂, hset, h₂⟩ := bind_apply_eq_some.mp h₁
  obtain ⟨_, m₃, htx, ⟨⟩⟩ := bind_apply_eq_some.mp h₂
  rw [BleAdvertisementDriver.setAdvertisementData, replaceRadioBuffer_apply] at hset
  split_ifs at hset with hlen
  cases hset
  obtain ⟨_, m₄, hwait, h₄⟩ := bind_apply_eq_some.mp htx
  rw [waitUntilDisabled_cursor hwait] at h₄
  simp only [setupTx, setDmaPtrTx, setState, setShorts, enableInterrupt, bind_apply,
    modifyRegs_apply, modifyRadio_apply, trigger_apply, Option.some_bind, Option.some.injEq,
    Prod.mk.injEq] at h₄
  rw [← h₄.2, ← bleInitialize_txPayload hinit]
  exact ⟨rfl, hlen.1, rfl, rfl, rfl, rfl⟩

/-- Two bytes sent from `Radio::new()`, with `STATE` reading `DISABLED`, into a payload buffer of
four bytes. -/
theorem transmit_advertisement_sends_buffer_two :
    ∃ m', BleAdvertisementDriver.transmitAdvertisement ⟨1, 2, 4, 0, fun _ => none⟩ [7, 9] 2
        (Machine.new ⟨1, 2, 4, 0, fun _ => none⟩ [.disabled] ⟨[], [], [], [], [], []⟩) =
        some ([7, 9], m') ∧
      ([7, 9] : List (BitVec 8)) = [7, 9] ∧ 2 ≤ [(7 : BitVec 8), 9].length ∧
      m'.txPayload = [7, 9].take 2 ++ (List.replicate 4 (0 : BitVec 8)).drop 2 ∧
      m'.regs.packetptr = 1 ∧
      m'.radio.state = .TX ∧ m'.tasks.head? = some (.txen, m'.stateReads) := by
  obtain ⟨m', hm'⟩ : ∃ m', BleAdvertisementDriver.transmitAdvertisement
      ⟨1, 2, 4, 0, fun _ => none⟩ [7, 9] 2
      (Machine.new ⟨1, 2, 4, 0, fun _ => none⟩ [.disabled] ⟨[], [], [], [], [], []⟩) =
      some ([7, 9], m') := ⟨_, rfl⟩
  exact ⟨m', hm', transmit_advertisement_sends_buffer _ _ _ _ m' _ hm'⟩

end NrfBle
