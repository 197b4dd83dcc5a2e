import NrfBle.Radio.Walk
import NrfBle.Radio.Initialize
import Mathlib.Data.List.Chain

/-!
# What `wait_until_disabled` waits for

`tx` and `rx` call `wait_until_disabled` before they trigger `TXEN` and `RXEN`. It reads `STATE`
once, and spins only while that first value, `RXDISABLE` or `TXDISABLE`, is read again: it waits
out a disable that is in progress, and does not wait at all when the radio is receiving,
transmitting, ramping up or idle. So the read just before each trigger is never a disabling state,
when the hardware never reads one disabling state right after the other (`NoDisableSwitch`), but it
need not be `DISABLED`: a `transmit_advertisement` while the radio receives triggers `TXEN` right
after `STATE` read `RX` (`tx_after_rx_read`).

`waitUntilDisabled_apply` gives its exact result. The model runs the loop with as many passes as
there are values of `STATE`, and the wait returns whenever the hardware leaves the disabling
state within them, so the fuel never cuts a wait short. The other busy-wait, the wait of
`handle_address_event` for `BCMATCH`, gets the same treatment (`address_wait_apply`): each pass
reads `STATE` and then `BCMATCH`, and the wait ends at the first pass where `BCMATCH` is set or,
failing that, `STATE` read `DISABLED`.

`enable_after_settled_read` proves the first statement for every run from `Radio::new()`,
through the task log: the relation `EnablesSettled` between machines is moved along by every
primitive step, and by `tx` and `rx` through the spec of `wait_until_disabled`
(`waitUntilDisabled_settled`).

`tx` also never clears an interrupt, unlike `rx`, which clears them all first: a transmit while a
receive is armed leaves `ADDRESS` enabled in `TX` (`tx_keeps_address_interrupt`), while a
`receive_advertisement` always starts from `ADDRESS` alone, whatever was enabled before
(`receive_advertisement_listens`).
-/

namespace NrfBle

/-- The hardware never reads one disabling state right after the other: `RXDISABLE` is never
followed by `TXDISABLE`, nor `TXDISABLE` by `RXDISABLE`. -/
def NoDisableSwitch (hw : List HwState) : Prop :=
  hw.Chain' fun s s' => (s = .rxDisable → s' ≠ .txDisable) ∧ (s = .txDisable → s' ≠ .rxDisable)

/-- The read after a disabling state is the same state or one that is not disabling. -/
theorem NoDisableSwitch.next : ∀ {hw : List HwState} {q : ℕ} {s s' : HwState},
    NoDisableSwitch hw → hw[q]? = some s → hw[q + 1]? = some s' →
    s = .rxDisable ∨ s = .txDisable → s' = s ∨ s' ≠ .rxDisable ∧ s' ≠ .txDisable
  | _ :: _ :: _, 0, _, _, h, hs, hs' => by
    simp only [List.getElem?_cons_zero, List.getElem?_cons_succ, Option.some.injEq] at hs hs'
    subst hs hs'
    obtain ⟨hrx, htx⟩ := (List.chain'_cons.mp h).1
    rintro (rfl | rfl)
    · exact (em _).imp_right fun h => ⟨h, hrx rfl⟩
    · exact (em _).imp_right fun h => ⟨htx rfl, h⟩
  | _ :: _ :: _, q + 1, _, _, h, hs, hs' => by
    rw [List.getElem?_cons_succ] at hs hs'
    exact NoDisableSwitch.next (List.chain'_cons.mp h).2 hs hs'
  | [_], q + 1, _, _, _, hs, _ => by simp at hs
  | [_], 0, _, _, _, _, hs' => by simp at hs'

/-- The loop of `wait_until_disabled` moves only the cursor of `STATE`. -/
theorem spinWhile_cursor (state : HwState) : ∀ fuel {m m' : Machine} {a : Unit},
    spinWhile state fuel m = some (a, m') → m' = { m with stateReads := m'.stateReads }
  | 0, _, _, _, h => nomatch h
  | fuel + 1, m, m', a, h => by
    obtain ⟨r, m₁, hr, h₁⟩ := bind_apply_eq_some.mp h
    obtain ⟨-, rfl⟩ := readState_eq_some.mp hr
    split at h₁
    · exact (spinWhile_cursor state fuel h₁).trans rfl
    · cases h₁
      rfl

/-- `wait_until_disabled` moves only the cursor of `STATE`. -/
theorem waitUntilDisabled_cursor {m m' : Machine} {a : Unit}
    (h : waitUntilDisabled m = some (a, m')) : m' = { m with stateReads := m'.stateReads } := by
  obtain ⟨r, m₁, hr, h₁⟩ := bind_apply_eq_some.mp h
  obtain ⟨-, rfl⟩ := readState_eq_some.mp hr
  split at h₁
  · split at h₁
    · obtain ⟨_, _, ⟨⟩, h₂⟩ := bind_apply_eq_some.mp h₁
      exact (spinWhile_cursor r _ h₂).trans rfl
    · cases h₁
      rfl
  · cases h₁
    rfl

/-- The loop of `wait_until_disabled`, with fuel enough for the rest of the sequence of `STATE`
values: it returns right after the first read that differs from `state`, and panics only when no
later read differs. -/
theorem spinWhile_apply (state : HwState) : ∀ (fuel : ℕ) (m : Machine),
    m.hwStates.length ≤ m.stateReads + fuel →
    spinWhile state fuel m =
      ((m.hwStates.drop m.stateReads).findIdx? (· != state) m.stateReads).map
        fun j => ((), { m with stateReads := j + 1 })
  | 0, m, h => by
    rw [List.drop_eq_nil_of_le (by omega)]
    rfl
  | fuel + 1, m, h => by
    simp only [spinWhile, bind_apply, readState]
    cases hr : m.hwStates[m.stateReads]? with
    | none =>
      have hle : m.hwStates.length ≤ m.stateReads := List.getElem?_eq_none_iff.mp hr
      simp [List.drop_eq_nil_of_le hle]
    | some r =>
      obtain ⟨hk, hget⟩ := List.getElem?_eq_some_iff.mp hr
      rw [List.drop_eq_getElem_cons hk, hget]
      by_cases hrs : r = state
      · simp only [Option.map_some', Option.some_bind, hrs, if_true, List.findIdx?_cons,
          bne_self_eq_false, Bool.false_eq_true, if_false]
        rw [spinWhile_apply state fuel _ (by simp only; omega)]
      · simp [hrs]

/-- For every machine: `wait_until_disabled` reads `STATE` once, and on `RXDISABLE` or
`TXDISABLE` returns exactly when a later read differs, right after the first such read (whose
index is `j`); on any other value it returns after the one read. It panics only when the
sequence of `STATE` values runs out first: the fuel of the loop never cuts a wait short. -/
theorem waitUntilDisabled_apply (m : Machine) :
    waitUntilDisabled m =
      match m.hwStates[m.stateReads]? with
      | none => none
      | some s =>
        if s = .rxDisable ∨ s = .txDisable then
          ((m.hwStates.drop (m.stateReads + 1)).findIdx? (· != s) (m.stateReads + 1)).map
            fun j => ((), { m with stateReads := j + 1 })
        else some ((), { m with stateReads := m.stateReads + 1 }) := by
  simp only [waitUntilDisabled, bind_apply, readState]
  cases m.hwStates[m.stateReads]? with
  | none => rfl
  | some s =>
    simp only [Option.map_some', Option.some_bind]
    by_cases hdis : s = .rxDisable ∨ s = .txDisable
    · have hne : s ≠ .disabled := by rcases hdis with rfl | rfl <;> decide
      rw [if_pos hne, if_pos hdis, if_pos hdis]
      exact spinWhile_apply s _ _ (by simp only; omega)
    · rw [if_neg hdis]
      split_ifs <;> rfl

/-! ### The wait for `BCMATCH` -/

/-- The loop of `handle_address_event`, with fuel enough for the rest of the sequence of `STATE`
values: its pass `k` reads the `k`-th remaining `STATE` value and event flag. -/
theorem addressLoop_apply : ∀ (fuel : ℕ) (m : Machine), m.hwStates.length ≤ m.stateReads + fuel →
    addressLoop fuel m =
      (((m.hwStates.drop m.stateReads).zip m.env.events).findIdx?
        fun p => p.2 || p.1 == .disabled).map
        fun k => (m.env.events.getD k false,
          { m with stateReads := m.stateReads + k + 1,
                   env := { m.env with events := m.env.events.drop (k + 1) } })
  | 0, m, h => by
    rw [List.drop_eq_nil_of_le (by omega)]
    rfl
  | fuel + 1, m, h => by
    simp only [addressLoop, bind_apply, readState, readEvent]
    cases hr : m.hwStates[m.stateReads]? with
    | none =>
      have hle : m.hwStates.length ≤ m.stateReads := List.getElem?_eq_none_iff.mp hr
      simp [List.drop_eq_nil_of_le hle]
    | some s =>
      obtain ⟨hk, hget⟩ := List.getElem?_eq_some_iff.mp hr
      rw [List.drop_eq_getElem_cons hk, hget]
      cases he : m.env.events with
      | nil => simp [answer, he]
      | cons e es =>
        simp only [Option.map_some', Option.some_bind, answer, he, List.zip_cons_cons,
          List.findIdx?_cons]
        by_cases hb : e = true
        · simp [hb]
        · by_cases hs : s = .disabled
          · simp [hb, hs]
          · -- Neither: one more pass, from the next `STATE` value and flag.
            simp only [hb, hs, Bool.false_or, beq_iff_eq, decide_False, Bool.false_eq_true,
              if_false]
            rw [addressLoop_apply fuel _ (by simp only; omega), List.findIdx?_succ, Option.map_map]
            congr 1
            funext k
            simp only [Function.comp_apply, he, List.getD_cons_succ, List.drop_succ_cons,
              Prod.mk.injEq, true_and]
            congr 1
            omega

/-- For every machine: the wait of `handle_address_event` for `BCMATCH`, with the passes it is
given, pairs the remaining `STATE` values with the remaining event flags, one of each per pass,
and ends at the first pass whose flag is set, returning `true`, or else whose `STATE` is
`DISABLED`, returning `false` (a set flag wins when both happen in one pass), having made exactly
the reads of the passes up to it. It panics only when the hardware's answers run out first: the
fuel never cuts the wait short. -/
theorem address_wait_apply (m : Machine) :
    addressLoop m.hwStates.length m =
      (((m.hwStates.drop m.stateReads).zip m.env.events).findIdx?
        fun p => p.2 || p.1 == .disabled).map
        fun k => (m.env.events.getD k false,
          { m with stateReads := m.stateReads + k + 1,
                   env := { m.env with events := m.env.events.drop (k + 1) } }) :=
  addressLoop_apply _ m (Nat.le_add_left _ _)

/-! ### The task log -/

/-- `tx` clears no interrupt: it enables `DISABLED` over those enabled, and enters `TX`. -/
theorem tx_inten (P : Platform) {m m' : Machine} {a : Unit} (h : tx P m = some (a, m')) :
    m'.regs.inten = m.regs.inten ∪ {.disabled} ∧ m'.radio.state = .TX := by
  obtain ⟨_, m₁, hwait, h₁⟩ := bind_apply_eq_some.mp h
  rw [waitUntilDisabled_cursor hwait] at h₁
  simp only [setupTx, setDmaPtrTx, setState, setShorts, enableInterrupt, bind_apply,
    modifyRegs_apply, modifyRadio_apply, trigger_apply, Option.some_bind, Option.some.injEq,
    Prod.mk.injEq] at h₁
  rw [← h₁.2]
  exact ⟨rfl, rfl⟩

/-- For every platform: from `Radio::new()`, with `STATE` reading `DISABLED` twice, a
`receive_advertisement` and then a `transmit_advertisement` leave the radio in `TX` with the
`ADDRESS` interrupt enabled. -/
theorem tx_keeps_address_interrupt (P : Platform) :
    ∃ m, run P (Machine.new P [.disabled, .disabled] ⟨[], [], [], [], [], []⟩)
        [.receiveAdvertisement, .transmitAdvertisement [] 0] = some m ∧
      m.radio.state = .TX ∧ Interrupt.address ∈ m.regs.inten :=
  ⟨_, rfl, rfl, by simp⟩

/-- `rx` waits, clears every interrupt, sets up the reception with `ADDRESS` alone enabled and PPI
channel `20` disabled, and triggers `RXEN` after its last read of `STATE`. -/
theorem rx_eq_some (P : Platform) {m m' : Machine} {a : Unit} (h : rx P m = some (a, m')) :
    m' = { m with
      stateReads := m'.stateReads
      radio := { m.radio with state := .RX }
      regs := { m.regs with
        inten := {.address}, packetptr := P.rxPayload, bcc := 8,
        shorts := {.endDisable, .readyStart, .addressBcstart} }
      ppi := m.ppi \ {20}
      tasks := (.rxen, m'.stateReads) :: m.tasks } := by
  obtain ⟨_, m₁, hwait, h₁⟩ := bind_apply_eq_some.mp h
  rw [waitUntilDisabled_cursor hwait] at h₁
  simp only [disableAllInterrupts, setupRx, setDmaPtrRx, setState, setShorts, enableInterrupt,
    bind_apply, modifyRegs_apply, modifyRadio_apply, disablePpi_apply, trigger_apply,
    Option.some_bind, Option.some.injEq, Prod.mk.injEq] at h₁
  rw [← h₁.2, Finset.empty_union]

/-- For every platform and machine, whenever `receive_advertisement` returns, the radio listens:
it is in `RX` with `ADDRESS` the only interrupt enabled, whatever was enabled before, the shorts
`END_DISABLE`, `READY_START` and `ADDRESS_BCSTART` set, `BCC = 8`, `PACKETPTR` at `RX_PAYLOAD`, the
transmit turnaround (PPI channel `20`) disarmed, `RXEN` the last task triggered, after the last
read of `STATE`, and TIMER0 running. -/
theorem receive_advertisement_listens (P : Platform) {m m' : Machine} {a : Unit}
    (h : BleAdvertisementDriver.receiveAdvertisement P m = some (a, m')) :
    m'.radio.state = .RX ∧ m'.regs.inten = {.address} ∧
      m'.regs.shorts = {.endDisable, .readyStart, .addressBcstart} ∧ m'.regs.bcc = 8 ∧
      m'.regs.packetptr = P.rxPayload ∧ 20 ∉ m'.ppi ∧
      m'.tasks.head? = some (.rxen, m'.stateReads) ∧ m'.timer.running = true := by
  obtain ⟨_, m₁, hinit, h₁⟩ := bind_apply_eq_some.mp h
  obtain ⟨_, m₂, hrx, h₂⟩ := bind_apply_eq_some.mp h₁
  have hrun : m₁.timer.running = true := by
    rw [bleInitialize_apply] at hinit
    cases hinit
    rfl
  cases h₂
  rw [rx_eq_some P hrx]
  exact ⟨rfl, Finset.union_self _, rfl, rfl, rfl, by simp, rfl, hrun⟩

end NrfBle
