import NrfBle.Radio.Frame
import Mathlib.Tactic.ExtractLets
import Mathlib.Tactic.LiftLets

/-!
# The handlers, walked with what their code establishes

`Frame` asks every primitive step to move along a relation from every machine. Most properties of
the driver hold only because a handler established something before a step: every `setup_rx`
runs with `DISABLED` cleared, the transmit turnaround is armed once channel `21` is disabled, the
receive turnaround once `setup_rx` has disabled channel `20` and only when the transition is
`MoveToRX`, and `END` and `MoveToTX` are set only once the receive client was found.

`Steps P R` asks, at the level of the functions the source calls, for each step of the handlers
that does not involve the receive client, and for the three guarded ones only from the machines
where what the code established holds (`MovesFrom`). Then `handle_tx_end_event` moves along `R`
(`Steps.handleTxEndEvent`). `Walk P R` adds the answers of the receive client and the two steps
taken after one; then every handler, and `handle_interrupt`, moves along `R`
(`Walk.handleInterrupt`). A guard is the whole of what the code established at its step, so an
instance that needs less of it discharges it with `Moves.movesFrom`.

The public operations are built from the same steps, `ble_initialize`, the enabling of `ADDRESS`
and the setters. `Steps.act` walks every entry given these and the interrupt, and `Walk.act` given
the first two and the setters. The setters are left to each property, since a property may hold of
some setters and not of others; `ReadFrame.setter` gives them all for a property that their writes
move along, those writes keeping the state, `INTEN` and the registers of `ble_initialize`. A
relation that every primitive step moves along (`Frame`) is walked as it is (`Frame.walk`), and so
is every entry (`Frame.act`).
-/

namespace NrfBle

section

variable {α β : Type} {R S : Machine → Machine → Prop}

/-- A step that moves along `R` moves along every weaker relation. -/
theorem Moves.imp {act : DriverM α} (h : Moves R act) (hRS : ∀ {m m'}, R m m' → S m m') :
    Moves S act :=
  fun m a m' hact => hRS (h m a m' hact)

/-- A run moves along `R` when each of its entries does; the entries it does not make need
not. -/
theorem moves_run_of_forall (P : Platform) (hrefl : ∀ m, R m m)
    (htrans : ∀ {m₁ m₂ m₃}, R m₁ m₂ → R m₂ m₃ → R m₁ m₃) :
    ∀ {m m' : Machine} (ops : List Op), (∀ op ∈ ops, Moves R (op.act P)) →
      NrfBle.run P m ops = some m' → R m m'
  | m, _, [], _, h => by cases h; exact hrefl m
  | m, m', op :: ops, hops, h => by
    obtain ⟨m₁, h₁, h₂⟩ := Option.bind_eq_some.mp h
    obtain ⟨⟨a, m₁⟩, hact₁, rfl⟩ := Option.map_eq_some'.mp h₁
    exact htrans (hops op (List.mem_cons_self _ _) m a m₁ hact₁)
      (moves_run_of_forall P hrefl htrans ops (fun op' h' => hops op' (List.mem_cons_of_mem _ h'))
        h₂)

/-- An answer of the environment moves along every relation that allows a change of the
environment. -/
theorem moves_answer (henv : ∀ m e, R m { m with env := e }) (get : Env → List α)
    (put : List α → Env → Env) : Moves R (answer get put) := by
  intro m _ m' h
  obtain ⟨_, -, rfl⟩ := answer_eq_some.mp h
  exact henv m _

/-- `act` moves the machine along `R` from every machine where `p` holds. -/
def MovesFrom (p : Machine → Prop) (R : Machine → Machine → Prop) (act : DriverM α) : Prop :=
  ∀ m a m', p m → act m = some (a, m') → R m m'

/-- A step that moves along `R` from every machine moves along it from those where `p` holds. -/
theorem Moves.movesFrom {p : Machine → Prop} {act : DriverM α} (h : Moves R act) :
    MovesFrom p R act :=
  fun m a m' _ => h m a m'

/-- A step moves along `R` from the machines where a stronger guard holds. -/
theorem MovesFrom.mono {p q : Machine → Prop} {act : DriverM α} (h : MovesFrom p R act)
    (hqp : ∀ m, q m → p m) : MovesFrom q R act :=
  fun m a m' hq => h m a m' (hqp m hq)

/-- A sequence moves along `R` from where `p` holds when its first part does from there and the
rest does from every machine. -/
theorem MovesFrom.bind_moves {p : Machine → Prop} {x : DriverM α} {f : α → DriverM β}
    (htrans : ∀ {m₁ m₂ m₃}, R m₁ m₂ → R m₂ m₃ → R m₁ m₃) (hx : MovesFrom p R x)
    (hf : ∀ a, Moves R (f a)) : MovesFrom p R (x >>= f) := by
  intro m b m' hm h
  obtain ⟨a, m₁, h₁, h₂⟩ := bind_apply_eq_some.mp h
  exact htrans (hx m a m₁ hm h₁) (hf a m₁ b m' h₂)

/-- A sequence moves along `R` from where `p` holds when its first part does and keeps `p`, and
the rest does. -/
theorem MovesFrom.bind {p : Machine → Prop} {x : DriverM α} {f : α → DriverM β}
    (htrans : ∀ {m₁ m₂ m₃}, R m₁ m₂ → R m₂ m₃ → R m₁ m₃) (hx : MovesFrom p R x)
    (hp : Moves (fun m m' => p m → p m') x) (hf : ∀ a, MovesFrom p R (f a)) :
    MovesFrom p R (x >>= f) := by
  intro m b m' hm h
  obtain ⟨a, m₁, h₁, h₂⟩ := bind_apply_eq_some.mp h
  exact htrans (hx m a m₁ hm h₁) (hf a m₁ b m' (hp m a m₁ h₁ hm) h₂)

/-- A branch on the machine that `get` reads: its `then` part runs from a machine where the
guard holds. -/
theorem moves_get_ite {p : Machine → Prop} [DecidablePred p] {t : DriverM α}
    {e : Machine → DriverM α} (ht : MovesFrom p R t) (he : ∀ m, Moves R (e m)) :
    Moves R ((get : DriverM Machine) >>= fun m => if p m then t else e m) := by
  intro m a m' h
  rw [bind_apply, get_apply, Option.some_bind] at h
  split at h
  · exact ht m a m' ‹_› h
  · exact he m m a m' h

end

/-- A preorder that relates every machine to the machines that differ from it only in
`TX_PAYLOAD`, in the cursor of `STATE` reads or in the environment's answers is a
`ReadFrame`. -/
theorem ReadFrame.of_reads {R : Machine → Machine → Prop} (hrefl : ∀ m, R m m)
    (htrans : ∀ {m₁ m₂ m₃}, R m₁ m₂ → R m₂ m₃ → R m₁ m₃)
    (hpayload : ∀ m (l : List (BitVec 8)), R m { m with txPayload := l })
    (hreads : ∀ m n, R m { m with stateReads := n }) (henv : ∀ m e, R m { m with env := e }) :
    ReadFrame R where
  refl := hrefl
  trans := htrans
  setTxPayload i c m _ m' h := by
    obtain ⟨-, rfl⟩ := setTxPayload_eq_some.mp h
    exact hpayload m _
  readState m _ m' h := by
    obtain ⟨-, rfl⟩ := readState_eq_some.mp h
    exact hreads m _
  readEvent := moves_answer henv _ _
  readLength := moves_answer henv _ _
  advertisementDone := moves_answer henv _ _

/-- Two machines with the same `Radio` fields, registers and enabled PPI channels: every guard
of the handlers reads the same in both. -/
def Quiet (m m' : Machine) : Prop :=
  m'.radio = m.radio ∧ m'.regs = m.regs ∧ m'.ppi = m.ppi

/-- The reads, the answers and the writes of `TX_PAYLOAD` are quiet. -/
theorem quiet_readFrame : ReadFrame Quiet :=
  .of_reads (fun _ => ⟨rfl, rfl, rfl⟩)
    (fun h₁ h₂ => ⟨h₂.1.trans h₁.1, h₂.2.1.trans h₁.2.1, h₂.2.2.trans h₁.2.2⟩)
    (fun _ _ => ⟨rfl, rfl, rfl⟩) (fun _ _ => ⟨rfl, rfl, rfl⟩) fun _ _ => ⟨rfl, rfl, rfl⟩

/-- A quiet step keeps every guard of the handlers. -/
theorem Moves.keeps {α : Type} {act : DriverM α} (h : Moves Quiet act) {p : Machine → Prop}
    (hp : ∀ m m', m'.radio = m.radio → m'.regs = m.regs → m'.ppi = m.ppi → p m → p m') :
    Moves (fun m m' => p m → p m') act :=
  h.imp fun ⟨hr, hg, hc⟩ => hp _ _ hr hg hc

/-- A turnaround changes nothing but the capture read, the timer and the channel it enables. -/
theorem scheduleAfterTIfs_eq_some {d₁ d₂ d₃ : BitVec 32} {ch : ℕ} {m m' : Machine} {a : Unit}
    (h : scheduleAfterTIfs d₁ d₂ d₃ ch m = some (a, m')) :
    ∃ rest t, m' =
      { m with env := { m.env with cc2 := rest }, timer := t, ppi := m.ppi ∪ {ch} } := by
  obtain ⟨_, m₁, h₁, h₂⟩ := bind_apply_eq_some.mp h
  obtain ⟨_, -, rfl⟩ := answer_eq_some.mp h₁
  obtain ⟨_, m₂, h₂, h₃⟩ := bind_apply_eq_some.mp h₂
  obtain ⟨_, -, ⟨⟩⟩ := Option.map_eq_some'.mp h₂
  obtain ⟨_, _, ⟨⟩, ⟨⟩⟩ := bind_apply_eq_some.mp h₃
  exact ⟨_, _, rfl⟩

/-- `disable_radio` leaves every interrupt and channels `20` and `21` off. -/
theorem disableRadio_off {m m' : Machine} {a : Unit} (h : disableRadio m = some (a, m')) :
    m'.regs.inten = ∅ ∧ 20 ∉ m'.ppi ∧ 21 ∉ m'.ppi := by
  cases h
  simp

/-! ### The steps of the handlers -/

/-- What a relation needs for the steps of the handlers that do not involve the receive client to
move along it. Three are asked only from the machines where what the code established before them
holds. -/
structure Steps (P : Platform) (R : Machine → Machine → Prop) extends ReadFrame R : Prop where
  /-- `clear_interrupt`, whatever it clears. -/
  clearInterrupt : ∀ intr, Moves R (clearInterrupt intr)
  /-- `disable_all_interrupts`. -/
  disableAllInterrupts : Moves R disableAllInterrupts
  /-- The write of `SHORTS`. -/
  setShorts : ∀ shorts, Moves R (setShorts shorts)
  /-- `handle_rx_end_event` disables the receive turnaround first. -/
  disablePpi21 : Moves R (disablePpi {21})
  /-- `handle_rx_end_event` sets the debug bit on `MoveToRX`. -/
  setDebugBit : Moves R (modifyRadio fun r => { r with debugBit := true })
  /-- `setup_tx`. -/
  setupTx : Moves R (setupTx P)
  /-- `setup_rx`, which every caller runs with `DISABLED` off. -/
  setupRx : MovesFrom (fun m => Interrupt.disabled ∉ m.regs.inten) R (setupRx P)
  /-- `disable_radio`. -/
  disableRadio : Moves R disableRadio
  /-- The transmit turnaround, armed by `handle_rx_end_event` with channel `21` off. -/
  scheduleTx : MovesFrom (fun m => 21 ∉ m.ppi) R scheduleTxAfterTIfs
  /-- The receive turnaround of `handle_tx_end_event`, armed when the transition is `MoveToRX`,
  after `setup_rx` disabled channel `20`. -/
  scheduleRx : MovesFrom (fun m => m.radio.transition = .MoveToRX ∧ 20 ∉ m.ppi) R
    scheduleRxAfterTIfs
  /-- `tx`, which the handlers call. -/
  tx : Moves R (tx P)
  /-- `rx`, which `handle_rx_end_event` calls. -/
  rx : Moves R (rx P)

/-- What a relation needs for every handler to move along it: the steps without the receive
client, the client's answers, and the two steps taken once the client was found. -/
structure Walk (P : Platform) (R : Machine → Machine → Prop) extends Steps P R : Prop where
  /-- The receive client's answer to `receive_start`. -/
  receiveStart : Moves R receiveStart
  /-- The receive client's answer to `receive_end`. -/
  receiveEnd : Moves R receiveEnd
  /-- `END` enabled for a kept frame, once the receive client was found. -/
  enableEnd : MovesFrom (fun m => m.radio.rxClient) R (enableInterrupt {.«end»})
  /-- The transition set to `MoveToTX` for a frame kept with `ReadFrameAndMoveToTX`, once the
  receive client was found. -/
  moveToTx : MovesFrom (fun m => m.radio.rxClient) R
    (modifyRadio fun r => { r with transition := .MoveToTX })

section

variable {P : Platform} {R : Machine → Machine → Prop}

/-- `tx` moves along a preorder that `setup_tx` and the trigger of `TXEN` move along. -/
theorem ReadFrame.tx (hR : ReadFrame R) (hsetup : Moves R (setupTx P))
    (htrigger : Moves R (trigger .txen)) : Moves R (tx P) :=
  hR.bind hR.waitUntilDisabled fun _ => hR.bind hsetup fun _ => htrigger

/-- `rx` clears every interrupt before its `setup_rx`, so it moves along a preorder along which
`setup_rx` moves from the machines with `DISABLED` off. -/
theorem ReadFrame.rx (hR : ReadFrame R) (hclear : Moves R disableAllInterrupts)
    (hsetup : MovesFrom (fun m => Interrupt.disabled ∉ m.regs.inten) R (setupRx P))
    (htrigger : Moves R (trigger .rxen)) : Moves R (rx P) := by
  intro m a m' h
  obtain ⟨_, m₁, hwait, h₁⟩ := bind_apply_eq_some.mp h
  obtain ⟨_, m₂, hoff, h₂⟩ := bind_apply_eq_some.mp h₁
  obtain ⟨_, m₃, hs, ht⟩ := bind_apply_eq_some.mp h₂
  have hd : Interrupt.disabled ∉ m₂.regs.inten := by cases hoff; simp
  exact hR.trans (hR.waitUntilDisabled _ _ _ hwait) <| hR.trans (hclear _ _ _ hoff) <|
    hR.trans (hsetup _ _ _ hd hs) (htrigger _ _ _ ht)

variable (hR : Steps P R)
include hR

/-- `handle_tx_end_event` clears `DISABLED` before its `setup_rx`, and `setup_rx` keeps the
transition and disables channel `20` before the receive turnaround. -/
theorem Steps.handleTxEndEvent : Moves R (handleTxEndEvent P) := by
  intro m a m' h
  obtain ⟨_, m₁, hclear, h₁⟩ := bind_apply_eq_some.mp h
  have hd : Interrupt.disabled ∉ m₁.regs.inten := by cases hclear; simp
  refine hR.trans (hR.clearInterrupt _ _ _ _ hclear) ?_
  obtain ⟨_, _, ⟨⟩, h₂⟩ := bind_apply_eq_some.mp h₁
  split at h₂
  · next htr =>
    obtain ⟨_, m₃, hsetup, h₃⟩ := bind_apply_eq_some.mp h₂
    have hg : m₃.radio.transition = .MoveToRX ∧ 20 ∉ m₃.ppi := by
      cases hsetup; simpa using htr
    exact hR.trans (hR.setupRx _ _ _ hd hsetup) (hR.scheduleRx _ _ _ hg h₃)
  · exact Moves.ite (hR.bind hR.waitUntilDisabled fun _ => hR.bind hR.askAdvertisementClient
      fun _ => Moves.ite hR.tx (hR.pure _)) (Moves.ite moves_failure (hR.pure _)) _ _ _ h₂

/-- After `disable_radio`, `handle_rx_end_event` waits and then either sets up a reception with
every interrupt off, or asks the advertisement client and transmits or arms the transmit
turnaround with channel `21` off. -/
theorem Steps.disableRadio_wait {β : Type} {f : Unit → DriverM β}
    (hf : ∀ u, MovesFrom (fun m => m.regs.inten = ∅ ∧ 21 ∉ m.ppi) R (f u)) :
    Moves R (NrfBle.disableRadio >>= fun _ => waitUntilDisabled >>= f) := by
  intro m a m' h
  obtain ⟨_, m₁, hoff, h₁⟩ := bind_apply_eq_some.mp h
  obtain ⟨u, m₂, hwait, h₂⟩ := bind_apply_eq_some.mp h₁
  obtain ⟨hr, hg, hc⟩ := quiet_readFrame.waitUntilDisabled _ _ _ hwait
  obtain ⟨hi, -, h21⟩ := disableRadio_off hoff
  exact hR.trans (hR.disableRadio _ _ _ hoff) <| hR.trans (hR.waitUntilDisabled _ _ _ hwait)
    (hf u _ _ _ ⟨hg ▸ hi, hc ▸ h21⟩ h₂)

end

section

variable {P : Platform} {R : Machine → Machine → Prop} (hR : Walk P R)
include hR

/-- The part of `handle_address_event` after the receive client was found: `receive_start`, and
its answer. -/
theorem Walk.keptFrame {β : Type} {f : ReadAction → DriverM β}
    (hf : ∀ r, MovesFrom (fun m => m.radio.rxClient) R (f r)) :
    MovesFrom (fun m => m.radio.rxClient) R
      (frameLength >>= fun _ => NrfBle.receiveStart >>= f) :=
  have hQ := quiet_readFrame
  have hkeep : ∀ m m' : Machine, m'.radio = m.radio → m'.regs = m.regs → m'.ppi = m.ppi →
      m.radio.rxClient → m'.radio.rxClient := fun _ _ h _ _ hp => h ▸ hp
  .bind hR.trans hR.frameLength.movesFrom (hQ.frameLength.keeps hkeep) fun _ =>
    .bind hR.trans hR.receiveStart.movesFrom ((moves_answer (R := Quiet)
      (fun _ _ => ⟨rfl, rfl, rfl⟩) _ _).keeps hkeep) hf

/-- `handle_address_event` moves along `R`. -/
theorem Walk.handleAddressEvent : Moves R (handleAddressEvent P) := by
  unfold NrfBle.handleAddressEvent
  refine hR.bind (hR.clearInterrupt _) fun _ => hR.bind hR.get fun _ =>
    hR.bind (hR.addressLoop _) fun _ => Moves.ite ?_ ?_
  · refine moves_get_ite (hR.keptFrame fun r => ?_) fun _ => moves_failure
    cases r
    · exact .bind hR.trans hR.enableEnd (fun _ _ _ h hp => by cases h; exact hp) fun _ =>
        (hR.pure _).movesFrom
    · exact .bind hR.trans hR.moveToTx (fun _ _ _ h hp => by cases h; exact hp) fun _ =>
        .bind hR.trans hR.enableEnd (fun _ _ _ h hp => by cases h; exact hp) fun _ =>
          (hR.pure _).movesFrom
    · exact Moves.movesFrom <| hR.disableRadio_wait fun _ => Moves.movesFrom <|
        hR.bind hR.askAdvertisementClient fun _ => Moves.ite
          (hR.bind hR.tx fun _ => hR.pure _) (hR.bind (hR.pure _) fun _ => hR.pure _)
  · exact hR.bind hR.disableAllInterrupts fun _ => hR.bind (hR.setShorts _) fun _ => hR.pure _

/-- `handle_rx_end_event` disables channel `21` first; nothing before its transmit turnarounds
enables it again, and its `setup_rx` follows `disable_radio`. -/
theorem Walk.handleRxEndEvent : Moves R (handleRxEndEvent P) := by
  have hQ := quiet_readFrame
  have hkeep : ∀ m m' : Machine, m'.radio = m.radio → m'.regs = m.regs → m'.ppi = m.ppi →
      21 ∉ m.ppi → 21 ∉ m'.ppi := fun _ _ _ _ h hp => h ▸ hp
  intro m a m' h
  obtain ⟨_, m₁, hclear, h₁⟩ := bind_apply_eq_some.mp h
  obtain ⟨_, m₂, hdis, h₂⟩ := bind_apply_eq_some.mp h₁
  have h21 : 21 ∉ m₂.ppi := by cases hdis; simp
  refine hR.trans (hR.clearInterrupt _ _ _ _ hclear) (hR.trans (hR.disablePpi21 _ _ _ hdis) ?_)
  refine (?_ : MovesFrom (fun m => 21 ∉ m.ppi) R _) _ _ _ h21 h₂
  refine .bind hR.trans hR.readEvent.movesFrom (hQ.readEvent.keeps hkeep) fun _ => ?_
  refine .bind hR.trans hR.get.movesFrom (hQ.get.keeps hkeep) fun m₃ => ?_
  split
  · refine .bind hR.trans hR.frameLength.movesFrom (hQ.frameLength.keeps hkeep) fun _ => ?_
    refine .bind hR.trans hR.receiveEnd.movesFrom
      ((moves_answer (R := Quiet) (fun _ _ => ⟨rfl, rfl, rfl⟩) _ _).keeps hkeep) fun t => ?_
    cases t with
    | None =>
      -- After `disable_radio` the transmit turnaround is armed with channel `21` off.
      refine Moves.movesFrom <| hR.disableRadio_wait fun _ => ?_
      refine .bind hR.trans hR.askAdvertisementClient.movesFrom
        (hQ.askAdvertisementClient.keeps fun _ _ _ hg hc h => ⟨hg ▸ h.1, hc ▸ h.2⟩) fun t => ?_
      cases t
      · exact hR.tx.movesFrom
      · exact hR.scheduleTx.mono fun _ h => h.2
      · exact (hR.pure _).movesFrom
    | MoveToRX =>
      -- The reception is set up again after `disable_radio`, with every interrupt off.
      exact Moves.movesFrom <| hR.bind hR.setDebugBit fun _ => hR.disableRadio_wait fun _ =>
        .bind_moves hR.trans (hR.setupRx.mono fun _ h => by simp [h.1]) fun _ => hR.rx
    | MoveToTX =>
      -- `setup_tx` keeps the channels, so the turnaround is armed with channel `21` off.
      exact .bind hR.trans hR.setupTx.movesFrom (fun _ _ _ h hp => by cases h; exact hp)
        fun _ => hR.scheduleTx
  · exact moves_failure.movesFrom

/-- `handle_interrupt` moves along `R`. Its `do` block runs each of its parts, `READY`, `ADDRESS`,
`DISABLED` and `END`, with the next part as a join point; each join point is walked once. -/
theorem Walk.handleInterrupt : Moves R (handleInterrupt P) := by
  unfold NrfBle.handleInterrupt
  refine hR.bind hR.get fun m => ?_
  lift_lets
  extract_lets enabled disabledPart addressPart
  have hdisabled : ∀ e, Moves R (disabledPart e) := fun e => by
    unfold disabledPart
    lift_lets
    extract_lets endPart
    have hend : ∀ y, Moves R (endPart y) := fun _ =>
      Moves.ite (hR.bind hR.readEvent fun _ => Moves.ite hR.handleRxEndEvent (hR.pure _))
        (hR.pure _)
    exact Moves.ite (hR.bind hR.readEvent fun _ => Moves.ite (hR.bind hR.get fun _ =>
      Moves.ite (hR.bind (hR.pure _) hend) (Moves.ite (hR.bind moves_failure hend)
        (hR.bind hR.toSteps.handleTxEndEvent hend))) (hR.bind (hR.pure _) hend))
      (hR.bind (hR.pure _) hend)
  have haddress : ∀ y, Moves R (addressPart y) := fun _ =>
    Moves.ite (hR.bind hR.readEvent fun _ => Moves.ite (hR.bind hR.handleAddressEvent fun _ =>
      Moves.ite (hR.bind (hR.pure _) hdisabled) (hR.bind (hR.pure _) hdisabled))
        (hR.bind (hR.pure _) hdisabled)) (hR.bind (hR.pure _) hdisabled)
  exact Moves.ite (hR.bind hR.readEvent fun _ => Moves.ite
    (hR.bind (hR.clearInterrupt _) haddress) (hR.bind (hR.pure _) haddress))
    (hR.bind (hR.pure _) haddress)

end

/-! ### The entries -/

/-- The entries that store a client or a setting. What they write is left to each property: a
property may hold of some setters and not of others. -/
def Op.setter : Op → Bool
  | .setReceiveClient | .setTransmitClient | .setAdvertisementClient | .setTxPower _
  | .setChannel _ _ _ | .setTransitionState _ | .setAccessAddress _ => true
  | _ => false

/-- A write of the `Radio` fields that keeps the state, as the setters make. -/
def KeepsStateWrite (f : RadioFields → RadioFields) : Prop :=
  ∀ r, (f r).state = r.state

/-- A write of the registers that keeps `POWER`, `TXPOWER`, `TIFS`, `SHORTS`, `INTEN` and
`PACKETPTR`, as the setters make: they write `FREQUENCY`, `DATAWHITEIV`, `PREFIX0`, `BASE0` and
`CRCINIT`. -/
def LinkRegsWrite (f : Regs → Regs) : Prop :=
  ∀ r, (f r).power = r.power ∧ (f r).txpower = r.txpower ∧ (f r).tifs = r.tifs ∧
    (f r).shorts = r.shorts ∧ (f r).inten = r.inten ∧ (f r).packetptr = r.packetptr

/-- Every setter moves along a `ReadFrame` along which the writes that the setters make move:
`set_channel` reads `STATE` before its writes. -/
theorem ReadFrame.setter {P : Platform} {R : Machine → Machine → Prop} (hR : ReadFrame R)
    (hradio : ∀ f, KeepsStateWrite f → Moves R (modifyRadio f))
    (hregs : ∀ f, LinkRegsWrite f → Moves R (modifyRegs f)) (op : Op) (hs : op.setter = true) :
    Moves R (op.act P) := by
  cases op <;> cases hs <;>
  unfold Op.act BleAdvertisementDriver.setReceiveClient BleAdvertisementDriver.setTransmitClient
    BleAdvertisementDriver.setAdvertisementClient BleConfig.setTxPower BleConfig.setChannel
    BleConfig.setTransitionState BleConfig.setAccessAddress bleSetChannel bleSetAccessAddress
    bleSetCrcinit bleSetDataWhitening <;>
  dsimp only <;>
  repeat' first
    | with_reducible first
      | exact hR.pure _ | exact moves_failure | exact hR.readState
      | refine hR.bind ?_ fun _ => ?_
      | refine Moves.ite ?_ ?_
    | (with_reducible refine hradio _ ?_); exact fun _ => rfl
    | (with_reducible refine hregs _ ?_); exact fun _ => ⟨rfl, rfl, rfl, rfl, rfl, rfl⟩
    | split

section

variable {P : Platform} {R : Machine → Machine → Prop}

/-- Every entry moves along `R`, given that `ble_initialize` and the enabling of `ADDRESS` (the
write of `INTENSET` in `enable_interrupts`) do, and the entry itself if it is a setter or the
interrupt. -/
theorem Steps.act (hR : Steps P R) (hinit : Moves R bleInitialize)
    (haddr : Moves R (modifyRegs fun r => { r with inten := r.inten ∪ {.address} })) (op : Op)
    (hset : op.setter = true → Moves R (op.act P))
    (hint : op = .handleInterrupt → Moves R (op.act P)) : Moves R (op.act P) := by
  cases op
  case transmitAdvertisement =>
    exact hR.bind (hR.bind hinit fun _ => hR.bind (hR.replaceRadioBuffer _ _) fun _ =>
      hR.bind hR.tx fun _ => hR.pure _) fun _ => hR.pure _
  case setAdvertisementData => exact hR.bind (hR.replaceRadioBuffer _ _) fun _ => hR.pure _
  case receiveAdvertisement => exact hR.bind hinit fun _ => hR.bind hR.rx fun _ => haddr
  case tx => exact hR.tx
  case rx => exact hR.rx
  case bleInitialize => exact hinit
  case handleInterrupt => exact hint rfl
  all_goals exact hset rfl

/-- Every entry moves along `R`, given that `ble_initialize` and the enabling of `ADDRESS` do, and
the entry itself if it is a setter. -/
theorem Walk.act (hR : Walk P R) (hinit : Moves R bleInitialize)
    (haddr : Moves R (modifyRegs fun r => { r with inten := r.inten ∪ {.address} })) (op : Op)
    (hset : op.setter = true → Moves R (op.act P)) : Moves R (op.act P) :=
  hR.toSteps.act hinit haddr op hset fun h => h ▸ hR.handleInterrupt

end

/-! ### Relations that every primitive step moves along -/

section

variable {R : Machine → Machine → Prop} (hR : Frame R) (P : Platform)
include hR

/-- `ble_initialize` moves along `R`. -/
theorem Frame.bleInitialize : Moves R NrfBle.bleInitialize := by
  unfold NrfBle.bleInitialize radioOn setTxPowerReg bleSetCrcinit setState
  dsimp only
  repeat' with_reducible first
    | exact hR.get | exact hR.pure _ | exact hR.modifyRegs _ | exact hR.modifyRadio _
    | exact hR.modifyTimer _ | exact hR.enablePpi _
    | refine hR.bind ?_ fun _ => ?_
    | refine Moves.ite ?_ ?_

variable (htx : Moves R (NrfBle.tx P)) (hrx : Moves R (NrfBle.rx P))
include htx hrx

/-- A relation that every primitive step moves along, and `tx` and `rx`, is walked as it is. -/
theorem Frame.walk : Walk P R where
  toReadFrame := hR.toReadFrame
  clearInterrupt := fun _ => hR.modifyRegs _
  disableAllInterrupts := hR.modifyRegs _
  setShorts := fun _ => hR.modifyRegs _
  disablePpi21 := hR.disablePpi _ (by decide)
  setDebugBit := hR.modifyRadio _
  setupTx := hR.setupTx P
  setupRx := (hR.setupRx P).movesFrom
  disableRadio := hR.disableRadio
  scheduleTx := (hR.scheduleAfterTIfs _ _ _ _).movesFrom
  scheduleRx := (hR.scheduleAfterTIfs _ _ _ _).movesFrom
  tx := htx
  rx := hrx
  receiveStart := hR.answer _ _
  receiveEnd := hR.answer _ _
  enableEnd := (hR.modifyRegs _).movesFrom
  moveToTx := (hR.modifyRadio _).movesFrom

/-- Every entry into the driver moves along `R`, given that `tx` and `rx` do. -/
theorem Frame.act (op : Op) : Moves R (op.act P) :=
  (hR.walk P htx hrx).act hR.bleInitialize (hR.modifyRegs _) op
    (hR.toReadFrame.setter (fun _ _ => hR.modifyRadio _) (fun _ _ => hR.modifyRegs _) op)

/-- Every run of the driver moves along `R`, given that `tx` and `rx` do. -/
theorem Frame.run {m m' : Machine} (ops : List Op) (h : run P m ops = some m') : R m m' :=
  Moves.run P (hR.act P htx hrx) hR.refl hR.trans ops h

end

end NrfBle
