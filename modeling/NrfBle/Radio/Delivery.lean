import NrfBle.Radio.Initialize

/-!
# The receive client is told no more frame ends than it kept frames

The receive client meets a frame twice: `receive_start`, once the length is known, and
`receive_end`, at the frame's end. Only when `receive_start` answers `ReadFrameAndStayRX` or
`ReadFrameAndMoveToTX` does the driver enable `END`, and `END` is what leads to `receive_end`. So
over every run from `Radio::new()`, the client has been called with `receive_end` at most as often
as it kept a frame, and strictly less often while `END` is still enabled
(`receive_ends_le_kept_frames`).

The count is of the clients' answers, which the machine consumes in order from its `Env`: the
answers to `receive_start` so far are the prefix of the sequence that the run used up. Every entry
but `handle_interrupt` calls `receive_end` never, and enables `END` only right after a kept frame
(`StartsOnly`).

`handle_interrupt` needs one more step. It reads `INTEN` once, on entry, and handles `END` when
that snapshot has it, even if `handle_address_event` has disabled `END` in between (with
`SkipFrame`, or when the radio stopped before `BCMATCH`). The `END` of the snapshot pays for that
`receive_end`. The proof walks the interrupt with a precondition and a postcondition about the
machine it started from (`Triple`): up to its `END` part it only moves along `StartsOnly`, and the
`END` part, entered only when the snapshot has `END`, calls `receive_end` once.
-/

namespace NrfBle

/-- Whether the receive client's answer to `receive_start` keeps the frame: the driver then
enables `END`, whose handler passes the frame's end to `receive_end`. -/
def ReadAction.keepsFrame : ReadAction → Bool
  | .ReadFrameAndStayRX => true
  | .ReadFrameAndMoveToTX => true
  | .SkipFrame => false

/-- The kept frames still awaiting their end: one while `END` is enabled. -/
def endPending (m : Machine) : ℕ :=
  if Interrupt.«end» ∈ m.regs.inten then 1 else 0

/-- At most one kept frame awaits its end. -/
theorem endPending_le_one (m : Machine) : endPending m ≤ 1 := by
  unfold endPending
  split_ifs <;> omega

/-- A step that enables no `END` leaves no more frames awaiting their end. -/
theorem endPending_mono {m m' : Machine}
    (h : Interrupt.«end» ∈ m'.regs.inten → Interrupt.«end» ∈ m.regs.inten) :
    endPending m' ≤ endPending m := by
  unfold endPending
  split_ifs with h' h₀
  · exact le_rfl
  · exact absurd (h h') h₀
  · exact Nat.zero_le _
  · exact le_rfl

/-- From `m` to `m'` the receive client answered `starts` to `receive_start` and was never called
with `receive_end`; an `END` enabled in `m'` is one of `m`, or comes from a kept frame. -/
def StartsOnly (m m' : Machine) : Prop :=
  ∃ starts, m.env.readActions = starts ++ m'.env.readActions ∧
    m'.env.phyTransitions = m.env.phyTransitions ∧
    endPending m' ≤ starts.countP ReadAction.keepsFrame + endPending m

/-- From `m` to `m'` the receive client answered `starts` to `receive_start` and `ends` to
`receive_end`; each `receive_end`, and an `END` still enabled in `m'`, is paid for by a kept frame
or by an `END` enabled in `m`. -/
def Delivers (m m' : Machine) : Prop :=
  ∃ starts ends, m.env.readActions = starts ++ m'.env.readActions ∧
    m.env.phyTransitions = ends ++ m'.env.phyTransitions ∧
    ends.length + endPending m' ≤ starts.countP ReadAction.keepsFrame + endPending m

/-- Staying put answers nothing and enables no `END`. -/
theorem startsOnly_refl (m : Machine) : StartsOnly m m :=
  ⟨[], rfl, rfl, by simp⟩

/-- The answers to `receive_start` of two steps add up, and so do the kept frames. -/
theorem startsOnly_trans {m₁ m₂ m₃ : Machine} (h₁ : StartsOnly m₁ m₂) (h₂ : StartsOnly m₂ m₃) :
    StartsOnly m₁ m₃ := by
  obtain ⟨s₁, ha₁, hp₁, hc₁⟩ := h₁
  obtain ⟨s₂, ha₂, hp₂, hc₂⟩ := h₂
  refine ⟨s₁ ++ s₂, by rw [ha₁, ha₂, List.append_assoc], hp₂.trans hp₁, ?_⟩
  rw [List.countP_append]
  omega

/-- The answers of two steps add up, and so do the frame ends and the kept frames. -/
theorem delivers_trans {m₁ m₂ m₃ : Machine} (h₁ : Delivers m₁ m₂) (h₂ : Delivers m₂ m₃) :
    Delivers m₁ m₃ := by
  obtain ⟨s₁, e₁, ha₁, hp₁, hc₁⟩ := h₁
  obtain ⟨s₂, e₂, ha₂, hp₂, hc₂⟩ := h₂
  refine ⟨s₁ ++ s₂, e₁ ++ e₂, by rw [ha₁, ha₂, List.append_assoc],
    by rw [hp₁, hp₂, List.append_assoc], ?_⟩
  rw [List.countP_append, List.length_append]
  omega

/-- A step that calls no `receive_end` delivers no frame end. -/
theorem delivers_of_startsOnly {m m' : Machine} (h : StartsOnly m m') : Delivers m m' := by
  obtain ⟨s, ha, hp, hc⟩ := h
  exact ⟨s, [], ha, by rw [hp]; rfl, by simpa using hc⟩

/-- A step that answers nothing to the receive client and enables no `END` moves along
`StartsOnly`. -/
theorem startsOnly_of_eq {m m' : Machine} (hra : m'.env.readActions = m.env.readActions)
    (hpt : m'.env.phyTransitions = m.env.phyTransitions)
    (hend : Interrupt.«end» ∈ m'.regs.inten → Interrupt.«end» ∈ m.regs.inten) :
    StartsOnly m m' :=
  ⟨[], by rw [hra]; rfl, hpt, (endPending_mono hend).trans (Nat.le_add_left _ _)⟩

/-! ### The steps of the handlers -/

/-- A write of the `Radio` fields moves along `StartsOnly`. -/
theorem startsOnly_modifyRadio (f : RadioFields → RadioFields) :
    Moves StartsOnly (modifyRadio f) := by
  rintro m _ _ ⟨⟩
  exact startsOnly_of_eq rfl rfl id

/-- A write of RADIO registers that enables no `END` moves along `StartsOnly`. -/
theorem startsOnly_modifyRegs (f : Regs → Regs)
    (hf : ∀ r, Interrupt.«end» ∈ (f r).inten → Interrupt.«end» ∈ r.inten) :
    Moves StartsOnly (modifyRegs f) := by
  rintro m _ _ ⟨⟩
  exact startsOnly_of_eq rfl rfl (hf m.regs)

/-- An answer of the hardware or of the advertisement client moves along `StartsOnly`. -/
theorem startsOnly_answer {α : Type} (get : Env → List α) (put : List α → Env → Env)
    (hput : ∀ l e, (put l e).readActions = e.readActions ∧
      (put l e).phyTransitions = e.phyTransitions) : Moves StartsOnly (answer get put) := by
  intro m _ m' h
  obtain ⟨_, -, rfl⟩ := answer_eq_some.mp h
  exact startsOnly_of_eq (hput _ _).1 (hput _ _).2 id

/-- The reads, the answers of the hardware and of the advertisement client, and the writes of
`TX_PAYLOAD` move along `StartsOnly`. -/
theorem startsOnly_readFrame : ReadFrame StartsOnly where
  refl := startsOnly_refl
  trans := startsOnly_trans
  setTxPayload i c m _ m' h := by
    obtain ⟨-, rfl⟩ := setTxPayload_eq_some.mp h
    exact startsOnly_of_eq rfl rfl id
  readState m _ m' h := by
    obtain ⟨-, rfl⟩ := readState_eq_some.mp h
    exact startsOnly_of_eq rfl rfl id
  readEvent := startsOnly_answer _ _ fun _ _ => ⟨rfl, rfl⟩
  readLength := startsOnly_answer _ _ fun _ _ => ⟨rfl, rfl⟩
  advertisementDone := startsOnly_answer _ _ fun _ _ => ⟨rfl, rfl⟩

/-- A turnaround reads a capture and enables a channel. -/
theorem startsOnly_scheduleAfterTIfs (d₁ d₂ d₃ : BitVec 32) (ch : ℕ) :
    Moves StartsOnly (scheduleAfterTIfs d₁ d₂ d₃ ch) := by
  intro m _ m' h
  obtain ⟨_, _, rfl⟩ := scheduleAfterTIfs_eq_some h
  exact startsOnly_of_eq rfl rfl id

/-- `setup_rx` enables `ADDRESS` only. -/
theorem startsOnly_setupRx (P : Platform) : Moves StartsOnly (setupRx P) := by
  rintro m _ _ ⟨⟩
  exact startsOnly_of_eq rfl rfl fun h => by simp_all

/-- The steps of the handlers that do not involve the receive client enable no `END`, and answer
nothing to the client. -/
theorem startsOnly_steps (P : Platform) : Steps P StartsOnly := by
  have hR := startsOnly_readFrame
  refine { toReadFrame := hR,
           scheduleTx := (startsOnly_scheduleAfterTIfs _ _ _ _).movesFrom,
           scheduleRx := (startsOnly_scheduleAfterTIfs _ _ _ _).movesFrom,
           setupRx := (startsOnly_setupRx P).movesFrom,
           tx := hR.tx ?setupTx ?txen, rx := hR.rx ?clear (startsOnly_setupRx P).movesFrom ?rxen,
           clearInterrupt := fun _ => ?_, disableAllInterrupts := ?clear, setShorts := fun _ => ?_,
           disablePpi21 := ?_, setDebugBit := ?_, setupTx := ?setupTx, disableRadio := ?_ }
  all_goals
    rintro m _ _ ⟨⟩
    exact startsOnly_of_eq rfl rfl fun h => by simp_all

/-- `ble_initialize` enables no interrupt. -/
theorem startsOnly_bleInitialize : Moves StartsOnly bleInitialize := by
  intro m _ m' h
  rw [bleInitialize_apply, Option.some.injEq, Prod.mk.injEq] at h
  obtain ⟨-, rfl⟩ := h
  split_ifs <;> exact startsOnly_of_eq rfl rfl id

/-- `receive_start` and what the driver does with its answer: after a kept frame it only enables
`END` (and may record the transition), and after `SkipFrame` it moves along `StartsOnly`. -/
theorem startsOnly_receiveStart_bind {β : Type} {f : ReadAction → DriverM β}
    (hstay : ∀ m b m', f .ReadFrameAndStayRX m = some (b, m') → m'.env = m.env)
    (hmove : ∀ m b m', f .ReadFrameAndMoveToTX m = some (b, m') → m'.env = m.env)
    (hskip : Moves StartsOnly (f .SkipFrame)) : Moves StartsOnly (receiveStart >>= f) := by
  intro m b m' h
  obtain ⟨a, m₁, ha, h₁⟩ := bind_apply_eq_some.mp h
  obtain ⟨rest, hget, rfl⟩ := answer_eq_some.mp ha
  have hstart : m.env.readActions = [a] ++ rest := hget
  cases a with
  | ReadFrameAndStayRX =>
    have henv := hstay _ _ _ h₁
    exact ⟨[.ReadFrameAndStayRX], by rw [henv, hstart], by rw [henv],
      (endPending_le_one m').trans (Nat.le_add_right _ _)⟩
  | ReadFrameAndMoveToTX =>
    have henv := hmove _ _ _ h₁
    exact ⟨[.ReadFrameAndMoveToTX], by rw [henv, hstart], by rw [henv],
      (endPending_le_one m').trans (Nat.le_add_right _ _)⟩
  | SkipFrame =>
    refine startsOnly_trans ?_ (hskip _ _ _ h₁)
    exact ⟨[.SkipFrame], hstart, rfl, by simp [endPending]⟩

/-! ### The handlers -/

section

variable (P : Platform)

/-- `handle_address_event` answers `receive_start` at most once, and enables `END` only after a kept
frame. -/
theorem startsOnly_handleAddressEvent : Moves StartsOnly (handleAddressEvent P) := by
  have hS := startsOnly_steps P
  unfold NrfBle.handleAddressEvent
  dsimp only
  repeat' first
    | with_reducible first
      | exact hS.get | exact hS.pure _ | exact moves_failure | exact hS.addressLoop _
      | exact hS.frameLength | exact hS.waitUntilDisabled | exact hS.askAdvertisementClient
      | exact hS.clearInterrupt _ | exact hS.disableAllInterrupts | exact hS.setShorts _
      | exact hS.disableRadio | exact hS.tx
      | refine startsOnly_receiveStart_bind ?_ ?_ ?_
      | refine hS.bind ?_ fun _ => ?_
      | refine Moves.ite ?_ ?_
    | (rintro _ _ _ ⟨⟩; rfl)

/-- `handle_rx_end_event` first disables `END`; it then calls `receive_end` at most once, and
enables `END` only after a kept frame. -/
theorem handleRxEndEvent_delivers {m m' : Machine} {a : Unit}
    (h : handleRxEndEvent P m = some (a, m')) :
    ∃ starts ends, m.env.readActions = starts ++ m'.env.readActions ∧
      m.env.phyTransitions = ends ++ m'.env.phyTransitions ∧
      ends.length + endPending m' ≤ starts.countP ReadAction.keepsFrame + 1 := by
  have hS := startsOnly_steps P
  obtain ⟨_, m₁, hclear, h₁⟩ := bind_apply_eq_some.mp h
  have hp₁ : endPending m₁ = 0 := by
    cases hclear
    exact if_neg (by simp)
  have henv₁ : m₁.env = m.env := by cases hclear; rfl
  obtain ⟨_, m₂, hppi, h₂⟩ := bind_apply_eq_some.mp h₁
  obtain ⟨_, m₃, hcrc, h₃⟩ := bind_apply_eq_some.mp h₂
  obtain ⟨_, _, ⟨⟩, h₄⟩ := bind_apply_eq_some.mp h₃
  split at h₄
  · obtain ⟨_, m₅, hlen, h₅⟩ := bind_apply_eq_some.mp h₄
    obtain ⟨x, m₆, hend, h₆⟩ := bind_apply_eq_some.mp h₅
    obtain ⟨rest, hget, hm₆⟩ := answer_eq_some.mp hend
    have hp₆ : endPending m₆ = endPending m₅ := by rw [hm₆]; rfl
    -- The steps before `receive_end` and the branch after it move along `StartsOnly`.
    obtain ⟨s₁, ha₁, hp₁', hc₁⟩ := startsOnly_trans (hS.disablePpi21 _ _ _ hppi)
      (startsOnly_trans (hS.readEvent _ _ _ hcrc) (hS.frameLength _ _ _ hlen))
    have htail : StartsOnly m₆ m' := by
      revert h₆
      refine (?_ : Moves StartsOnly _) _ _ _
      split
      · exact hS.bind hS.setupTx fun _ => startsOnly_scheduleAfterTIfs _ _ _ _
      · exact hS.bind hS.setDebugBit fun _ => hS.bind hS.disableRadio fun _ =>
          hS.bind hS.waitUntilDisabled fun _ => hS.bind (startsOnly_setupRx P) fun _ => hS.rx
      · refine hS.bind hS.disableRadio fun _ => hS.bind hS.waitUntilDisabled fun _ =>
          hS.bind hS.askAdvertisementClient fun t => ?_
        cases t
        · exact hS.tx
        · exact startsOnly_scheduleAfterTIfs _ _ _ _
        · exact hS.pure _
    obtain ⟨s₂, ha₂, hp₂, hc₂⟩ := htail
    refine ⟨s₁ ++ s₂, [x], ?_, ?_, ?_⟩
    · rw [← henv₁, ha₁, List.append_assoc, ← ha₂, hm₆]
    · rw [← henv₁, hp₂, hm₆]
      exact hp₁'.symm.trans hget
    · rw [List.countP_append, List.length_singleton]
      omega
  · cases h₄

end

/-! ### The interrupt, from the snapshot of `INTEN` it takes -/

/-- `act` started from a machine where `pre` holds leaves, when it returns, one where `post`
holds. -/
def Triple {α : Type} (pre post : Machine → Prop) (act : DriverM α) : Prop :=
  ∀ m a m', act m = some (a, m') → pre m → post m'

/-- An `if` meets a pre- and postcondition when both of its branches do. -/
theorem Triple.ite {α : Type} {pre post : Machine → Prop} {c : Prop} [Decidable c]
    {t e : DriverM α} (ht : Triple pre post t) (he : Triple pre post e) :
    Triple pre post (if c then t else e) := by
  split <;> assumption

section

variable {m₀ : Machine}

/-- A step along `StartsOnly` inside an interrupt that started from `m₀`. -/
theorem pass_bind {α β : Type} {post : Machine → Prop} {x : DriverM α} {f : α → DriverM β}
    (hx : Moves StartsOnly x) (hf : ∀ a, Triple (StartsOnly m₀) post (f a)) :
    Triple (StartsOnly m₀) post (x >>= f) := by
  intro m b m' h hpre
  obtain ⟨a, m₁, h₁, h₂⟩ := bind_apply_eq_some.mp h
  exact hf a m₁ b m' h₂ (startsOnly_trans hpre (hx m a m₁ h₁))

/-- An interrupt that ends without calling `receive_end` moves along `Delivers`. -/
theorem pass_done {α : Type} (a : α) : Triple (StartsOnly m₀) (Delivers m₀) (pure a) := by
  rintro m b m' ⟨⟩ hpre
  exact delivers_of_startsOnly hpre

/-- The `END` part of an interrupt, entered only when the snapshot `y` of `INTEN` taken in `m₀`
has `END`: that `END` pays for the one `receive_end`. -/
theorem pass_endPart (P : Platform) {y : Finset Interrupt} (hy : y ⊆ m₀.regs.inten) :
    Triple (StartsOnly m₀) (Delivers m₀)
      (if Interrupt.«end» ∈ y then
        readEvent >>= fun b => if b = true then handleRxEndEvent P else pure PUnit.unit
      else pure PUnit.unit) := by
  split
  · next hend =>
    intro m a m' h hpre
    obtain ⟨b, m₁, hread, h₁⟩ := bind_apply_eq_some.mp h
    have hpre₁ := startsOnly_trans hpre (startsOnly_readFrame.readEvent _ _ _ hread)
    split at h₁
    · obtain ⟨s₁, ha₁, hp₁, -⟩ := hpre₁
      obtain ⟨s₂, e₂, ha₂, hp₂, hc₂⟩ := handleRxEndEvent_delivers P h₁
      have h₀ : endPending m₀ = 1 := if_pos (hy hend)
      refine ⟨s₁ ++ s₂, e₂, by rw [ha₁, ha₂, List.append_assoc],
        by rw [← hp₁, hp₂], ?_⟩
      rw [List.countP_append]
      omega
    · exact pass_done _ m₁ a m' h₁ hpre₁
  · exact pass_done _

end

/-- An interrupt, which begins by reading the machine, moves along `Delivers` when its walk from
each machine it can read moves along it. -/
theorem delivers_of_pass {α : Type} {k : Machine → DriverM α}
    (hk : ∀ m₀, Triple (StartsOnly m₀) (Delivers m₀) (k m₀)) : Moves Delivers (get >>= k) := by
  intro m a m' h
  obtain ⟨_, _, ⟨⟩, h₁⟩ := bind_apply_eq_some.mp h
  exact hk m m a m' h₁ (startsOnly_refl m)

/-- `handle_interrupt` moves along `Delivers`: the `END` of its snapshot pays for the
`receive_end` of its `END` part. -/
theorem delivers_handleInterrupt (P : Platform) : Moves Delivers (handleInterrupt P) := by
  have hS := startsOnly_steps P
  unfold NrfBle.handleInterrupt
  refine delivers_of_pass fun m₀ => ?_
  lift_lets
  extract_lets enabled disabledPart addressPart
  -- The `DISABLED` part, run with a part of the snapshot, and its join point, the `END` part.
  have hdisabled : ∀ e ⊆ m₀.regs.inten, Triple (StartsOnly m₀) (Delivers m₀) (disabledPart e) :=
    fun e he => by
      unfold disabledPart
      lift_lets
      extract_lets endPart
      have hend : ∀ y, Triple (StartsOnly m₀) (Delivers m₀) (endPart y) := fun _ =>
        pass_endPart P he
      exact Triple.ite (pass_bind hS.readEvent fun _ => Triple.ite (pass_bind hS.get fun _ =>
        Triple.ite (pass_bind (hS.pure _) hend) (Triple.ite (pass_bind moves_failure hend)
          (pass_bind hS.handleTxEndEvent hend))) (pass_bind (hS.pure _) hend))
        (pass_bind (hS.pure _) hend)
  have haddress : ∀ y, Triple (StartsOnly m₀) (Delivers m₀) (addressPart y) := fun _ =>
    Triple.ite (pass_bind hS.readEvent fun _ => Triple.ite
      (pass_bind (startsOnly_handleAddressEvent P) fun _ => Triple.ite
        (hdisabled _ Finset.sdiff_subset) (hdisabled _ subset_rfl)) (hdisabled _ subset_rfl))
      (hdisabled _ subset_rfl)
  exact Triple.ite (pass_bind hS.readEvent fun _ => Triple.ite
    (pass_bind (hS.clearInterrupt _) haddress) (pass_bind (hS.pure _) haddress))
    (pass_bind (hS.pure _) haddress)

/-- Every entry into the driver moves along `Delivers`: the entries but the interrupt never call
`receive_end`, and the setters enable no interrupt. -/
theorem delivers_act (P : Platform) (op : Op) : Moves Delivers (op.act P) := by
  cases op
  case handleInterrupt => exact delivers_handleInterrupt P
  all_goals
    refine Moves.imp ?_ delivers_of_startsOnly
    refine (startsOnly_steps P).act startsOnly_bleInitialize
      (startsOnly_modifyRegs _ fun _ h => by simpa using h) _ (fun hs => ?_) nofun
    exact startsOnly_readFrame.setter (fun _ _ => startsOnly_modifyRadio _)
      (fun _ hf => startsOnly_modifyRegs _ fun r => by rw [(hf r).2.2.2.2.1]; exact id) _ hs

/-- For every platform, every sequence of values of `STATE`, every answer of the hardware and the
clients, and every run from `Radio::new()`: the receive client's answers to `receive_start` so
far are `starts` and those to `receive_end` are `ends`. There are at most as many `receive_end`
calls as kept frames (`ReadFrameAndStayRX` or `ReadFrameAndMoveToTX`), and fewer while `END` is
enabled. -/
theorem receive_ends_le_kept_frames (P : Platform) (hw : List HwState) (env : Env)
    (ops : List Op) (m : Machine) (hrun : run P (Machine.new P hw env) ops = some m) :
    ∃ starts ends, env.readActions = starts ++ m.env.readActions ∧
      env.phyTransitions = ends ++ m.env.phyTransitions ∧
      ends.length ≤ starts.countP ReadAction.keepsFrame ∧
      (Interrupt.«end» ∈ m.regs.inten → ends.length < starts.countP ReadAction.keepsFrame) := by
  obtain ⟨starts, ends, ha, hp, hc⟩ :=
    Moves.run P (delivers_act P) (fun m => delivers_of_startsOnly (startsOnly_refl m))
      delivers_trans ops hrun
  have hnew : endPending (Machine.new P hw env) = 0 := if_neg (by simp [Machine.new])
  refine ⟨starts, ends, ha, hp, by omega, fun hend => ?_⟩
  have : endPending m = 1 := if_pos hend
  omega

/-- The spec's reception from `Radio::new()`: an `ADDRESS` with `BCMATCH` and a length byte of
`10`, kept with `ReadFrameAndStayRX`, then its `END`, ended with `None`. One frame kept, one
`receive_end`. -/
theorem receive_ends_le_kept_frames_stay_rx :
    ∃ m, run ⟨0, 0, 0, 0, fun _ => none⟩ (Machine.new ⟨0, 0, 0, 0, fun _ => none⟩
        [.disabled, .rx, .disabled]
        ⟨[true, true, true, true], [], [10, 10], [.ReadFrameAndStayRX], [.None], []⟩)
      [.setReceiveClient, .receiveAdvertisement, .handleInterrupt, .handleInterrupt] = some m ∧
      ∃ starts ends, [ReadAction.ReadFrameAndStayRX] = starts ++ m.env.readActions ∧
        [PhyTransition.None] = ends ++ m.env.phyTransitions ∧
        ends.length ≤ starts.countP ReadAction.keepsFrame ∧
        (Interrupt.«end» ∈ m.regs.inten → ends.length < starts.countP ReadAction.keepsFrame) := by
  obtain ⟨m, hm⟩ : ∃ m, run ⟨0, 0, 0, 0, fun _ => none⟩ (Machine.new ⟨0, 0, 0, 0, fun _ => none⟩
      [.disabled, .rx, .disabled]
      ⟨[true, true, true, true], [], [10, 10], [.ReadFrameAndStayRX], [.None], []⟩)
      [.setReceiveClient, .receiveAdvertisement, .handleInterrupt, .handleInterrupt] =
      some m := ⟨_, rfl⟩
  exact ⟨m, hm, receive_ends_le_kept_frames _ _ _ _ m hm⟩

end NrfBle
