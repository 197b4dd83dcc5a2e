import NrfBle.Radio.Driver

/-!
# The access address in `PREFIX0` and `BASE0`

`ble_set_access_address` splits a 32-bit access address over the radio's logical address `0`: its
high byte into the low byte of `PREFIX0`, whose other three bytes prefix the other logical
addresses and are kept, and its low three bytes into the high three bytes of `BASE0`. The address
is read back from the two registers bit by bit (`accessAddress_readBack`), and
`access_address_encoded` states it of both entries that set it, `set_access_address` and
`set_channel`.
-/

namespace NrfBle

/-- Bit `j` of `0xFF` is set below `8`. -/
theorem getLsbD_lowByte (j : ℕ) : (0xFF : BitVec 32).getLsbD j = decide (j < 8) := by
  show (BitVec.ofNat 32 (2 ^ 8 - 1)).getLsbD j = _
  rw [BitVec.getLsbD_ofNat, Nat.testBit_two_pow_sub_one]
  by_cases h : j < 8
  · simp [h, show j < 32 by omega]
  · simp [h]

/-- Bit `j` of `0xFFFFFF00` is set from `8` to `31`. -/
theorem getLsbD_highBytes (j : ℕ) :
    (0xFFFFFF00 : BitVec 32).getLsbD j = decide (8 ≤ j ∧ j < 32) := by
  rw [show (0xFFFFFF00 : BitVec 32) = ~~~0xFF by decide, BitVec.getLsbD_not, getLsbD_lowByte]
  by_cases h : j < 8
  · simp [h]
  · simp [h, show 8 ≤ j by omega]

/-- The high byte of `aa` in the low byte of `PREFIX0` and its low three bytes in the high three
of `BASE0` give `aa` back, whatever the other bytes of `PREFIX0` were. -/
theorem accessAddress_readBack (p aa : BitVec 32) :
    ((((p &&& (0xFFFFFF00 : BitVec 32)) ||| (aa >>> 24)) &&& 0xFF) <<< 24) |||
      ((aa <<< 8) >>> 8) = aa := by
  apply BitVec.eq_of_getLsbD_eq
  rintro ⟨i, hi⟩
  simp only [BitVec.getLsbD_or, BitVec.getLsbD_and, BitVec.getLsbD_ushiftRight,
    BitVec.getLsbD_shiftLeft, getLsbD_highBytes, getLsbD_lowByte]
  by_cases h : i < 24
  · simp [h, hi, show 8 + i < 32 by omega]
  · simp [h, hi, show i - 24 < 8 by omega, show 24 + (i - 24) = i by omega,
      show ¬ 8 + i < 32 by omega, show ¬ 8 ≤ i - 24 by omega]

/-- The low byte of `aa << 8` is zero. -/
theorem shiftLeft_eight_lowByte (aa : BitVec 32) : (aa <<< 8) &&& 0xFF = 0 := by
  apply BitVec.eq_of_getLsbD_eq
  rintro ⟨i, hi⟩
  simp only [BitVec.getLsbD_and, BitVec.getLsbD_shiftLeft, getLsbD_lowByte, BitVec.getLsbD_zero]
  by_cases h : i < 8 <;> simp [h]

/-- Setting the low byte of `PREFIX0` keeps its other three bytes. -/
theorem prefix0_highBytes (p aa : BitVec 32) :
    ((p &&& (0xFFFFFF00 : BitVec 32)) ||| (aa >>> 24)) &&& 0xFFFFFF00 = p &&& 0xFFFFFF00 := by
  apply BitVec.eq_of_getLsbD_eq
  rintro ⟨i, hi⟩
  simp only [BitVec.getLsbD_or, BitVec.getLsbD_and, BitVec.getLsbD_ushiftRight, getLsbD_highBytes]
  by_cases h : 8 ≤ i
  · simp [h, hi, BitVec.getLsbD_ge aa (24 + i) (by omega)]
  · simp [h]

/-- `ble_set_access_address` always returns, and leaves `aa` encoded over `PREFIX0`, whose other
bytes it keeps, and `BASE0`. -/
theorem bleSetAccessAddress_apply (aa : BitVec 32) (m : Machine) :
    ∃ m', bleSetAccessAddress aa m = some ((), m') ∧
      ((m'.regs.prefix0 &&& (0xFF : BitVec 32)) <<< 24) ||| (m'.regs.base0 >>> 8) = aa ∧
      m'.regs.base0 &&& 0xFF = 0 ∧ m'.regs.prefix0 &&& 0xFFFFFF00 = m.regs.prefix0 &&& 0xFFFFFF00 :=
  ⟨_, rfl, accessAddress_readBack _ _, shiftLeft_eight_lowByte _, prefix0_highBytes _ _⟩

/-- For every access address `aa` and every machine: `set_access_address aa` always returns, and
`set_channel`, whenever it returns, leaves `aa` encoded in `PREFIX0` and `BASE0`: the low byte of
`PREFIX0` shifted up by `24` over `BASE0` shifted down by `8` is `aa`, the low byte of `BASE0` is
zero, and the high three bytes of `PREFIX0` are those before. -/
theorem access_address_encoded (aa : BitVec 32) :
    (∀ m : Machine, ∃ m', BleConfig.setAccessAddress aa m = some ((), m') ∧
      ((m'.regs.prefix0 &&& (0xFF : BitVec 32)) <<< 24) ||| (m'.regs.base0 >>> 8) = aa ∧
      m'.regs.base0 &&& 0xFF = 0 ∧
      m'.regs.prefix0 &&& 0xFFFFFF00 = m.regs.prefix0 &&& 0xFFFFFF00) ∧
    (∀ (channel : RadioChannel) (crcinit : BitVec 32) (m m' : Machine),
      BleConfig.setChannel channel aa crcinit m = some ((), m') →
      ((m'.regs.prefix0 &&& (0xFF : BitVec 32)) <<< 24) ||| (m'.regs.base0 >>> 8) = aa ∧
      m'.regs.base0 &&& 0xFF = 0 ∧
      m'.regs.prefix0 &&& 0xFFFFFF00 = m.regs.prefix0 &&& 0xFFFFFF00) := by
  refine ⟨bleSetAccessAddress_apply aa, fun channel crcinit m m' h => ?_⟩
  obtain ⟨_, m₁, hch, h₁⟩ := bind_apply_eq_some.mp h
  obtain ⟨_, m₂, haa, hcrc⟩ := bind_apply_eq_some.mp h₁
  have hm₁ : m₁.regs.prefix0 = m.regs.prefix0 := by
    obtain ⟨_, m₀, hread, h₀⟩ := bind_apply_eq_some.mp hch
    obtain ⟨-, rfl⟩ := readState_eq_some.mp hread
    split at h₀
    · simp at h₀
    · simp only [bleSetDataWhitening, bind_apply, pure_apply, modifyRadio_apply, modifyRegs_apply,
        Option.some_bind, Option.some.injEq, Prod.mk.injEq] at h₀
      rw [← h₀.2]
  obtain ⟨m₂', hm₂, henc⟩ := bleSetAccessAddress_apply aa m₁
  rw [haa, Option.some.injEq, Prod.mk.injEq] at hm₂
  cases hcrc
  rw [← hm₁, hm₂.2]
  exact henc

/-- The spec's advertising address `0x8E89BED6`, set with `set_channel` on channel `37` over
`Radio::new()`, with `STATE` reading `DISABLED`. -/
theorem access_address_encoded_advertising :
    ∃ m', BleConfig.setChannel ⟨37⟩ 0x8E89BED6 0x555555
        (Machine.new ⟨0, 0, 0, 0, fun _ => none⟩ [.disabled] ⟨[], [], [], [], [], []⟩) =
        some ((), m') ∧
      ((m'.regs.prefix0 &&& (0xFF : BitVec 32)) <<< 24) ||| (m'.regs.base0 >>> 8) = 0x8E89BED6 ∧
      m'.regs.base0 &&& 0xFF = 0 ∧ m'.regs.prefix0 &&& 0xFFFFFF00 = 0 &&& 0xFFFFFF00 := by
  obtain ⟨m', hm'⟩ : ∃ m', BleConfig.setChannel ⟨37⟩ 0x8E89BED6 0x555555
      (Machine.new ⟨0, 0, 0, 0, fun _ => none⟩ [.disabled] ⟨[], [], [], [], [], []⟩) =
      some ((), m') := ⟨_, rfl⟩
  exact ⟨m', hm', (access_address_encoded 0x8E89BED6).2 _ _ _ m' hm'⟩

end NrfBle
