import Mathlib.Data.BitVec
import Mathlib.Logic.Function.Basic

/-!
# Rust's checked arithmetic and arrays

The driver and the connection code compute on `u8`, `u16` and `u32` and index fixed-size arrays.
Both are modelled as Rust runs them with overflow checks on: a `+` or `-` that leaves the type's
range, a `%` by zero and an index past the end of an array panic, and a panic is `none`. An array
`[T; n]` is a function on `Fin n`, read and written through the bounds check of `index?` and
`update?`.

The simp lemmas here turn each checked operation into its arithmetic when the check passes, so
that later proofs never unfold the operations.
-/

namespace NrfBle

variable {w n : ℕ} {α : Type}

/-- Rust's `a + b` on a `w`-bit unsigned integer: the sum, or a panic when it overflows. -/
def checkedAdd (a b : BitVec w) : Option (BitVec w) :=
  if a.toNat + b.toNat < 2 ^ w then some (a + b) else none

/-- Rust's `a - b` on a `w`-bit unsigned integer: the difference, or a panic when `b > a`. -/
def checkedSub (a b : BitVec w) : Option (BitVec w) :=
  if b.toNat ≤ a.toNat then some (a - b) else none

/-- Rust's `a % b` on a `w`-bit unsigned integer: the remainder, or a panic when `b = 0`. -/
def checkedRem (a b : BitVec w) : Option (BitVec w) :=
  if b = 0 then none else some (a % b)

/-- The read `a[i]` of an array `[T; n]`: a panic when `i` is out of bounds. -/
def index? (a : Fin n → α) (i : ℕ) : Option α :=
  if h : i < n then some (a ⟨i, h⟩) else none

/-- The assignment `a[i] = v` to an array `[T; n]`: a panic when `i` is out of bounds. -/
def update? (a : Fin n → α) (i : ℕ) (v : α) : Option (Fin n → α) :=
  if h : i < n then some (Function.update a ⟨i, h⟩ v) else none

/-- A checked addition succeeds exactly when the sum fits, and then its value is the sum. -/
@[simp]
theorem checkedAdd_eq_some {a b c : BitVec w} :
    checkedAdd a b = some c ↔ a.toNat + b.toNat < 2 ^ w ∧ c.toNat = a.toNat + b.toNat := by
  unfold checkedAdd
  split_ifs with h
  · simp only [Option.some.injEq, h, true_and]
    constructor
    · rintro rfl; simp [BitVec.toNat_add, Nat.mod_eq_of_lt h]
    · intro hc; apply BitVec.eq_of_toNat_eq; simp [BitVec.toNat_add, Nat.mod_eq_of_lt h, hc]
  · simp [h]

/-- A checked subtraction succeeds exactly when it does not go below zero, with the difference. -/
@[simp]
theorem checkedSub_eq_some {a b c : BitVec w} :
    checkedSub a b = some c ↔ b.toNat ≤ a.toNat ∧ c.toNat = a.toNat - b.toNat := by
  unfold checkedSub
  split_ifs with h
  · have hb := b.isLt
    have hwrap : 2 ^ w - b.toNat + a.toNat = (a.toNat - b.toNat) + 2 ^ w := by omega
    have hsub : (a - b).toNat = a.toNat - b.toNat := by
      rw [BitVec.toNat_sub, hwrap, Nat.add_mod_right, Nat.mod_eq_of_lt (by omega)]
    simp only [Option.some.injEq, h, true_and]
    exact ⟨fun e => e ▸ hsub, fun hc => BitVec.eq_of_toNat_eq (hsub.trans hc.symm)⟩
  · simp [h]

/-- A checked remainder by a nonzero divisor is the remainder. -/
@[simp]
theorem checkedRem_eq_some {a b c : BitVec w} :
    checkedRem a b = some c ↔ b ≠ 0 ∧ c = a % b := by
  unfold checkedRem
  split_ifs with h
  · simp [h]
  · simp only [Option.some.injEq]
    exact ⟨fun e => ⟨h, e.symm⟩, fun e => e.2.symm⟩

/-- An in-bounds read returns the element. -/
@[simp]
theorem index?_of_lt (a : Fin n → α) {i : ℕ} (h : i < n) : index? a i = some (a ⟨i, h⟩) := by
  simp [index?, h]

/-- An in-bounds write updates the element. -/
@[simp]
theorem update?_of_lt (a : Fin n → α) {i : ℕ} (h : i < n) (v : α) :
    update? a i v = some (Function.update a ⟨i, h⟩ v) := by
  simp [update?, h]

/-- A read succeeds exactly in bounds. -/
theorem index?_isSome_iff (a : Fin n → α) (i : ℕ) : (index? a i).isSome ↔ i < n := by
  unfold index?; split_ifs with h <;> simp [h]

/-- A loop `for i in 0..k + 1` in `Option` is the loop to `k`, then pass `k`. -/
theorem foldlM_range_succ {β : Type} (f : β → ℕ → Option β) (b : β) (k : ℕ) :
    (List.range (k + 1)).foldlM f b = ((List.range k).foldlM f b).bind (f · k) := by
  simp only [List.range_succ, List.foldlM_append, List.foldlM_cons, List.foldlM_nil, bind_pure]
  rfl

end NrfBle
