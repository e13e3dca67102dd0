/-
  `util::upause(duration, func)` (`upause.hpp`): poll `func` every `0x8000`
  cycles until it holds or the TSC passes the deadline.

  * the TSC values `upause` reads are `tsc 0, tsc 1, ...`, and `func()` at
    poll `k` is `func k`; `pause_for(0x8000, tnow)` only spends time, which the
    hypothesis of `upause_returns` states of the reads after it;
  * `pollStep` is one turn of `while (true)`, `upause` the loop from the first
    read, with `end_time = tnow + cycles` on `uint64_t`;
  * `upause_eq_of_stops`: the loop returns at the first poll where `func`
    holds or the TSC read after it is past `end_time`, with `func`'s value
    there; `upause_not_dom`: with no such poll it never returns;
  * `upause_returns`: when each pause lets the TSC advance by `0x8000` and the
    deadline does not wrap, `upause` returns within `cycles / 0x8000 + 1`
    polls, `false` only once the deadline has passed.
-/
import HvDetect.While
import Mathlib.Data.BitVec

namespace HvDetect

namespace Upause

theorem uint64_lt_iff_toNat {a b : UInt64} : a < b ↔ a.toNat < b.toNat :=
  UInt64.lt_def.trans BitVec.lt_def

theorem uint64_toNat_add (a b : UInt64) : (a + b).toNat = (a.toNat + b.toNat) % 2 ^ 64 :=
  BitVec.toNat_add _ _

/-- The loop state of `upause`: the polls made, `tnow`, and what the loop returned. -/
structure PollLoop where
  polls : Nat
  tnow : UInt64
  result : Option Bool

section
variable (tsc : Nat → UInt64) (func : Nat → Bool) (endTime : UInt64)

/-- One turn of `while (true)`: `pause_for(0x8000, tnow)`; `if (func()) return true;`
    `tnow = read_tsc(); if (tnow > end_time) return false;`. -/
def pollStep (l : PollLoop) : PollLoop :=
  if func l.polls then ⟨l.polls + 1, l.tnow, some true⟩
  else
    let tnow := tsc (l.polls + 1)
    ⟨l.polls + 1, tnow, if tnow > endTime then some false else none⟩

/-- Whether poll `k` ends the loop: `func` holds, or the TSC read after it is past `end_time`. -/
def stops (k : Nat) : Bool := func k || endTime < tsc (k + 1)

end

/-- `util::upause(duration, func)`, with `crt::to_cycles(duration)` as `cycles`. -/
def upause (cycles : UInt64) (tsc : Nat → UInt64) (func : Nat → Bool) : Part Bool :=
  let tnow := tsc 0
  let endTime := tnow + cycles
  (whileLoop (fun l => l.result.isNone) (pollStep tsc func endTime) ⟨0, tnow, none⟩).map
    fun l => l.result.getD false

section
variable {tsc : Nat → UInt64} {func : Nat → Bool} {endTime : UInt64}

/-- Before the first poll that stops, the loop is at poll `k` with the `k`-th read. -/
theorem iterate_pollStep : ∀ {k : Nat}, (∀ j < k, stops tsc func endTime j = false) →
    (pollStep tsc func endTime)^[k] ⟨0, tsc 0, none⟩ = ⟨k, tsc k, none⟩
  | 0, _ => rfl
  | k + 1, h => by
    have hk := h k (by omega)
    simp only [stops, Bool.or_eq_false_iff, decide_eq_false_iff_not] at hk
    rw [Function.iterate_succ_apply', iterate_pollStep fun j hj => h j (by omega), pollStep,
      if_neg (by simp [hk.1])]
    simp [hk.2]

/-- The poll that stops returns `func`'s value there. -/
theorem pollStep_of_stops {k : Nat} {t : UInt64} (h : stops tsc func endTime k = true) :
    pollStep tsc func endTime ⟨k, t, none⟩ = ⟨k + 1, if func k then t else tsc (k + 1), some (func k)⟩ := by
  unfold pollStep
  cases hf : func k
  · simp only [stops, hf, Bool.false_or, decide_eq_true_eq] at h
    simp [h]
  · rfl

end

/-- `upause` returns at the first poll where `func` holds or the TSC read after it is past
    `end_time`, with `func`'s value at that poll. -/
theorem upause_eq_of_stops {cycles : UInt64} {tsc : Nat → UInt64} {func : Nat → Bool} {k : Nat}
    (hk : stops tsc func (tsc 0 + cycles) k = true)
    (hmin : ∀ j < k, stops tsc func (tsc 0 + cycles) j = false) :
    upause cycles tsc func = Part.some (func k) := by
  have hrun := Function.iterate_succ_apply' (pollStep tsc func (tsc 0 + cycles)) k ⟨0, tsc 0, none⟩
  rw [iterate_pollStep hmin, pollStep_of_stops hk] at hrun
  have hloop : whileLoop (fun l => l.result.isNone) (pollStep tsc func (tsc 0 + cycles)) ⟨0, tsc 0, none⟩ =
      Part.some ⟨k + 1, if func k then tsc k else tsc (k + 1), some (func k)⟩ := by
    refine Part.eq_some_iff.2 (mem_whileLoop_iff.2 ⟨k + 1, hrun.symm, rfl, fun j hj => ?_⟩)
    rw [iterate_pollStep fun i hi => hmin i (by omega)]
    rfl
  simp only [upause, hloop, Part.map_some, Option.getD_some]

/-- With no poll that stops, `upause` never returns. -/
theorem upause_not_dom {cycles : UInt64} {tsc : Nat → UInt64} {func : Nat → Bool}
    (h : ∀ k, stops tsc func (tsc 0 + cycles) k = false) : ¬ (upause cycles tsc func).Dom := by
  simp only [upause, Part.map_Dom]
  refine whileLoop_not_dom fun k => ?_
  rw [iterate_pollStep fun j _ => h j]
  rfl

/-- When every pause lets the TSC advance by `0x8000` cycles and `tnow + cycles` does not wrap,
    `upause` returns at a poll `k ≤ cycles / 0x8000`, with `func`'s value there: the polls
    before saw `func` false with the deadline not yet passed, and it returns `false` only when
    the TSC read after poll `k` is past the deadline. -/
theorem upause_returns {cycles : UInt64} {tsc : Nat → UInt64} {func : Nat → Bool}
    (hstep : ∀ k ≤ cycles.toNat / 0x8000, (tsc k).toNat + 0x8000 ≤ (tsc (k + 1)).toNat)
    (hwrap : (tsc 0).toNat + cycles.toNat < 2 ^ 64) :
    ∃ k ≤ cycles.toNat / 0x8000, upause cycles tsc func = Part.some (func k) ∧
      (∀ j < k, func j = false ∧ (tsc (j + 1)).toNat ≤ (tsc 0).toNat + cycles.toNat) ∧
      (func k = false → (tsc 0).toNat + cycles.toNat < (tsc (k + 1)).toNat) := by
  have hend : (tsc 0 + cycles).toNat = (tsc 0).toNat + cycles.toNat := by
    rw [uint64_toNat_add, Nat.mod_eq_of_lt hwrap]
  have hgrow : ∀ k ≤ cycles.toNat / 0x8000 + 1, (tsc 0).toNat + k * 0x8000 ≤ (tsc k).toNat := by
    intro k
    induction k with
    | zero => simp
    | succ k ih => intro hk; have := hstep k (by omega); have := ih (by omega); omega
  have hlast : stops tsc func (tsc 0 + cycles) (cycles.toNat / 0x8000) = true := by
    have := hgrow (cycles.toNat / 0x8000 + 1) le_rfl
    simp only [stops, Bool.or_eq_true, decide_eq_true_eq, uint64_lt_iff_toNat, hend]
    omega
  have hstop : ∃ k, stops tsc func (tsc 0 + cycles) k = true := ⟨_, hlast⟩
  have hstops_iff : ∀ j, stops tsc func (tsc 0 + cycles) j = false ↔
      func j = false ∧ (tsc (j + 1)).toNat ≤ (tsc 0).toNat + cycles.toNat := by
    intro j
    simp [stops, uint64_lt_iff_toNat, hend]
  have hfirst := Nat.find_spec hstop
  refine ⟨Nat.find hstop, Nat.find_min' hstop hlast,
    upause_eq_of_stops hfirst fun j hj => by simpa using Nat.find_min hstop hj,
    fun j hj => (hstops_iff j).1 (by simpa using Nat.find_min hstop hj),
    fun hf => Nat.lt_of_not_le fun hle => absurd hfirst (by rw [(hstops_iff _).2 ⟨hf, hle⟩]; decide)⟩

/-- A TSC that reads `0x8000 * k` at the `k`-th read. -/
def steadyTsc (k : Nat) : UInt64 := UInt64.ofNat (0x8000 * k)

theorem upause_returns_steady :
    ((∀ k ≤ (0x10000 : UInt64).toNat / 0x8000, (steadyTsc k).toNat + 0x8000 ≤ (steadyTsc (k + 1)).toNat) ∧
      (steadyTsc 0).toNat + (0x10000 : UInt64).toNat < 2 ^ 64) ∧
    ∃ k ≤ (0x10000 : UInt64).toNat / 0x8000,
      upause 0x10000 steadyTsc (· == 3) = Part.some (k == 3) ∧
      (∀ j < k, (j == 3) = false ∧ (steadyTsc (j + 1)).toNat ≤ (steadyTsc 0).toNat + (0x10000 : UInt64).toNat) ∧
      ((k == 3) = false → (steadyTsc 0).toNat + (0x10000 : UInt64).toNat < (steadyTsc (k + 1)).toNat) :=
  ⟨⟨by decide, by decide⟩, upause_returns (by decide) (by decide)⟩

end Upause

end HvDetect
