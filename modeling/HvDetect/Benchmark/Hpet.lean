/-
  `benchmark::hpet`: the HPET main counter as a metric.

  * `hpet mapped value` is the metric on a machine where the HPET base is
    mapped (`mapped`) and the main counter reads `value i` at its `i`-th
    access; the metric's state is the index of the next access;
  * `fetch(true)` waits for a tick with `compare_exchange_strong(v1, v1)`,
    which fails only once the register no longer reads `v1`:
    `hpet_fetch_first_dom_iff` says it returns exactly when the counter moves,
    with no deadline, and `hpet_fetch_first_mem` that it returns the first
    new value;
  * so a halted counter keeps it polling forever (`hpet_halted_never_returns`),
    and all of `run_single<hpet>` with it (`runSingle_hpet_halted`).
-/
import HvDetect.While
import HvDetect.Benchmark.RunSingle

namespace HvDetect

/-- `hpet`: `setup` returns whether the base is mapped; `fetch(true)` loads `v1` and polls
    `compare_exchange_strong(v1, v1)`, which on failure loads the register into `v1`, until
    it fails; `fetch(false)` loads the register. -/
def hpet (mapped : Bool) (value : Nat → UInt64) : Metric Nat where
  setup i := (⟨mapped, []⟩, i)
  fetch first i :=
    if first then
      (whileLoop (fun j => value j == value i) (· + 1) (i + 1)).map fun j => (⟨value j, []⟩, j + 1)
    else Part.some (⟨value i, []⟩, i + 1)
  rundown i := i

theorem succ_iterate (k n : Nat) : (· + 1)^[k] n = n + k := by
  induction k generalizing n with
  | zero => rfl
  | succ k ih => rw [Function.iterate_succ_apply, ih]; omega

/-- `fetch(true)` returns exactly when a later access reads another value. -/
theorem hpet_fetch_first_dom_iff {mapped : Bool} {value : Nat → UInt64} {i : Nat} :
    ((hpet mapped value).fetch true i).Dom ↔ ∃ j > i, value j ≠ value i := by
  simp only [hpet, if_true, Part.map_Dom, whileLoop_dom_iff, succ_iterate, beq_eq_false_iff_ne]
  constructor
  · rintro ⟨k, hk⟩; exact ⟨i + 1 + k, by omega, hk⟩
  · rintro ⟨j, hj, hne⟩; exact ⟨j - (i + 1), by rwa [show i + 1 + (j - (i + 1)) = j by omega]⟩

/-- What `fetch(true)` returns is the first value after the one it loaded. -/
theorem hpet_fetch_first_mem {mapped : Bool} {value : Nat → UInt64} {i : Nat}
    {r : Call UInt64 × Nat} (h : r ∈ (hpet mapped value).fetch true i) :
    ∃ j > i, value j ≠ value i ∧ (∀ k, i < k → k < j → value k = value i) ∧
      r = (⟨value j, []⟩, j + 1) := by
  simp only [hpet, if_true] at h
  obtain ⟨j, hj, rfl⟩ := (Part.mem_map_iff _).1 h
  obtain ⟨k, rfl, hk, hmin⟩ := mem_whileLoop_iff.1 hj
  simp only [succ_iterate, beq_eq_false_iff_ne] at hk hmin ⊢
  refine ⟨i + 1 + k, by omega, hk, fun l hl hlj => ?_, rfl⟩
  simpa [show i + 1 + (l - (i + 1)) = l by omega] using hmin (l - (i + 1)) (by omega)

/-- A halted main counter reads the same value forever: `fetch(true)` never returns. -/
theorem hpet_halted_never_returns (mapped : Bool) (c : UInt64) (i : Nat) :
    ¬ ((hpet mapped fun _ => c).fetch true i).Dom := by
  rw [hpet_fetch_first_dom_iff]
  rintro ⟨j, -, hne⟩
  exact hne rfl

/-- With the HPET mapped and its main counter halted, `run_single<hpet>` never returns:
    the trial `fetch(true)` runs inside the guard, with interrupts disabled, and has no
    deadline. -/
theorem runSingle_hpet_halted (c : UInt64) (b : Bench Nat) (pick : MidPick)
    (bytes : Nat → UInt8) (i : Nat) : ¬ (runSingle (hpet true fun _ => c) b pick bytes i).Dom := by
  simp only [runSingle, Part.map_Dom, measurements]
  rintro ⟨h, -⟩
  exact hpet_halted_never_returns true c i h

end HvDetect
