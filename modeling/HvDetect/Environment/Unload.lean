/-
  `envUnloadDriver` (`environment.cpp`): 21 rounds of unload attempts over a
  list of image bases, and the list of those that could not be unloaded.

  * `World` is what one call of `try_unload` observes: the `dll_base`s of
    `ntpp::module_list`, the `driver_start`s of the `\Driver` objects it can
    reference, and what `ntpp::unload_driver` returns; `tryUnload` is the
    lambda, which succeeds exactly when the image is not in the module list
    (`tryUnload_ok_iff`);
  * the system's behaviour is any `world : Nat → Nat → World`, by round and by
    input entry, since each entry is tried at most once a round; the entries
    carry their input position, which the code does not read;
  * `eraseRound` is `std::erase_if` with its predicate, called once per entry
    in order and appending to `error_list` on the last round;
    `envUnloadDriver` is the loop over the rounds `0, ..., 20`;
  * `envUnloadDriver_errors`: the error list holds the input entries that
    failed in every round, once each and in input order, with the last
    round's status; every other entry was found outside the module list in a
    round it was still tried in.
-/
import Mathlib.Data.List.Basic

namespace HvDetect

namespace Unload

/-- What one call of `try_unload` observes: the `dll_base` of each module of
    `ntpp::module_list`, the `driver_start` of each `\Driver` object that
    `ntpp::reference_object_by_name` returns, and `ntpp::unload_driver(obj, seriously)`. -/
structure World where
  modules : List Nat
  drivers : List Nat
  unloadDriver : Bool → Except String Unit

/-- `try_unload(img, seriously)`: success if the image is not loaded; otherwise a failure,
    with `unload_driver`'s status if it fails and `"Unload pending."` if it succeeds. -/
def tryUnload (w : World) (img : Nat) (seriously : Bool) : Except String Unit :=
  if !w.modules.any (· == img) then pure ()
  else if !w.drivers.any (· == img) then throw "Can\x27t find driver object associated."
  else match w.unloadDriver seriously with
    | .ok () => throw "Unload pending."
    | .error s => throw s

/-- Round `n`: `std::erase_if(images, pred)`, which calls `pred` once per entry, in order,
    and keeps the entries it returns `false` on; on the last round, `n >= 20`, each failure
    is appended to `error_list` with its base and status. `seriously` is `n >= 15`. -/
def eraseRound (world : Nat → Nat → World) (n : Nat) :
    List (Nat × Nat) → List (Nat × String) → List (Nat × Nat) × List (Nat × String)
  | [], errs => ([], errs)
  | (i, img) :: images, errs =>
    match tryUnload (world n i) img (decide (15 ≤ n)) with
    | .ok () => eraseRound world n images errs
    | .error s =>
      let r := eraseRound world n images (if 20 ≤ n then errs ++ [(img, s)] else errs)
      ((i, img) :: r.1, r.2)

/-- `envUnloadDriver(input)`: the rounds `n = 0, 1, ...` up to the first with `n >= 20`, over
    the input's entries, each with its position; the error list. -/
def envUnloadDriver (world : Nat → Nat → World) (input : List Nat) : List (Nat × String) :=
  ((List.range 21).foldl (fun st n => eraseRound world n st.1 st.2) (input.enum, [])).2

/-! ## Rounds -/

/-- Whether `try_unload` succeeds on entry `e` in round `n`. -/
def unloaded (world : Nat → Nat → World) (n : Nat) (e : Nat × Nat) : Bool :=
  match tryUnload (world n e.1) e.2 (decide (15 ≤ n)) with
  | .ok _ => true
  | .error _ => false

/-- The status of `try_unload` on entry `e` in round `n`, if it fails. -/
def failure (world : Nat → Nat → World) (n : Nat) (e : Nat × Nat) : String :=
  match tryUnload (world n e.1) e.2 (decide (15 ≤ n)) with
  | .ok _ => ""
  | .error s => s

/-- Whether `try_unload` fails on entry `e` in every round before `k`. -/
def failsBefore (world : Nat → Nat → World) (k : Nat) (e : Nat × Nat) : Bool :=
  (List.range k).all fun n => !unloaded world n e

/-- `try_unload` succeeds exactly when the image is not in the module list. -/
theorem tryUnload_ok_iff {w : World} {img : Nat} {seriously : Bool} :
    tryUnload w img seriously = pure () ↔ w.modules.any (· == img) = false := by
  unfold tryUnload
  cases hm : w.modules.any (· == img)
  · simp
  · refine ⟨fun h => ?_, nofun⟩
    simp only [Bool.not_true, Bool.false_eq_true, if_false] at h
    split at h
    · cases h
    · split at h <;> cases h

theorem unloaded_iff {world : Nat → Nat → World} {n : Nat} {e : Nat × Nat} :
    unloaded world n e = true ↔ (world n e.1).modules.any (· == e.2) = false := by
  rw [← @tryUnload_ok_iff _ _ (decide (15 ≤ n)), unloaded]
  cases tryUnload (world n e.1) e.2 (decide (15 ≤ n)) with
  | ok u => exact ⟨fun _ => rfl, fun _ => rfl⟩
  | error s => exact ⟨nofun, fun h => by cases h⟩

theorem failsBefore_zero (world : Nat → Nat → World) (e : Nat × Nat) : failsBefore world 0 e = true :=
  rfl

theorem failsBefore_succ (world : Nat → Nat → World) (k : Nat) (e : Nat × Nat) :
    failsBefore world (k + 1) e = (failsBefore world k e && !unloaded world k e) := by
  simp [failsBefore, List.range_succ]

/-- One round keeps the entries `try_unload` fails on, in order, and on the last round
    appends them to the error list with their status. -/
theorem eraseRound_eq (world : Nat → Nat → World) (n : Nat) :
    ∀ (images : List (Nat × Nat)) (errs : List (Nat × String)),
      eraseRound world n images errs =
        (images.filter fun e => !unloaded world n e,
          errs ++ if 20 ≤ n then (images.filter fun e => !unloaded world n e).map
            (fun e => (e.2, failure world n e)) else [])
  | [], errs => by simp [eraseRound]
  | (i, img) :: images, errs => by
    rw [eraseRound]
    cases h : tryUnload (world n i) img (decide (15 ≤ n)) with
    | ok u =>
      have hu : unloaded world n (i, img) = true := by simp [unloaded, h]
      rw [eraseRound_eq world n images errs, List.filter_cons_of_neg (by simp [hu])]
    | error s =>
      have hu : unloaded world n (i, img) = false := by simp [unloaded, h]
      have hs : failure world n (i, img) = s := by simp [failure, h]
      dsimp only
      rw [eraseRound_eq world n images, List.filter_cons_of_pos (by simp [hu])]
      by_cases hn : 20 ≤ n <;> simp [hn, hs]

/-- Before the last round, the entries left are those that failed every round so far, and
    the error list is empty. -/
theorem rounds_eq (world : Nat → Nat → World) (images : List (Nat × Nat)) :
    ∀ k ≤ 20, (List.range k).foldl (fun st n => eraseRound world n st.1 st.2) (images, []) =
      (images.filter (failsBefore world k), [])
  | 0, _ => by rw [List.filter_eq_self.2 fun e _ => failsBefore_zero world e]; rfl
  | k + 1, hk => by
    rw [List.range_succ, List.foldl_append, rounds_eq world images k (by omega), List.foldl_cons,
      List.foldl_nil, eraseRound_eq, if_neg (by omega), List.append_nil, List.filter_filter]
    congr 2
    funext e
    rw [failsBefore_succ, Bool.and_comm]

/-- The error list holds the entries that failed in every round, in input order, each with
    the status of its last round. -/
theorem envUnloadDriver_eq (world : Nat → Nat → World) (input : List Nat) :
    envUnloadDriver world input =
      (input.enum.filter (failsBefore world 21)).map fun e => (e.2, failure world 20 e) := by
  rw [envUnloadDriver, List.range_succ, List.foldl_append, rounds_eq world _ 20 le_rfl,
    List.foldl_cons, List.foldl_nil, eraseRound_eq, if_pos le_rfl, List.nil_append, List.filter_filter]
  dsimp only
  congr 2
  funext e
  rw [failsBefore_succ world 20 e, Bool.and_comm]

/-- An entry that does not fail every round before `k` succeeds in a round before `k` that
    it was still tried in: one it failed every round before. -/
theorem exists_unloaded_round {world : Nat → Nat → World} {e : Nat × Nat} :
    ∀ {k : Nat}, failsBefore world k e = false →
      ∃ n < k, failsBefore world n e = true ∧ unloaded world n e = true
  | 0, h => absurd (failsBefore_zero world e) (by simp [h])
  | k + 1, h => by
    rw [failsBefore_succ] at h
    cases hk : failsBefore world k e
    · obtain ⟨n, hn, h'⟩ := exists_unloaded_round hk
      exact ⟨n, by omega, h'⟩
    · exact ⟨k, by omega, hk, by simpa [hk] using h⟩

/-- For every input, duplicates allowed, and every behaviour of the module list, the driver
    objects and `unload_driver` over the rounds: the error list is the entries that failed in
    every round, once each, in input order, with their last status; and every other entry
    was found outside the module list in a round it was still tried in. -/
theorem envUnloadDriver_errors (world : Nat → Nat → World) (input : List Nat) :
    envUnloadDriver world input =
        (input.enum.filter (failsBefore world 21)).map (fun e => (e.2, failure world 20 e)) ∧
      ∀ e ∈ input.enum, failsBefore world 21 e = false →
        ∃ n < 21, failsBefore world n e = true ∧ (world n e.1).modules.any (· == e.2) = false := by
  refine ⟨envUnloadDriver_eq world input, fun e _ h => ?_⟩
  obtain ⟨n, hn, hb, hu⟩ := exists_unloaded_round h
  exact ⟨n, hn, hb, unloaded_iff.1 hu⟩

end Unload

end HvDetect
