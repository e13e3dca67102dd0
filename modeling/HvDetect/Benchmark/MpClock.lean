/-
  `benchmark::mp_clock` and the third DPC of `hvDetectBasic`: the cross-core
  clock.

  * `ClockShared` is the memory the cores share: `mp_clock::timestamp`,
    `mp_clock::jump_point` (null, or `&p`), the byte at `p:` in `timer()`
    (`jmp x`, or the `ret` core 0 patches in) and `clock_latch`; all are
    statics, so a call of `hvDetectBasic` finds them as the last one left
    them;
  * `mainStep` is core 0's body (the wait for `jump_point`, `run_bench` with
    the setups of its ten `run_single<mp_clock>`, the patch), `auxStep` the
    body of another core (the latch, `timer()`, the restore);
    `ClockSys.step` moves one core, or starts the next call of
    `hvDetectBasic` once every core has left the DPC;
  * `FirstInv` holds along every interleaving of the first call: no core
    has taken the latch, or one has and its place (`KeeperOk`) fixes core 0's
    and the statics'; `firstCall_clockRunning` says that while core 0 is in a
    `run_single<mp_clock>` whose setup passed, the timekeeper is in its
    increment loop, and `firstCall_end` that the call ends with exactly one
    timekeeper and the `jmp` byte restored;
  * `secondCall_without_timekeeper`: in the second call no core takes the
    latch, yet core 0 skips the wait and the stale `timestamp` passes setup.
-/
import Mathlib.Data.Fintype.Basic

namespace HvDetect

/-- The byte at `p:` in `mp_clock::timer`: `jmp x` (`0xEB`) or `ret` (`0xC3`). -/
inductive Opcode
  | jmp
  | ret
deriving DecidableEq, Repr

/-- The statics the cores share. -/
structure ClockShared where
  timestamp : Nat
  jumpPoint : Bool
  code : Opcode
  clockLatch : Bool
deriving DecidableEq, Repr

/-- Where core 0 is in the third DPC: waiting for `jump_point`, in `run_bench` with `k`
    calls of `run_single<mp_clock>` to come, in one whose `setup()` passed, before the
    patch, or done. -/
inductive MainPc
  | waiting
  | benching (k : Nat)
  | measuring (k : Nat)
  | patching
  | done
deriving DecidableEq, Repr

/-- Where another core is in the third DPC: before the latch, in `timer()` before
    publishing `jump_point`, in the increment loop (at `x:` or at `p:`, with its `rax`),
    before restoring the `jmp` byte, done as the timekeeper, or done after losing the
    latch. -/
inductive AuxPc
  | start
  | publish
  | loop (rax : Nat)
  | atP (rax : Nat)
  | restore
  | finished
  | skipped
deriving DecidableEq, Repr

/-- `run_bench` makes ten `benchmark::run` calls, each running `run_single<mp_clock>` once. -/
def benchRuns : Nat := 10

/-- One step of core 0; `intel` is `ia32::is_intel()`. -/
def mainStep (intel : Bool) (sh : ClockShared) : MainPc → ClockShared × MainPc
  | .waiting => (sh, if sh.jumpPoint then .benching benchRuns else .waiting)
  | .benching 0 => (sh, .patching)
  | .benching (k + 1) => (sh, if intel && sh.timestamp != 0 then .measuring k else .benching k)
  | .measuring k => (sh, .benching k)
  | .patching => ({ sh with code := .ret }, .done)
  | .done => (sh, .done)

/-- One step of another core: `clock_latch.exchange(true)`, then as the timekeeper
    `timer()` (`mov [jump_point], rax`, then `inc rax; mov [rcx], rax` until the byte at
    `p:` is `ret`) and `*jump_point = 0xEB`. -/
def auxStep (sh : ClockShared) : AuxPc → ClockShared × AuxPc
  | .start => ({ sh with clockLatch := true }, if sh.clockLatch then .skipped else .publish)
  | .publish => ({ sh with jumpPoint := true }, .loop 0)
  | .loop rax => ({ sh with timestamp := rax + 1 }, .atP (rax + 1))
  | .atP rax => (sh, if sh.code = .jmp then .loop rax else .restore)
  | .restore => ({ sh with code := .jmp }, .finished)
  | .finished => (sh, .finished)
  | .skipped => (sh, .skipped)

namespace AuxPc

/-- The core won the latch: it is, or was, the timekeeper. -/
def keeper : AuxPc → Bool
  | .start | .skipped => false
  | _ => true

/-- The core has published `jump_point`. -/
def published : AuxPc → Bool
  | .loop _ | .atP _ | .restore | .finished => true
  | _ => false

/-- The core has left `timer()`. -/
def exited : AuxPc → Bool
  | .restore | .finished => true
  | _ => false

/-- The core is in the increment loop of `timer()`. -/
def inTimerLoop : AuxPc → Bool
  | .loop _ | .atP _ => true
  | _ => false

/-- The core has left the DPC. -/
def returned : AuxPc → Bool
  | .finished | .skipped => true
  | _ => false

end AuxPc

/-- Core 0, and the cores `1 .. n`. -/
structure ClockSys (n : Nat) where
  sh : ClockShared
  main : MainPc
  aux : Fin n → AuxPc

/-- What moves next: core 0, another core, or the next call of `hvDetectBasic`. -/
inductive Choice (n : Nat)
  | main
  | aux (i : Fin n)
  | invoke
deriving DecidableEq

namespace ClockSys

variable {n : Nat}

/-- One step of the interleaving. A new call starts only once every core has left the
    DPC; it restarts every core's body and leaves the statics as they are. -/
def step (intel : Bool) (s : ClockSys n) : Choice n → ClockSys n
  | .main => ⟨(mainStep intel s.sh s.main).1, (mainStep intel s.sh s.main).2, s.aux⟩
  | .aux i =>
    ⟨(auxStep s.sh (s.aux i)).1, s.main, Function.update s.aux i (auxStep s.sh (s.aux i)).2⟩
  | .invoke =>
    if s.main = .done ∧ ∀ i, (s.aux i).returned then ⟨s.sh, .waiting, fun _ => .start⟩ else s

/-- The machine at load: every static zero, every core at the start of the first call. -/
def boot (n : Nat) : ClockSys n := ⟨⟨0, false, .jmp, false⟩, .waiting, fun _ => .start⟩

/-- An interleaving. -/
def run (intel : Bool) (s : ClockSys n) (cs : List (Choice n)) : ClockSys n :=
  cs.foldl (step intel) s

/-- What the cross-core clock needs: while core 0 is in a `run_single<mp_clock>` whose
    setup passed, another core is in the increment loop. -/
def ClockRunning (s : ClockSys n) : Prop :=
  ∀ k, s.main = .measuring k → ∃ i, (s.aux i).inTimerLoop

/-! ## The first call -/

/-- What the timekeeper's place fixes of core 0 and the statics in the first call: before it
    publishes `jump_point`, core 0 is still waiting; while it loops, the byte at `p:` is
    `ret` exactly once core 0 is done; when it has left `timer()`, core 0 is done, and the
    byte is `ret` until it restores `jmp`. -/
def KeeperOk (sh : ClockShared) (m : MainPc) : AuxPc → Prop
  | .publish => m = .waiting ∧ sh.jumpPoint = false ∧ sh.code = .jmp
  | .loop _ | .atP _ => sh.jumpPoint = true ∧ sh.code = if m = .done then .ret else .jmp
  | .restore => sh.jumpPoint = true ∧ m = .done ∧ sh.code = .ret
  | .finished => sh.jumpPoint = true ∧ m = .done ∧ sh.code = .jmp
  | .start | .skipped => False

/-- The invariant of the first call: either no core has taken the latch and nothing but
    core 0's wait has run, or one core `k` took it, every other core is before the latch or
    lost it, and `k`'s place is as `KeeperOk` says. -/
def FirstInv (s : ClockSys n) : Prop :=
  (s.sh.clockLatch = false ∧ s.main = .waiting ∧ s.sh.jumpPoint = false ∧ s.sh.code = .jmp ∧
      ∀ i, s.aux i = .start) ∨
    (s.sh.clockLatch = true ∧ ∃ k, KeeperOk s.sh s.main (s.aux k) ∧
      ∀ j, j ≠ k → s.aux j = .start ∨ s.aux j = .skipped)

@[simp] theorem mainStep_clockLatch (intel : Bool) (sh : ClockShared) (m : MainPc) :
    (mainStep intel sh m).1.clockLatch = sh.clockLatch := by
  cases m with
  | benching k => cases k <;> rfl
  | _ => rfl

theorem keeperOk_mainStep {intel : Bool} {sh : ClockShared} {m : MainPc} {a : AuxPc}
    (h : KeeperOk sh m a) : KeeperOk (mainStep intel sh m).1 (mainStep intel sh m).2 a := by
  cases a with
  | publish => obtain ⟨rfl, hj, hc⟩ := h; simp [mainStep, KeeperOk, hj, hc]
  | loop _ | atP _ =>
    obtain ⟨hj, hc⟩ := h
    cases m with
    | benching k =>
      cases k with
      | zero => simp [mainStep, KeeperOk, hj, hc]
      | succ k => simp only [mainStep]; split <;> simp [KeeperOk, hj, hc]
    | _ => simp_all [mainStep, KeeperOk]
  | restore | finished => obtain ⟨hj, rfl, hc⟩ := h; exact ⟨hj, rfl, hc⟩
  | start | skipped => exact h.elim

theorem keeperOk_auxStep {sh : ClockShared} {m : MainPc} {a : AuxPc} (h : KeeperOk sh m a) :
    KeeperOk (auxStep sh a).1 m (auxStep sh a).2 := by
  cases a with
  | publish => obtain ⟨rfl, -, hc⟩ := h; simp [auxStep, KeeperOk, hc]
  | loop _ => exact h
  | atP _ =>
    obtain ⟨hj, hc⟩ := h
    by_cases hd : m = .done <;> simp_all [auxStep, KeeperOk]
  | restore => obtain ⟨hj, rfl, -⟩ := h; exact ⟨hj, rfl, rfl⟩
  | finished => exact h
  | start | skipped => exact h.elim

theorem keeperOk_latch {sh : ClockShared} {m : MainPc} {a : AuxPc} (b : Bool) :
    KeeperOk { sh with clockLatch := b } m a ↔ KeeperOk sh m a := by
  cases a <;> rfl

/-- Once the latch is taken, a core before it or that lost it only sets it again. -/
theorem auxStep_latched {sh : ClockShared} {a : AuxPc} (hl : sh.clockLatch = true)
    (ha : a = .start ∨ a = .skipped) : auxStep sh a = ({ sh with clockLatch := true }, .skipped) := by
  rcases ha with rfl | rfl <;> cases sh <;> simp_all [auxStep]

theorem firstInv_boot : FirstInv (boot n) := Or.inl ⟨rfl, rfl, rfl, rfl, fun _ => rfl⟩

theorem main_firstInv {intel : Bool} {s : ClockSys n} (h : FirstInv s) :
    FirstInv (s.step intel .main) := by
  rcases h with ⟨hl, hm, hj, hc, hs⟩ | ⟨hl, k, hk, hj⟩
  · left
    simp [step, mainStep, hl, hm, hj, hc, hs]
  · exact Or.inr ⟨(mainStep_clockLatch intel _ _).trans hl, k, keeperOk_mainStep hk, hj⟩

theorem aux_firstInv {intel : Bool} {s : ClockSys n} (h : FirstInv s) (i : Fin n) :
    FirstInv (s.step intel (.aux i)) := by
  refine Or.inr ?_
  dsimp only [step]
  rcases h with ⟨hl, hm, hj, hc, hs⟩ | ⟨hl, k, hk, hj⟩
  · -- core `i` takes the latch
    refine ⟨by simp [auxStep, hs], i, ?_, fun j hji => Or.inl ?_⟩
    · simp [hs, auxStep, hl, KeeperOk, hm, hj, hc]
    · simp [Function.update_noteq hji, hs]
  · by_cases hik : i = k
    · subst hik
      refine ⟨?_, i, by simpa using keeperOk_auxStep hk, fun j hji => ?_⟩
      · cases hi : s.aux i <;> simp_all [auxStep, KeeperOk]
      · simpa [Function.update_noteq hji] using hj j hji
    · rw [auxStep_latched hl (hj i hik)]
      refine ⟨rfl, k, by simpa [Function.update_noteq (Ne.symm hik), keeperOk_latch] using hk,
        fun j hjk => ?_⟩
      by_cases hji : j = i
      · subst hji; simp
      · simpa [Function.update_noteq hji] using hj j hjk

theorem step_firstInv {intel : Bool} {s : ClockSys n} (h : FirstInv s) {c : Choice n}
    (hc : c ≠ .invoke) : FirstInv (s.step intel c) := by
  cases c with
  | main => exact main_firstInv h
  | aux i => exact aux_firstInv h i
  | invoke => exact absurd rfl hc

/-- Every interleaving of the first call keeps `FirstInv`. -/
theorem run_firstInv {intel : Bool} :
    ∀ {s : ClockSys n} (cs : List (Choice n)), FirstInv s → (∀ c ∈ cs, c ≠ .invoke) →
      FirstInv (s.run intel cs)
  | _, [], h, _ => h
  | _, c :: cs, h, hcs =>
    run_firstInv cs (step_firstInv h (hcs c (List.mem_cons_self _ _)))
      fun c' h' => hcs c' (List.mem_cons_of_mem _ h')

/-- In the first call, while core 0 is in a `run_single<mp_clock>` whose setup passed, the
    timekeeper is in its increment loop. -/
theorem FirstInv.clockRunning {s : ClockSys n} (h : FirstInv s) : s.ClockRunning := by
  intro k hk
  rcases h with ⟨-, hm, -⟩ | ⟨-, j, hj, -⟩
  · simp [hm] at hk
  · refine ⟨j, ?_⟩
    cases hj' : s.aux j <;> simp_all [KeeperOk, AuxPc.inTimerLoop]

/-- The first call ends with exactly one timekeeper, and the `jmp` byte restored. -/
theorem FirstInv.at_return {s : ClockSys n} (h : FirstInv s) (hd : s.main = .done)
    (hr : ∀ i, (s.aux i).returned) :
    s.sh.code = .jmp ∧ ∃ k, (s.aux k).keeper ∧ ∀ j, (s.aux j).keeper → j = k := by
  rcases h with ⟨-, hm, -⟩ | ⟨-, k, hk, hj⟩
  · simp [hm] at hd
  · have hfin : s.aux k = .finished := by
      have := hr k
      cases hk' : s.aux k <;> simp_all [KeeperOk, AuxPc.returned]
    rw [hfin] at hk
    refine ⟨hk.2.2, k, by simp [hfin, AuxPc.keeper], fun j hjk => ?_⟩
    by_contra hne
    rcases hj j hne with h' | h' <;> simp [h', AuxPc.keeper] at hjk

/-- **The first call is sound.** Along every interleaving of the first call of
    `hvDetectBasic`, whenever core 0 is in a `run_single<mp_clock>` whose setup passed,
    some other core is in the increment loop of `timer()`. -/
theorem firstCall_clockRunning (intel : Bool) (cs : List (Choice n))
    (hcs : ∀ c ∈ cs, c ≠ .invoke) : ((boot n).run intel cs).ClockRunning :=
  (run_firstInv cs firstInv_boot hcs).clockRunning

/-- The first call of `hvDetectBasic` ends, once every core has left the DPC, with exactly
    one timekeeper and the `jmp` byte restored. -/
theorem firstCall_end (intel : Bool) (cs : List (Choice n)) (hcs : ∀ c ∈ cs, c ≠ .invoke)
    (hd : ((boot n).run intel cs).main = .done) (hr : ∀ i, (((boot n).run intel cs).aux i).returned) :
    ((boot n).run intel cs).sh.code = .jmp ∧
      ∃ k, (((boot n).run intel cs).aux k).keeper ∧
        ∀ j, (((boot n).run intel cs).aux j).keeper → j = k :=
  (run_firstInv cs firstInv_boot hcs).at_return hd hr

/-! ## The second call -/

/-- With two logical processors, a second call of `hvDetectBasic`: the first call runs to
    its end (the other core takes the latch and keeps time), then in the second the other
    core finds the latch taken, core 0 finds `jump_point` still set and skips the wait, and
    the stale `timestamp` passes the setup of its first `run_single<mp_clock>`, with no core
    in the increment loop. -/
theorem secondCall_without_timekeeper :
    ∃ cs : List (Choice 1), cs.count .invoke = 1 ∧
      ((boot 1).run true cs).main = .measuring 9 ∧
      ((boot 1).run true cs).aux 0 = .skipped ∧
      ¬ ((boot 1).run true cs).ClockRunning := by
  refine ⟨[.aux 0, .aux 0, .aux 0] ++ List.replicate 23 .main ++
      [.aux 0, .aux 0, .invoke, .main, .aux 0, .main], by decide, by decide, by decide, ?_⟩
  intro h
  obtain ⟨i, hi⟩ := h 9 (by decide)
  have h0 : i = 0 := Subsingleton.elim i 0
  subst h0
  revert hi
  decide

end ClockSys

end HvDetect
