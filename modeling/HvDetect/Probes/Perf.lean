/-
  The performance counters the probes of `hypervisor_detection.cpp` share with
  `benchmark.hpp`: the clock MSRs `processor::collect_info` classifies into
  `benchmark::has_mperf`, `has_aperf`, `has_pperf` and `has_irperf`, and the
  SMI counter of `northbridge::test_smi`.

  * `classify` is one turn of the MSR loop of `collect_info` and `collectInfo`
    the loop; `collectInfo_flags` says what `vm.hiddenClocks` (`test_clk`),
    `vm.msrDefaultInvalid` (`test_msr`, on Intel only) and `vm.nullClock`
    then flag, in terms of the reads alone;
  * `counterSetup` is `setup` of the `mperf` and `aperf` metrics and
    `pperfSetup` that of `pperf`, each over the static `msr` and `edx:eax`
    (`MsrRegs`) and run under the guard `run_single` puts up, where a faulting
    read is skipped and records vector 13 (`guardedRead`): `setups_no_fault`
    says that on a machine whose MSRs fault as they did in `collect_info`,
    none of them delivers a vector, so the gate of `run_single` is left to the
    trial fetch, and what each returns does not depend on `edx:eax`;
  * `smiLoop` is the loop that raises the SMIs and `testSmi` the probe on PMC 0,
    with the state it leaves the counter in; `testSmi_report` gives the count
    it expects and the detection.
-/
import HvDetect.Util.Upause
import HvDetect.Benchmark.RunSingle
import Mathlib.Data.BitVec

namespace HvDetect

namespace ClockMsrs

/-- `ia32::read_msr` under an `interrupt_guard`: the value read, or `none` where the read raises
    `#GP`, the one exception it can raise, so that `ctrs.has_exception()` holds exactly there. -/
abbrev MsrRead := UInt32 → Option UInt64

/-- `IA32_MPERF` -/
def ia32Mperf : UInt32 := 0xE7

/-- `IA32_APERF` -/
def ia32Aperf : UInt32 := 0xE8

/-- `IA32_PPERF` -/
def ia32Pperf : UInt32 := 0x64E

/-- `IA32_IRPERF`, the instructions-retired counter of AMD processors. -/
def ia32Irperf : UInt32 := 0xC00000E9

/-- `msr | 0xC0000000`, the read-only alias of a clock MSR. -/
def readOnlyAlias (msr : UInt32) : UInt32 := msr ||| 0xC0000000

/-- The body of `for (auto&& [msr, out] : msr_list)`, each turn with fresh counters: what it
    writes to `out` (0 no, 1 yes, 2 yes with the read-only alias), and whether it sets
    `vm.nullClock`. -/
def classify (rdmsr : MsrRead) (msr : UInt32) : Nat × Bool :=
  match rdmsr msr with
  | none => (0, false)
  | some val =>
    if val = 0 then (0, true)
    else match rdmsr (readOnlyAlias msr) with
      | none => (1, false)
      | some _ => (2, false)

/-- `benchmark::has_mperf`, `has_aperf`, `has_pperf` and `has_irperf`, the `int8_t` classes of
    the clock MSRs. -/
structure PerfCaps where
  mperf : Nat
  aperf : Nat
  pperf : Nat
  irperf : Nat
deriving DecidableEq, Repr

/-- The `int8_t&` of an element of `msr_list`. -/
inductive PerfCounter
  | mperf
  | aperf
  | pperf
  | irperf
deriving DecidableEq, Repr

/-- `out = v` -/
def PerfCaps.set (caps : PerfCaps) : PerfCounter → Nat → PerfCaps
  | .mperf, v => { caps with mperf := v }
  | .aperf, v => { caps with aperf := v }
  | .pperf, v => { caps with pperf := v }
  | .irperf, v => { caps with irperf := v }

/-- `msr_list` -/
def msrList : List (UInt32 × PerfCounter) :=
  [(ia32Mperf, .mperf), (ia32Aperf, .aperf), (ia32Pperf, .pperf), (ia32Irperf, .irperf)]

/-- One turn of the loop on the classes and `detections["vm.nullClock"]`, which it only ever
    sets to `true`. -/
def msrStep (rdmsr : MsrRead) (acc : PerfCaps × Option Bool) (e : UInt32 × PerfCounter) :
    PerfCaps × Option Bool :=
  let c := classify rdmsr e.1
  (acc.1.set e.2 c.1, if c.2 then some true else acc.2)

/-- The MSR loop of `processor::collect_info`. -/
def collectInfo (rdmsr : MsrRead) (caps : PerfCaps) (nullClock : Option Bool) :
    PerfCaps × Option Bool :=
  msrList.foldl (msrStep rdmsr) (caps, nullClock)

/-- `vm.hiddenClocks = !has_aperf || !has_mperf` (`test_clk`). -/
def hiddenClocks (caps : PerfCaps) : Bool := caps.aperf = 0 || caps.mperf = 0

/-- `if (ia32::is_intel()) detections["vm.msrDefaultInvalid"] = has_mperf == 2 && has_irperf;`
    (`test_msr`): `none` where it writes nothing. -/
def msrDefaultInvalid (isIntel : Bool) (caps : PerfCaps) : Option Bool :=
  if isIntel then some (caps.mperf = 2 && caps.irperf ≠ 0) else none

/-- Whether an MSR reads under the guard without `#GP` and non-zero. -/
def readsNonzero (rdmsr : MsrRead) (msr : UInt32) : Bool :=
  match rdmsr msr with
  | some v => v ≠ 0
  | none => false

theorem collectInfo_caps (rdmsr : MsrRead) (caps : PerfCaps) (nullClock : Option Bool) :
    (collectInfo rdmsr caps nullClock).1 =
      ⟨(classify rdmsr ia32Mperf).1, (classify rdmsr ia32Aperf).1, (classify rdmsr ia32Pperf).1,
        (classify rdmsr ia32Irperf).1⟩ := rfl

theorem foldl_msrStep_snd (rdmsr : MsrRead) (l : List (UInt32 × PerfCounter))
    (acc : PerfCaps × Option Bool) :
    (l.foldl (msrStep rdmsr) acc).2 =
      if l.any fun e => (classify rdmsr e.1).2 then some true else acc.2 := by
  induction l generalizing acc with
  | nil => rfl
  | cons e l ih =>
    rw [List.foldl_cons, ih, List.any_cons]
    cases h : (classify rdmsr e.1).2
    · simp only [msrStep, h, Bool.false_or, Bool.false_eq_true, if_false]
    · simp [msrStep, h]

theorem classify_null_iff (rdmsr : MsrRead) (msr : UInt32) :
    (classify rdmsr msr).2 = true ↔ rdmsr msr = some 0 := by
  unfold classify
  rcases rdmsr msr with _ | v
  · simp
  · by_cases hv : v = 0
    · simp [hv]
    · cases rdmsr (readOnlyAlias msr) <;> simp [hv]

theorem classify_eq_zero (rdmsr : MsrRead) (msr : UInt32) :
    decide ((classify rdmsr msr).1 = 0) = !readsNonzero rdmsr msr := by
  unfold classify readsNonzero
  rcases rdmsr msr with _ | v
  · rfl
  · by_cases hv : v = 0
    · simp [hv]
    · cases rdmsr (readOnlyAlias msr) <;> simp [hv]

theorem classify_eq_two (rdmsr : MsrRead) (msr : UInt32) :
    decide ((classify rdmsr msr).1 = 2) =
      (readsNonzero rdmsr msr && (rdmsr (readOnlyAlias msr)).isSome) := by
  unfold classify readsNonzero
  rcases rdmsr msr with _ | v
  · rfl
  · by_cases hv : v = 0
    · simp [hv]
    · cases rdmsr (readOnlyAlias msr) <;> simp [hv]

/-- For every machine and whatever the classes and `vm.nullClock` held before: after
    `collect_info`, `vm.hiddenClocks` is set exactly when `IA32_APERF` or `IA32_MPERF` faults or
    reads 0; on Intel, `vm.msrDefaultInvalid` is set exactly when `IA32_MPERF` reads non-zero,
    its read-only alias reads without fault and `IA32_IRPERF` reads non-zero, and elsewhere it is
    not written; `vm.nullClock` is set exactly when one of the four MSRs reads 0 and is
    otherwise left as it was. -/
theorem collectInfo_flags (rdmsr : MsrRead) (isIntel : Bool) (caps : PerfCaps)
    (nullClock : Option Bool) :
    hiddenClocks (collectInfo rdmsr caps nullClock).1 =
        !(readsNonzero rdmsr ia32Aperf && readsNonzero rdmsr ia32Mperf) ∧
      msrDefaultInvalid isIntel (collectInfo rdmsr caps nullClock).1 =
        (if isIntel then some (readsNonzero rdmsr ia32Mperf &&
          (rdmsr (readOnlyAlias ia32Mperf)).isSome && readsNonzero rdmsr ia32Irperf) else none) ∧
      (collectInfo rdmsr caps nullClock).2 =
        if msrList.any fun e => rdmsr e.1 = some 0 then some true else nullClock := by
  have hnull : (msrList.any fun e => (classify rdmsr e.1).2) =
      msrList.any fun e => rdmsr e.1 = some 0 :=
    congrArg msrList.any <| funext fun e =>
      Bool.eq_iff_iff.2 (by rw [classify_null_iff, decide_eq_true_iff])
  refine ⟨?_, ?_, by rw [collectInfo, foldl_msrStep_snd, hnull]⟩
  · rw [collectInfo_caps]
    show (decide (_ = 0) || decide (_ = 0)) = _
    rw [classify_eq_zero, classify_eq_zero, Bool.not_and]
  · rw [collectInfo_caps, msrDefaultInvalid]
    show (if isIntel then some (decide (_ = 2) && decide (_ ≠ 0)) else none) = _
    rw [classify_eq_two, decide_not, classify_eq_zero, Bool.not_not]

/-- The static `msr` of the `mperf` and `aperf` metrics, and `edx:eax`: what their `setup`
    reads and writes besides the MSRs. -/
structure MsrRegs where
  msr : UInt32
  regs : UInt64
deriving DecidableEq, Repr

/-- `ia32::read_msr` under the guard `run_single` holds over `Metric::setup()`: the value read;
    where the read raises `#GP`, the guard records vector 13 and skips `rdmsr`, and the result
    is what `edx:eax` held. -/
def guardedRead (rdmsr : MsrRead) (msr : UInt32) (st : MsrRegs) : Call UInt64 × MsrRegs :=
  match rdmsr msr with
  | some v => (⟨v, []⟩, { st with regs := v })
  | none => (⟨st.regs, [13]⟩, st)

/-- `mperf::setup` and `aperf::setup` on the counter's MSR and class: for class 2
    `msr = MSR | 0xC0000000`, then for classes 2 and 1 `msr = MSR`, each returning `true` when
    its read is non-zero, with the vectors the reads delivered. -/
def counterSetup (base : UInt32) (has : Nat) (rdmsr : MsrRead) (st : MsrRegs) :
    Call Bool × MsrRegs :=
  let readBase (vs : List UInt8) (st : MsrRegs) : Call Bool × MsrRegs :=
    let r := guardedRead rdmsr base { st with msr := base }
    (⟨decide (r.1.result ≠ 0), vs ++ r.1.vectors⟩, r.2)
  match has with
  | 2 =>
    let r := guardedRead rdmsr (readOnlyAlias base) { st with msr := readOnlyAlias base }
    if r.1.result ≠ 0 then (⟨true, r.1.vectors⟩, r.2) else readBase r.1.vectors r.2
  | 1 => readBase [] st
  | _ => (⟨false, []⟩, st)

/-- `mperf::setup()` -/
def mperfSetup (has : Nat) (rdmsr : MsrRead) (st : MsrRegs) : Call Bool × MsrRegs :=
  counterSetup ia32Mperf has rdmsr st

/-- `aperf::setup()` -/
def aperfSetup (has : Nat) (rdmsr : MsrRead) (st : MsrRegs) : Call Bool × MsrRegs :=
  counterSetup ia32Aperf has rdmsr st

/-- `pperf::setup()`, which reads `IA32_PPERF` itself and never its alias. -/
def pperfSetup (has : Nat) (rdmsr : MsrRead) (st : MsrRegs) : Call Bool × MsrRegs :=
  if has = 0 then (⟨false, []⟩, st) else
    let r := guardedRead rdmsr ia32Pperf st
    (⟨decide (r.1.result ≠ 0), r.1.vectors⟩, r.2)

/-- Two reads of the MSRs, at two times, that fault on the same MSRs. -/
def SameFaults (r₁ r₂ : MsrRead) : Prop := ∀ msr, (r₁ msr).isSome = (r₂ msr).isSome

theorem SameFaults.exists_some {r₁ r₂ : MsrRead} (h : SameFaults r₁ r₂) {msr : UInt32}
    {v : UInt64} (hv : r₁ msr = some v) : ∃ w, r₂ msr = some w :=
  Option.isSome_iff_exists.1 (by rw [← h msr, hv]; rfl)

theorem guardedRead_some {rdmsr : MsrRead} {msr : UInt32} {v : UInt64} (h : rdmsr msr = some v)
    (st : MsrRegs) : guardedRead rdmsr msr st = (⟨v, []⟩, { st with regs := v }) := by
  simp [guardedRead, h]

/-- A `setup` whose reads deliver no vector and whose result does not depend on `edx:eax` or
    the static `msr`. -/
def CleanSetup (setup : MsrRegs → Call Bool × MsrRegs) : Prop :=
  ∀ st st', (setup st).1.vectors = [] ∧ (setup st).1.result = (setup st').1.result

theorem counterSetup_no_fault {r₁ r₂ : MsrRead} (h : SameFaults r₁ r₂) (base : UInt32) :
    CleanSetup (counterSetup base (classify r₁ base).1 r₂) := by
  intro st st'
  unfold classify counterSetup
  rcases h₁ : r₁ base with _ | v
  · exact ⟨rfl, rfl⟩
  obtain ⟨w, hw⟩ := h.exists_some h₁
  by_cases hv : v = 0
  · simp [hv]
  rcases h₂ : r₁ (readOnlyAlias base) with _ | u
  · simp [hv, guardedRead_some hw]
  obtain ⟨u', hu'⟩ := h.exists_some h₂
  by_cases hu : u' = 0 <;> simp [hv, hu, guardedRead_some hw, guardedRead_some hu']

theorem pperfSetup_no_fault {r₁ r₂ : MsrRead} (h : SameFaults r₁ r₂) :
    CleanSetup (pperfSetup (classify r₁ ia32Pperf).1 r₂) := by
  intro st st'
  unfold pperfSetup classify
  rcases h₁ : r₁ ia32Pperf with _ | v
  · exact ⟨rfl, rfl⟩
  obtain ⟨w, hw⟩ := h.exists_some h₁
  split_ifs <;> simp [guardedRead_some hw]

/-- For every machine whose MSRs fault at a benchmark's `setup` as they did in `collect_info`,
    and whatever the classes, the static `msr`s and `edx:eax` held before: the reads of
    `mperf::setup`, `aperf::setup` and `pperf::setup`, under the guard of `run_single`, deliver
    no vector, so that its exception gate is left to the trial fetch, and what each returns
    does not depend on `edx:eax`: each reads only MSRs that `collect_info` read without
    fault. -/
theorem setups_no_fault (r₁ r₂ : MsrRead) (h : SameFaults r₁ r₂) (caps : PerfCaps)
    (nullClock : Option Bool) :
    CleanSetup (mperfSetup (collectInfo r₁ caps nullClock).1.mperf r₂) ∧
      CleanSetup (aperfSetup (collectInfo r₁ caps nullClock).1.aperf r₂) ∧
      CleanSetup (pperfSetup (collectInfo r₁ caps nullClock).1.pperf r₂) := by
  rw [collectInfo_caps]
  exact ⟨counterSetup_no_fault h _, counterSetup_no_fault h _, pperfSetup_no_fault h⟩

/-- Where `IA32_MPERF` reads 1 in `collect_info` and 2 at `setup`, the setup of `mperf` returns
    `true` with no vector, whatever `edx:eax` held. -/
theorem setups_no_fault_on_steady_clocks :
    SameFaults (fun _ => some 1) (fun _ => some 2) ∧
      CleanSetup (mperfSetup (collectInfo (fun _ => some 1) ⟨0, 0, 0, 0⟩ none).1.mperf
        fun _ => some 2) ∧
      (mperfSetup (collectInfo (fun _ => some 1) ⟨0, 0, 0, 0⟩ none).1.mperf (fun _ => some 2)
        ⟨0, 0⟩).1 = ⟨true, []⟩ :=
  ⟨fun _ => rfl,
    (setups_no_fault (fun _ => some 1) (fun _ => some 2) (fun _ => rfl) ⟨0, 0, 0, 0⟩ none).1,
    rfl⟩

end ClockMsrs

namespace TestSmi

open Upause

/-- `while (count) { ia32::write_io(0xB2, 0); --count; ++ecount; }` from `count` and `ecount`:
    the final `ecount`, and the writes to port `0xB2`, each of which raises an SMI. -/
def smiLoop : Nat → UInt64 → UInt64 × Nat
  | 0, ecount => (ecount, 0)
  | count + 1, ecount =>
    let r := smiLoop count (ecount + 1)
    (r.1, r.2 + 1)

/-- The state `test_smi` leaves PMC 0 in. -/
inductive Pmc0
  /-- as the probe found it -/
  | asFound
  /-- set up by `dynamic_set_state(0, smi_received, ctr_enable | ctr_supervisor, true)` -/
  | countingSmis
  /-- after `dynamic_disable(0)` -/
  | disabled
deriving DecidableEq, Repr

/-- What `test_smi` reads of the machine. -/
structure SmiHw where
  isIntel : Bool
  /-- whether `dynamic_set_state` sets PMC 0 up -/
  counterSetup : Bool
  /-- whether reading `IA32_MSR_SMI_COUNT` under the guard raises `#GP` -/
  smiCountFaults : Bool
  /-- `xstd::make_random(1, 8)` -/
  count : Nat
  /-- the two values `read_counter()` returns -/
  first : UInt64
  second : UInt64
deriving DecidableEq, Repr

/-- What `test_smi` writes: `detections["vm.smiSuppressed"]`, `result["smiExpected"]` and
    `result["smiReceived"]`. -/
structure SmiReport where
  smiSuppressed : Option Bool
  smiExpected : Option UInt64
  smiReceived : Option UInt64
deriving DecidableEq, Repr

/-- `northbridge::test_smi()`: the state of PMC 0 after it, and what it writes. -/
def testSmi (hw : SmiHw) : Pmc0 × SmiReport :=
  if !hw.isIntel then (.asFound, ⟨none, none, none⟩)
  else
    let pmc := if hw.counterSetup then Pmc0.countingSmis else .asFound
    if !hw.counterSetup && hw.smiCountFaults then (pmc, ⟨none, none, none⟩)
    else
      let ecount := (smiLoop hw.count hw.first).1
      let rcount := hw.second
      let pmc := if !hw.counterSetup then Pmc0.disabled else pmc
      (pmc, ⟨some (decide (rcount < ecount)), some ecount, some rcount⟩)

theorem smiLoop_eq (count : Nat) (ecount : UInt64) :
    (smiLoop count ecount).1.toNat = (ecount.toNat + count) % 2 ^ 64 ∧
      (smiLoop count ecount).2 = count := by
  induction count generalizing ecount with
  | zero => exact ⟨(Nat.mod_eq_of_lt ecount.toNat_lt_size).symm, rfl⟩
  | succ n ih =>
    obtain ⟨h₁, h₂⟩ := ih (ecount + 1)
    refine ⟨?_, by simp only [smiLoop, h₂]⟩
    have hone : (1 : UInt64).toNat = 1 := rfl
    simp only [smiLoop, h₁, uint64_toNat_add, hone]
    omega

/-- For every Intel machine where the probe has a counter to read: it raises `count` SMIs,
    expects the first reading plus `count` modulo `2^64`, and flags `vm.smiSuppressed` exactly
    when the second reading is below that. -/
theorem testSmi_report (hw : SmiHw) (hintel : hw.isIntel = true)
    (hcounter : hw.counterSetup = true ∨ hw.smiCountFaults = false) :
    (smiLoop hw.count hw.first).2 = hw.count ∧
      (testSmi hw).2.smiExpected.map UInt64.toNat = some ((hw.first.toNat + hw.count) % 2 ^ 64) ∧
      (testSmi hw).2.smiReceived = some hw.second ∧
      (testSmi hw).2.smiSuppressed =
        some (decide (hw.second.toNat < (hw.first.toNat + hw.count) % 2 ^ 64)) := by
  obtain ⟨hexp, hwrites⟩ := smiLoop_eq hw.count hw.first
  have hread : (!hw.counterSetup && hw.smiCountFaults) = false := by
    rcases hcounter with h | h <;> simp [h]
  simp only [testSmi, hintel, Bool.not_true, Bool.false_eq_true, if_false, hread, Option.map_some',
    hexp, hwrites, uint64_lt_iff_toNat, true_and]

theorem testSmi_report_three_smis :
    (⟨true, true, false, 3, 10, 12⟩ : SmiHw).isIntel = true ∧
      ((⟨true, true, false, 3, 10, 12⟩ : SmiHw).counterSetup = true ∨
        (⟨true, true, false, 3, 10, 12⟩ : SmiHw).smiCountFaults = false) ∧
      (testSmi ⟨true, true, false, 3, 10, 12⟩).2.smiSuppressed = some true :=
  ⟨rfl, Or.inl rfl, by
    rw [(testSmi_report ⟨true, true, false, 3, 10, 12⟩ rfl (Or.inl rfl)).2.2.2]; rfl⟩

end TestSmi

end HvDetect
