/-
  Three of the per-processor checks of `hypervisor_detection.cpp` that judge one
  instruction's result: the STR and SLDT checks of `processor::test_int`, the
  `IA32_TSC_ADJUST` check of `processor::test_clk`, and the two interrupt-counting checks
  of `processor::test_msr`.

  * `storeSelector` is what `str` and `sldt` leave in a 64-bit register as the
    architecture defines them for a register destination: the selector
    zero-extended at 64 and 32 bits (a write to a 32-bit register clears the
    upper half), and only the low 16 bits replaced at 16 bits;
  * `selectorCheck` is the block both checks run, over what a processor (or
    its emulation) stores at each operand size, and `selectorEmulFail` the
    detection `b != 0`;
  * `selectorEmulFail_iff_storeSelector`: a check leaves its flag clear
    exactly when, on the three registers it stores into (`probeStores`), the
    processor's stores agree above bit 15 with the architecture's; so a
    processor that stores selectors as specified is never flagged, whatever
    TR and LDTR hold, and any store that differs there is;
  * `tscWarped` is `vm.tscWarped` on the two TSC reads around the write of
    `IA32_TSC_ADJUST`, all on `uint64_t`: `tscWarped_eq_false_iff` says it is clear
    exactly when the TSC moved by the adjustment plus at most 3000 cycles, as long as
    `t0 + 3000` does not wrap, and `tscWarped_of_wrap` that it is always set when it does;
  * `hvMsrs` is `vm.hvMsrs` over the vectors delivered while the guard is up:
    `hvMsrs_deliveries` says it is set exactly when one of the two hypervisor MSR reads
    does not raise `#GP`, whatever NMIs and external interrupts arrive around them;
  * `tscMsrEmulFail` is the 16-trial loop of `vm.tscMsrEmulFail`, threading the counters
    through `clear()`: `tscMsrEmulFail_eq` says it counts the trials that saw an
    exception or a delta above 1500 cycles, each on its own deliveries, and never reads
    what the counters held before.
-/
import HvDetect.Interrupt.Counters
import HvDetect.Util.Upause
import Mathlib.Data.BitVec

namespace HvDetect

namespace TestInt

/-- The operand sizes of `str` and `sldt` with a register destination: `strw`/`sldtw`,
    `strl`/`sldtl` and `strq`/`sldtq`. -/
inductive OperandSize
  | word
  | dword
  | qword
deriving DecidableEq, Repr

/-- What `str` or `sldt` of selector `sel` leaves in a 64-bit register that held `old`, as the
    architecture defines it: zero-extended at 64 and 32 bits, the bits above 15 of `old` kept
    at 16 bits. -/
def storeSelector (sel : BitVec 16) : OperandSize → BitVec 64 → BitVec 64
  | .qword, _ => sel.zeroExtend 64
  | .dword, _ => sel.zeroExtend 64
  | .word, old => BitVec.ofNat 64 (old.toNat / 2 ^ 16 * 2 ^ 16 + sel.toNat)

/-- The block of `test_int` for one of `str` and `sldt`, given what the processor stores at
    each operand size: `a = -1`, the 64-bit store, `b |= a >> 16`; `stc; sbbq a, a`, the 32-bit
    store, `b |= a >> 16`; `a = 0xeacceacceacceacc`, the 16-bit store,
    `b |= (a >> 16) - 0xeacceacceacc`. -/
def selectorCheck (store : OperandSize → BitVec 64 → BitVec 64) : BitVec 64 :=
  let a := store .qword (-1)
  let b := a >>> 16
  let a := store .dword (a - a - 1)
  let b := b ||| a >>> 16
  let a := store .word 0xeacceacceacceacc#64
  b ||| (a >>> 16) - 0xeacceacceacc#64

/-- `detections["vm.strEmulFail"]` and `detections["vm.sldtEmulFail"]`: `b != 0`. -/
def selectorEmulFail (store : OperandSize → BitVec 64 → BitVec 64) : Bool :=
  selectorCheck store != 0

theorem bitVec_or_eq_zero_iff {w : Nat} {x y : BitVec w} : x ||| y = 0 ↔ x = 0 ∧ y = 0 := by
  refine ⟨fun h => ?_, fun ⟨hx, hy⟩ => by rw [hx, hy, BitVec.or_self]⟩
  have hb : ∀ i, x.getLsbD i = false ∧ y.getLsbD i = false := fun i => by
    simpa using congrArg (fun v => v.getLsbD i) h
  exact ⟨BitVec.eq_of_getLsbD_eq fun i => by simp [(hb i).1],
    BitVec.eq_of_getLsbD_eq fun i => by simp [(hb i).2]⟩

theorem selectorCheck_eq_zero_iff (store : OperandSize → BitVec 64 → BitVec 64) :
    selectorCheck store = 0 ↔
      store .qword (-1) >>> 16 = 0 ∧ store .dword (-1) >>> 16 = 0 ∧
        store .word 0xeacceacceacceacc#64 >>> 16 = 0xeacceacceacc#64 := by
  rw [selectorCheck]
  simp only [BitVec.sub_self, BitVec.zero_sub, bitVec_or_eq_zero_iff, sub_eq_zero, and_assoc]

/-- The registers the check stores into, with the operand size of each store: all ones at
    64 and 32 bits (`stc; sbbq a, a` leaves `a - a - 1`), `0xeacceacceacceacc` at 16 bits. -/
def probeStores : List (OperandSize × BitVec 64) :=
  [(.qword, -1), (.dword, -1), (.word, 0xeacceacceacceacc#64)]

/-- Above bit 15 the architectural store does not depend on the selector: zero at 64 and
    32 bits, the register's own bits at 16 bits. -/
theorem storeSelector_ushiftRight (sel : BitVec 16) (sz : OperandSize) (old : BitVec 64) :
    storeSelector sel sz old >>> 16 = if sz = .word then old >>> 16 else 0 := by
  have hz : sel.zeroExtend 64 >>> 16 = 0 := by
    apply BitVec.eq_of_toNat_eq
    simp
    omega
  cases sz with
  | qword | dword => exact hz
  | word =>
    apply BitVec.eq_of_toNat_eq
    simp only [storeSelector, if_true, BitVec.toNat_ushiftRight, BitVec.toNat_ofNat]
    omega

/-- A check leaves its flag clear exactly when, on the three registers it stores into, the
    processor's store agrees above bit 15 with the architecture's, for any selector. So a
    processor that stores selectors as the architecture defines is never flagged, and one
    whose store differs from it above bit 15 on one of those registers always is. -/
theorem selectorEmulFail_iff_storeSelector (store : OperandSize → BitVec 64 → BitVec 64)
    (sel : BitVec 16) :
    selectorEmulFail store = false ↔
      ∀ p ∈ probeStores, store p.1 p.2 >>> 16 = storeSelector sel p.1 p.2 >>> 16 := by
  rw [selectorEmulFail, bne_eq_false_iff_eq, selectorCheck_eq_zero_iff]
  simp only [probeStores, List.mem_cons, List.mem_singleton, forall_eq_or_imp, forall_eq,
    List.not_mem_nil, false_imp_iff, implies_true, and_true, storeSelector_ushiftRight]
  rfl

/-- An emulation that zero-extends the selector at every operand size is flagged. -/
example : selectorEmulFail (fun _ _ => 0x28#64) = true := by decide

end TestInt

namespace TestClk

open Upause

theorem uint64_toNat_sub (a b : UInt64) : (a - b).toNat = (2 ^ 64 - b.toNat + a.toNat) % 2 ^ 64 :=
  BitVec.toNat_sub _ _

/-- `t1 -= rng; detections["vm.tscWarped"] = t1 < t0 || t1 > (t0 + 3000)`, on the TSC `t0`
    read before `IA32_TSC_ADJUST` is raised by `rng` and the TSC `t1` read after it;
    `rng` is a `uint32_t` widened to `uint64_t`. -/
def tscWarped (t0 t1 : UInt64) (rng : UInt32) : Bool :=
  let t1 := t1 - rng.toUInt64
  t1 < t0 || t1 > t0 + 3000

/-- The check on the values of the reads: `t1 - rng` lies between `t0` and `t0 + 3000`, both
    taken modulo `2^64`. -/
theorem tscWarped_eq_false_iff_toNat {t0 t1 : UInt64} {rng : UInt32} :
    tscWarped t0 t1 rng = false ↔
      t0.toNat ≤ (2 ^ 64 - rng.toNat + t1.toNat) % 2 ^ 64 ∧
        (2 ^ 64 - rng.toNat + t1.toNat) % 2 ^ 64 ≤ (t0.toNat + 3000) % 2 ^ 64 := by
  have hr : rng.toUInt64.toNat = rng.toNat := by simp [UInt32.toUInt64, UInt64.toNat]
  simp only [tscWarped, Bool.or_eq_false_iff, decide_eq_false_iff_not, GT.gt,
    uint64_lt_iff_toNat, not_lt, uint64_toNat_sub, uint64_toNat_add, hr]
  rfl

/-- While `t0 + 3000` does not wrap, `vm.tscWarped` is clear exactly when the TSC read after
    the write is the one before, moved by the adjustment `rng` and at most 3000 cycles. -/
theorem tscWarped_eq_false_iff (t0 t1 : UInt64) (rng : UInt32) (hwrap : t0.toNat + 3000 < 2 ^ 64) :
    tscWarped t0 t1 rng = false ↔ ∃ e ≤ 3000, t1.toNat = (t0.toNat + rng.toNat + e) % 2 ^ 64 := by
  have := t1.toNat_lt_size
  have := rng.toNat_lt_size
  simp only [UInt64.size, UInt32.size] at *
  rw [tscWarped_eq_false_iff_toNat, Nat.mod_eq_of_lt hwrap]
  constructor
  · intro h
    exact ⟨(2 ^ 64 - rng.toNat + t1.toNat) % 2 ^ 64 - t0.toNat, by omega, by omega⟩
  · rintro ⟨e, he, h⟩
    omega

theorem tscWarped_eq_false_iff_at_4096 :
    (0x1000 : UInt64).toNat + 3000 < 2 ^ 64 ∧
      (tscWarped 0x1000 0xdebf64 0xdead00 = false ↔
        ∃ e ≤ 3000, (0xdebf64 : UInt64).toNat = ((0x1000 : UInt64).toNat + (0xdead00 : UInt32).toNat + e) % 2 ^ 64) :=
  ⟨by decide, tscWarped_eq_false_iff 0x1000 0xdebf64 0xdead00 (by decide)⟩

/-- When `t0 + 3000` wraps, `vm.tscWarped` is set whatever the second read and the
    adjustment: no value lies between `t0` and the wrapped bound. -/
theorem tscWarped_of_wrap (t0 t1 : UInt64) (rng : UInt32) (hwrap : 2 ^ 64 ≤ t0.toNat + 3000) :
    tscWarped t0 t1 rng = true := by
  have := t0.toNat_lt_size
  simp only [UInt64.size] at this
  rw [← Bool.not_eq_false, tscWarped_eq_false_iff_toNat]
  omega

theorem tscWarped_of_wrap_at_top :
    2 ^ 64 ≤ (0xFFFFFFFFFFFFFF00 : UInt64).toNat + 3000 ∧
      tscWarped 0xFFFFFFFFFFFFFF00 0xFFFFFFFFFFFFFF10 0xdead00 = true :=
  ⟨by decide, tscWarped_of_wrap 0xFFFFFFFFFFFFFF00 0xFFFFFFFFFFFFFF10 0xdead00 (by decide)⟩

end TestClk

namespace TestMsr

open InterruptCounters

/-- The vectors delivered while the guard of `test_msr` is up: `pre`, the `#GP` (vector 13)
    of `read_msr(0x4b564d01)` when it faults, `mid`, the `#GP` of `read_msr(0x40000000)`
    when it faults, and `post`. -/
def hvMsrDeliveries (pre mid post : List UInt8) (gp₁ gp₂ : Bool) : List UInt8 :=
  pre ++ (if gp₁ then [13] else []) ++ mid ++ (if gp₂ then [13] else []) ++ post

/-- `interrupt_counters ctrs = {};`, the guarded block delivering `ids`, and
    `detections["vm.hvMsrs"] = ctrs.count_exceptions() != 2`. -/
def hvMsrs (bytes : Nat → UInt8) (ids : List UInt8) : Part Bool :=
  ((recording bytes).deliverAll ids).countExceptions.map (· != 2)

/-- An NMI, or an interrupt above the exception vectors, is never counted: the IDT sends
    the latter to the `0xCC` stub, or to the `0xFE` one. -/
theorem isException_idtVector_of_async {id : UInt8} (h : id = 2 ∨ 0x1E < id) :
    isException (idtVector id) = false := by
  rcases h with rfl | h
  · rfl
  · by_cases hfe : id = 0xFE
    · subst hfe; rfl
    · rw [idtVector, if_pos ⟨h, hfe⟩]; rfl

theorem countP_isException_of_async {ids : List UInt8} (h : ∀ id ∈ ids, id = 2 ∨ 0x1E < id) :
    (ids.map idtVector).countP isException = 0 := by
  rw [List.countP_map, List.countP_eq_zero]
  exact fun id hid => by simp [isException_idtVector_of_async (h id hid)]

/-- `vm.hvMsrs` is set exactly when one of the two reads does not raise `#GP`, whatever NMIs
    and external interrupts arrive before, between and after them. -/
theorem hvMsrs_deliveries (bytes : Nat → UInt8) (pre mid post : List UInt8) (gp₁ gp₂ : Bool)
    (hasync : ∀ id ∈ pre ++ mid ++ post, id = 2 ∨ 0x1E < id) :
    hvMsrs bytes (hvMsrDeliveries pre mid post gp₁ gp₂) = Part.some (!(gp₁ && gp₂)) := by
  simp only [List.mem_append] at hasync
  have hpre := countP_isException_of_async fun id h => hasync id (.inl (.inl h))
  have hmid := countP_isException_of_async fun id h => hasync id (.inl (.inr h))
  have hpost := countP_isException_of_async fun id h => hasync id (.inr h)
  rw [hvMsrs, countExceptions_deliverAll, Part.map_some]
  simp only [hvMsrDeliveries, List.map_append, List.countP_append, hpre, hmid, hpost]
  cases gp₁ <;> cases gp₂ <;> rfl

theorem hvMsrs_deliveries_one_read :
    (∀ id ∈ [2] ++ [0x30] ++ [0xFE], id = (2 : UInt8) ∨ 0x1E < id) ∧
      hvMsrs (fun _ => 0) (hvMsrDeliveries [2] [0x30] [0xFE] true false) = Part.some (!(true && false)) :=
  ⟨by decide, hvMsrs_deliveries (fun _ => 0) [2] [0x30] [0xFE] true false (by decide)⟩

/-- One trial of the `vm.tscMsrEmulFail` loop: the vectors delivered while its guard is up,
    `tsc1 = read_tsc()` and `tsc2 = read_msr(0x10)`. -/
structure TscTrial where
  ids : List UInt8
  tsc1 : UInt64
  tsc2 : UInt64

/-- Whether a trial counts: it saw an exception, or `uint64_t(tsc2 - tsc1) > 1500`. -/
def TscTrial.fails (t : TscTrial) : Bool :=
  (t.ids.map idtVector).any isException || t.tsc2 - t.tsc1 > 1500

/-- One turn of the loop: `ctrs.clear()`, the guarded reads, and
    `fail_count += (ctrs.has_exception() || uint64_t(tsc2 - tsc1) > 1500) ? 1 : 0`. -/
def trialStep (p : InterruptCounters × Nat) (t : TscTrial) : Part (InterruptCounters × Nat) :=
  let ctrs := p.1.clear.deliverAll t.ids
  ctrs.hasException.map fun e => (ctrs, p.2 + if e || t.tsc2 - t.tsc1 > 1500 then 1 else 0)

/-- The loop `for (n = 0; n != 16; n++)` from the counters `ctrs` the hypervisor MSR check
    left, and `detections["vm.tscMsrEmulFail"] = fail_count > 8`. -/
def tscMsrEmulFail (ctrs : InterruptCounters) (trials : Fin 16 → TscTrial) : Part Bool :=
  ((List.ofFn trials).foldlM trialStep (ctrs, 0)).map fun p => p.2 > 8

theorem trialStep_eq (p : InterruptCounters × Nat) (t : TscTrial) :
    trialStep p t = Part.some (p.1.clear.deliverAll t.ids, p.2 + if t.fails then 1 else 0) := by
  rw [trialStep, show p.1.clear = recording p.1.bytes from rfl, hasException_deliverAll, Part.map_some]
  rfl

theorem foldlM_trialStep (trials : List TscTrial) (p : InterruptCounters × Nat) :
    ∃ c, trials.foldlM trialStep p = Part.some (c, p.2 + trials.countP TscTrial.fails) := by
  induction trials generalizing p with
  | nil => exact ⟨p.1, rfl⟩
  | cons t trials ih =>
    obtain ⟨c, hc⟩ := ih (p.1.clear.deliverAll t.ids, p.2 + if t.fails then 1 else 0)
    refine ⟨c, ?_⟩
    rw [List.foldlM_cons, trialStep_eq, Part.bind_eq_bind, Part.bind_some, hc, List.countP_cons]
    simp only [Nat.add_assoc, Nat.add_comm (if t.fails then 1 else 0)]

/-- The loop returns, and `vm.tscMsrEmulFail` is set exactly when more than 8 of the 16 trials
    saw an exception or a delta above 1500 cycles: `clear()` makes each trial read only its
    own deliveries, whatever the counters held before. -/
theorem tscMsrEmulFail_eq (ctrs : InterruptCounters) (trials : Fin 16 → TscTrial) :
    tscMsrEmulFail ctrs trials = Part.some (decide (8 < (List.ofFn trials).countP TscTrial.fails)) := by
  obtain ⟨c, hc⟩ := foldlM_trialStep (List.ofFn trials) (ctrs, 0)
  rw [tscMsrEmulFail, hc, Part.map_some, Nat.zero_add]

end TestMsr

end HvDetect
