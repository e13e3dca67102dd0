/-
  `benchmark::tlb_persistance`: the TLB side channel as a metric.

  The TLB is a cache of the probe pages' translations, filled only by page
  walks, from which the schedule `evict` drops page `n` just before the
  access made at time `t` whenever `evict t n` holds. Every access to a probe
  page takes one time step.

  * `access` is one access: a hit reads through the cached frame, a miss walks
    the PTE and caches its frame; `fetchFirst` and `fetchSecond` are
    `fetch(true)` and `fetch(false)`;
  * `probes_tlb` follows every page through the touches of `fetchFirst`, and
    `reads_count` through the reads of `fetchSecond`;
  * `tlb_persistance_count`: the value `fetch(false)` returns counts the pages
    whose translation to their own frame was cached when their touches ended
    (`ownAfterTouches`) and stayed cached up to their read.
-/
import HvDetect.Benchmark.RunSingle

namespace HvDetect

/-- The two frames a probe page's PTE ever points at: its own, or the zero page. -/
inductive Frame
  | own
  | zero
deriving DecidableEq, Repr

/-- The byte at the start of a frame: `*page = i == 0 ? 0 : 1`. -/
def Frame.byte : Frame → Nat
  | .own => 1
  | .zero => 0

/-- The probe pages' PTEs and cached translations, and the accesses made so far. -/
structure TlbState where
  pte : Nat → Frame
  tlb : Nat → Option Frame
  time : Nat

section
variable (evict : Nat → Nat → Bool)

/-- The cached translations once the schedule's evictions of the current time are done. -/
def TlbState.afterEvict (s : TlbState) : Nat → Option Frame :=
  fun m => if evict s.time m then none else s.tlb m

/-- One access to probe page `n`: a hit reads through the cached frame, a miss walks the
    PTE and caches its frame. Returns the byte read. -/
def access (n : Nat) (s : TlbState) : Nat × TlbState :=
  let f := (s.afterEvict evict n).getD (s.pte n)
  (f.byte, ⟨s.pte, Function.update (s.afterEvict evict) n (some f), s.time + 1⟩)

/-- `ia32::touch(tp, true)`. -/
def touch (n : Nat) (s : TlbState) : TlbState := (access evict n s).2

/-- One turn of `fetch(true)`'s loop: point the PTE at the page's own frame, touch it
    twelve times, point the PTE at the zero page without invalidating. -/
def probe (s : TlbState) (n : Nat) : TlbState :=
  let s' := (touch evict n)^[12] { s with pte := Function.update s.pte n .own }
  { s' with pte := Function.update s'.pte n .zero }

/-- `fetch(true)`: the probe loop over pages `1 .. 64`. -/
def fetchFirst (s : TlbState) : TlbState := (List.range' 1 64).foldl (probe evict) s

/-- `fetch(false)`: read the first byte of pages `1 .. 64` and sum. -/
def fetchSecond (s : TlbState) : Nat × TlbState :=
  (List.range' 1 64).foldl (fun p n => ((access evict n p.2).1 + p.1, (access evict n p.2).2)) (0, s)

/-- `tlb_persistance` under the eviction schedule `evict`. -/
def tlbPersistance : Metric TlbState where
  setup s := (⟨true, []⟩, s)
  fetch first s := Part.some <|
    if first then (⟨0, []⟩, fetchFirst evict s)
    else (⟨UInt64.ofNat (fetchSecond evict s).1, []⟩, (fetchSecond evict s).2)
  rundown s := s

/-- Whether the schedule evicts page `n` at some time in `[a, a + k)`. -/
def evictedIn (n a k : Nat) : Bool := (List.range k).any fun j => evict (a + j) n

/-- Page `n`'s translation when its twelve touches end, in a `fetch(true)` from `s`: its own
    frame, unless a translation to the zero page was cached and no eviction hit it. -/
def ownAfterTouches (s : TlbState) (n : Nat) : Bool :=
  !(s.tlb n == some .zero && !evictedIn evict n s.time (12 * n))

theorem evictedIn_zero (n a : Nat) : evictedIn evict n a 0 = false := rfl

theorem evictedIn_add (n a k l : Nat) :
    evictedIn evict n a (k + l) = (evictedIn evict n a k || evictedIn evict n (a + k) l) := by
  simp only [evictedIn, List.range_add, List.any_append, List.any_map, Function.comp_def,
    Nat.add_assoc]

theorem evictedIn_succ (n a k : Nat) :
    evictedIn evict n a (k + 1) = (evictedIn evict n a k || evict (a + k) n) := by
  simp [evictedIn, List.range_succ, List.any_append]

/-- A translation that survives two windows of evictions in a row survives their union. -/
theorem evicted_then_evicted (n a k l : Nat) (x : Option Frame) :
    (if evictedIn evict n (a + k) l then none else if evictedIn evict n a k then none else x) =
      if evictedIn evict n a (k + l) then none else x := by
  rw [evictedIn_add]; cases evictedIn evict n a k <;> simp

/-! ## One access -/

@[simp] theorem access_time (n : Nat) (s : TlbState) : (access evict n s).2.time = s.time + 1 := rfl
@[simp] theorem access_pte (n : Nat) (s : TlbState) : (access evict n s).2.pte = s.pte := rfl

theorem access_tlb_ne {n m : Nat} (h : m ≠ n) (s : TlbState) :
    (access evict n s).2.tlb m = if evict s.time m then none else s.tlb m := by
  simp [access, Function.update_noteq h, TlbState.afterEvict]

theorem access_tlb_self (n : Nat) (s : TlbState) :
    (access evict n s).2.tlb n = some ((s.afterEvict evict n).getD (s.pte n)) := by
  simp [access]

/-! ## The touches -/

theorem touches_time (n k : Nat) (s : TlbState) : ((touch evict n)^[k] s).time = s.time + k := by
  induction k generalizing s with
  | zero => rfl
  | succ k ih => rw [Function.iterate_succ_apply, ih]; simp [touch]; omega

theorem touches_pte (n k : Nat) (s : TlbState) : ((touch evict n)^[k] s).pte = s.pte := by
  induction k generalizing s with
  | zero => rfl
  | succ k ih => rw [Function.iterate_succ_apply, ih]; rfl

theorem touches_tlb_ne {n m : Nat} (h : m ≠ n) (k : Nat) (s : TlbState) :
    ((touch evict n)^[k] s).tlb m = if evictedIn evict m s.time k then none else s.tlb m := by
  induction k with
  | zero => simp [evictedIn_zero]
  | succ k ih =>
    rw [Function.iterate_succ_apply', touch, access_tlb_ne evict h, ih, touches_time,
      evictedIn_succ]
    cases evictedIn evict m s.time k <;> cases evict (s.time + k) m <;> simp

/-- While the PTE points at the page's own frame, the touches leave a translation to it,
    unless a zero-page translation was cached and never evicted. -/
theorem touches_tlb_self {n : Nat} {s : TlbState} (hown : s.pte n = .own) (k : Nat) :
    ((touch evict n)^[k + 1] s).tlb n =
      some (if s.tlb n = some .zero ∧ evictedIn evict n s.time (k + 1) = false then .zero else .own) := by
  induction k with
  | zero =>
    rw [Function.iterate_one, touch, access_tlb_self, hown]
    simp only [TlbState.afterEvict, evictedIn_succ, evictedIn_zero, Bool.false_or, Nat.add_zero]
    cases evict s.time n <;> rcases s.tlb n with _ | _ | _ <;> simp
  | succ k ih =>
    rw [Function.iterate_succ_apply', touch, access_tlb_self]
    simp only [TlbState.afterEvict, touches_time, touches_pte, hown, ih,
      evictedIn_succ evict n s.time (k + 1)]
    cases evict (s.time + (k + 1)) n <;> simp

/-! ## `fetch(true)` -/

/-- One turn of the probe loop, on page `n`. -/
theorem probe_spec (s : TlbState) (n : Nat) :
    (probe evict s n).time = s.time + 12 ∧
    (probe evict s n).pte = Function.update s.pte n .zero ∧
    (∀ m, m ≠ n → (probe evict s n).tlb m =
      if evictedIn evict m s.time 12 then none else s.tlb m) ∧
    (probe evict s n).tlb n =
      some (if s.tlb n = some .zero ∧ evictedIn evict n s.time 12 = false then .zero else .own) := by
  refine ⟨touches_time evict n 12 _, ?_, fun m hm => touches_tlb_ne evict hm 12 _,
    touches_tlb_self evict (by simp) 11⟩
  simp only [probe, touches_pte, Function.update_idem]

/-- The pages after the probe loop has done pages `1 .. k`: the probed ones point at the
    zero page and keep the translation their touches left until an eviction; the others
    keep theirs until an eviction. -/
theorem probes_tlb (s : TlbState) (k : Nat) :
    let s' := (List.range' 1 k).foldl (probe evict) s
    s'.time = s.time + 12 * k ∧
    (∀ m, (m = 0 ∨ k < m) → s'.pte m = s.pte m ∧
      s'.tlb m = if evictedIn evict m s.time (12 * k) then none else s.tlb m) ∧
    (∀ m, 1 ≤ m → m ≤ k → s'.pte m = .zero ∧
      s'.tlb m = if evictedIn evict m (s.time + 12 * m) (12 * (k - m)) then none
        else some (if ownAfterTouches evict s m then .own else .zero)) := by
  induction k with
  | zero => exact ⟨rfl, fun m _ => by simp [evictedIn_zero], fun m h₁ h₂ => absurd h₂ (by omega)⟩
  | succ k ih =>
    obtain ⟨ht, hout, hin⟩ := ih
    rw [List.range'_concat, List.foldl_concat, show 1 + 1 * k = k + 1 by omega]
    obtain ⟨pt, pp, ptl, pts⟩ := probe_spec evict ((List.range' 1 k).foldl (probe evict) s) (k + 1)
    refine ⟨by rw [pt, ht]; omega, fun m hm => ?_, fun m h₁ h₂ => ?_⟩
    · have hne : m ≠ k + 1 := by omega
      obtain ⟨hp, htl⟩ := hout m (by omega)
      rw [pp, Function.update_noteq hne, ptl m hne, htl, ht, evicted_then_evicted]
      exact ⟨hp, by rw [show 12 * (k + 1) = 12 * k + 12 by omega]⟩
    · rcases (show m ≤ k ∨ m = k + 1 by omega) with hle | rfl
      · have hne : m ≠ k + 1 := by omega
        obtain ⟨hp, htl⟩ := hin m h₁ hle
        rw [pp, Function.update_noteq hne, ptl m hne, htl, ht,
          show s.time + 12 * k = s.time + 12 * m + 12 * (k - m) by omega, evicted_then_evicted]
        exact ⟨hp, by rw [show 12 * (k + 1 - m) = 12 * (k - m) + 12 by omega]⟩
      · obtain ⟨-, htl⟩ := hout (k + 1) (by omega)
        rw [pp, Function.update_same, pts, htl, ht, Nat.sub_self, Nat.mul_zero, evictedIn_zero]
        simp only [ownAfterTouches, show 12 * (k + 1) = 12 * k + 12 by omega, evictedIn_add]
        cases evictedIn evict (k + 1) s.time (12 * k) <;>
          cases evictedIn evict (k + 1) (s.time + 12 * k) 12 <;>
          rcases s.tlb (k + 1) with _ | _ | _ <;> simp

/-! ## `fetch(false)` -/

/-- The reads of pages `1 .. k`: each reads through the translation its page still has,
    after the evictions up to its read, and adds `1` when that is its own frame. -/
theorem reads_count (s : TlbState) (k : Nat) :
    let r := (List.range' 1 k).foldl
      (fun p n => ((access evict n p.2).1 + p.1, (access evict n p.2).2)) (0, s)
    r.2.time = s.time + k ∧
    (∀ m, (m = 0 ∨ k < m) → r.2.pte m = s.pte m ∧
      r.2.tlb m = if evictedIn evict m s.time k then none else s.tlb m) ∧
    r.1 = ((List.range' 1 k).filter fun n =>
      ((if evictedIn evict n s.time n then none else s.tlb n).getD (s.pte n)) == .own).length := by
  induction k with
  | zero => exact ⟨rfl, fun m _ => by simp [evictedIn_zero], rfl⟩
  | succ k ih =>
    obtain ⟨ht, hout, hc⟩ := ih
    rw [List.range'_concat, List.foldl_concat, show 1 + 1 * k = k + 1 by omega]
    set r := (List.range' 1 k).foldl
      (fun p n => ((access evict n p.2).1 + p.1, (access evict n p.2).2)) (0, s)
    obtain ⟨hp, htl⟩ := hout (k + 1) (by omega)
    refine ⟨by simp [ht]; omega, fun m hm => ?_, ?_⟩
    · obtain ⟨hp', htl'⟩ := hout m (by omega)
      refine ⟨by simp [hp'], ?_⟩
      rw [access_tlb_ne evict (by omega), htl', ht, evictedIn_succ]
      cases evictedIn evict m s.time k <;> simp
    · rw [List.filter_append, List.length_append, ← hc, Nat.add_comm]
      simp only [List.filter_cons, List.filter_nil, access, TlbState.afterEvict, ht, htl, hp,
        evictedIn_succ]
      cases evictedIn evict (k + 1) s.time k <;> cases evict (s.time + k) (k + 1) <;>
        rcases s.tlb (k + 1) with _ | _ | _ <;> cases s.pte (k + 1) <;> rfl

/-- **What `fetch(false)` counts.** After `fetch(true)` from `s`, `fetch(false)` returns the
    number of probe pages `n` in `1 .. 64` whose translation to their own frame was cached
    when their touches ended and was evicted at no time from then up to their read; in
    particular at most 64. -/
theorem tlb_persistance_count (s : TlbState) :
    (fetchSecond evict (fetchFirst evict s)).1 =
        ((List.range' 1 64).filter fun n =>
          ownAfterTouches evict s n && !evictedIn evict n (s.time + 12 * n) (12 * (64 - n) + n)).length ∧
      (fetchSecond evict (fetchFirst evict s)).1 ≤ 64 := by
  obtain ⟨ht, -, hin⟩ := probes_tlb evict s 64
  have hc := (reads_count evict (fetchFirst evict s) 64).2.2
  refine ⟨hc.trans (congrArg List.length (List.filter_congr fun n hn => ?_)), ?_⟩
  · rw [List.mem_range'_1] at hn
    obtain ⟨hp, htl⟩ := hin n (by omega) (by omega)
    simp only [fetchFirst] at ht hp htl ⊢
    rw [htl, hp, ht, evictedIn_add, show s.time + 12 * n + 12 * (64 - n) = s.time + 12 * 64 by omega]
    cases evictedIn evict n (s.time + 12 * 64) n <;>
      cases evictedIn evict n (s.time + 12 * n) (12 * (64 - n)) <;>
      cases ownAfterTouches evict s n <;> simp
  · exact hc.trans_le ((List.length_filter_le _ _).trans (by simp))

end

end HvDetect
