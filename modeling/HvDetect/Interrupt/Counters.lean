/-
  The fault trace of `interrupt_guard.hpp`: `interrupt_counters`, the private
  IDT `impl::idt` and the recording block of `impl::counter_isr`.

  * `InterruptCounters` holds `iterator` (`none` is `nullptr`, `some i` points
    at `store[i]`) and the bytes of memory from `&store[0]` on: offsets below
    `128` are `store`, the others lie past the array;
  * `idtVector id` is the vector of the stub `impl::idt` installs at entry
    `id`, and `counterIsr` is what that stub does to the counters GS base
    points at;
  * the readers `countExceptions` and `hasException` walk from `begin()` to
    `end()`; with a null `end()` that walk never meets its bound, so they are
    partial (`Part`);
  * `deliverAll_iterator`, `deliverAll_bytes`: `k` delivered vectors move
    `iterator` by `k` and land at `store[i]`, ..., `store[i + k - 1]`, with no
    bound, so `counterIsr_writes_past_store` puts the 129th one past `store`;
  * `runOps` runs a trace of `clear()` and appends: with at most 128 appends
    from either constructor, a non-null `iterator` stays within `store` and
    the readers count the exception bytes below `size()`, reading nothing else
    (`runOps_readers`, `readers_congr`); on a null `iterator` they never
    return `0` or `false` (`readers_nullopt_diverge`).
-/
import Mathlib.Data.Part
import Mathlib.Data.List.Basic

namespace HvDetect

/-- `interrupt_counters`: `iterator` and the memory from `&store[0]` on. -/
structure InterruptCounters where
  iterator : Option Nat
  bytes : Nat → UInt8

namespace InterruptCounters

/-- `interrupt_counters()`: recording enabled, `iterator = &store[0]`; `store`
    is left as it was. -/
def recording (bytes : Nat → UInt8) : InterruptCounters := ⟨some 0, bytes⟩

/-- `interrupt_counters(std::nullopt)`: no recording, `iterator = nullptr`. -/
def nullopt (bytes : Nat → UInt8) : InterruptCounters := ⟨none, bytes⟩

/-- `size()`: `iterator ? end() - begin() : 0`. -/
def size (c : InterruptCounters) : Nat := c.iterator.getD 0

/-- `clear()`: `iterator = &store[0]`. -/
def clear (c : InterruptCounters) : InterruptCounters := { c with iterator := some 0 }

/-- The test both readers apply to a recorded byte: `*it != 2 && *it <= 0x1E`. -/
def isException (b : UInt8) : Bool := b != 2 && b ≤ 0x1E

/-- The bytes `begin()`, ..., `&store[n - 1]`. -/
def recorded (c : InterruptCounters) (n : Nat) : List UInt8 := (List.range n).map c.bytes

/-- `count_exceptions()`: the walk from `begin()` to `end()`, which never meets a null
    `end()`. -/
def countExceptions (c : InterruptCounters) : Part Nat :=
  match c.iterator with
  | some n => Part.some ((c.recorded n).countP isException)
  | none => Part.none

/-- `has_exception()`: the same walk, returning at the first exception; with a null
    `end()` it returns only when it meets an exception byte. -/
def hasException (c : InterruptCounters) : Part Bool :=
  match c.iterator with
  | some n => Part.some ((c.recorded n).any isException)
  | none => ⟨∃ i, isException (c.bytes i), fun _ => true⟩

/-- The vector of the stub `impl::idt` installs at entry `id`:
    `id > 0x1E && id != 0xFE ? 0xCC : id`. -/
def idtVector (id : UInt8) : UInt8 := if id > 0x1E ∧ id ≠ 0xFE then 0xCC else id

/-- The recording block of `counter_isr<vector>` on the counters GS base points at:
    if `gs:[0]` is not null, store the vector there and increment it. -/
def counterIsr (vector : UInt8) (c : InterruptCounters) : InterruptCounters :=
  match c.iterator with
  | none => c
  | some i => ⟨some (i + 1), Function.update c.bytes i vector⟩

/-- Interrupts `ids` delivered one after another through `impl::idt`. -/
def deliverAll (c : InterruptCounters) (ids : List UInt8) : InterruptCounters :=
  ids.foldl (fun c id => counterIsr (idtVector id) c) c

@[simp] theorem deliverAll_nil (c : InterruptCounters) : c.deliverAll [] = c := rfl

@[simp] theorem deliverAll_cons (c : InterruptCounters) (id : UInt8) (ids : List UInt8) :
    c.deliverAll (id :: ids) = (counterIsr (idtVector id) c).deliverAll ids := rfl

@[simp] theorem deliverAll_nullopt (bytes : Nat → UInt8) (ids : List UInt8) :
    (nullopt bytes).deliverAll ids = nullopt bytes := by
  induction ids with
  | nil => rfl
  | cons id ids ih => exact ih

theorem deliverAll_iterator (c : InterruptCounters) (ids : List UInt8) :
    (c.deliverAll ids).iterator = c.iterator.map (· + ids.length) := by
  induction ids generalizing c with
  | nil => cases h : c.iterator <;> simp [h]
  | cons id ids ih =>
    rw [deliverAll_cons, ih]
    unfold counterIsr
    split <;> simp_all [Nat.add_assoc, Nat.add_comm 1]

/-- Where a sequence of delivered vectors lands: the `j`-th at `store[i + j]`, whatever
    the length, and nothing else changes. -/
theorem deliverAll_bytes {c : InterruptCounters} {i : Nat} (h : c.iterator = some i)
    (ids : List UInt8) (j : Nat) :
    (c.deliverAll ids).bytes j =
      if hj : i ≤ j ∧ j - i < ids.length then idtVector ids[j - i] else c.bytes j := by
  induction ids generalizing c i with
  | nil => simp
  | cons id ids ih =>
    rw [deliverAll_cons, ih (c := counterIsr _ c) (i := i + 1) (by simp [counterIsr, h])]
    simp only [counterIsr, h, Function.update_apply, List.length_cons]
    by_cases hji : j = i
    · subst hji; simp
    · by_cases hlt : i + 1 ≤ j ∧ j - (i + 1) < ids.length
      · have hidx : j - i = j - (i + 1) + 1 := by omega
        rw [dif_pos hlt, dif_pos (by omega)]
        simp only [hidx, List.getElem_cons_succ]
      · rw [dif_neg hlt, dif_neg (by omega), if_neg hji]

/-- On a fresh recording trace, the walk of the readers sees exactly the delivered
    vectors as `impl::idt` maps them. -/
theorem recorded_deliverAll (bytes : Nat → UInt8) (ids : List UInt8) :
    ((recording bytes).deliverAll ids).recorded ids.length = ids.map idtVector := by
  apply List.ext_getElem (by simp [recorded])
  intro j hj _
  simp only [recorded, List.getElem_map, List.getElem_range]
  rw [deliverAll_bytes (i := 0) rfl, dif_pos (by simp_all [recorded])]
  simp

theorem hasException_deliverAll (bytes : Nat → UInt8) (ids : List UInt8) :
    ((recording bytes).deliverAll ids).hasException =
      Part.some ((ids.map idtVector).any isException) := by
  have h : ((recording bytes).deliverAll ids).iterator = some ids.length := by
    simp [deliverAll_iterator, recording]
  simp only [hasException, h, recorded_deliverAll]

theorem countExceptions_deliverAll (bytes : Nat → UInt8) (ids : List UInt8) :
    ((recording bytes).deliverAll ids).countExceptions =
      Part.some ((ids.map idtVector).countP isException) := by
  have h : ((recording bytes).deliverAll ids).iterator = some ids.length := by
    simp [deliverAll_iterator, recording]
  simp only [countExceptions, h, recorded_deliverAll]

theorem size_deliverAll (bytes : Nat → UInt8) (ids : List UInt8) :
    ((recording bytes).deliverAll ids).size = ids.length := by
  simp [size, deliverAll_iterator, recording]

/-- The stub has no bound check: the 129th vector delivered to a fresh trace is
    written at `store[128]`, one past the array, and `size()` reaches 129. -/
theorem counterIsr_writes_past_store (bytes : Nat → UInt8) :
    ((recording bytes).deliverAll (List.replicate 129 13)).bytes 128 = 13 ∧
      ((recording bytes).deliverAll (List.replicate 129 13)).size = 129 := by
  refine ⟨?_, size_deliverAll _ _⟩
  rw [deliverAll_bytes (i := 0) rfl, dif_pos (by simp)]
  rfl

/-! ## Traces of `clear()` and appends, and the readers -/

/-- A step of a trace on the counters: `clear()`, or the recording block of a stub storing
    `vector`. -/
inductive CounterOp
  | clear
  | isr (vector : UInt8)

/-- What a step does. -/
def CounterOp.apply : CounterOp → InterruptCounters → InterruptCounters
  | .clear, c => c.clear
  | .isr v, c => counterIsr v c

/-- Whether a step is an append. -/
def CounterOp.isIsr : CounterOp → Bool
  | .clear => false
  | .isr _ => true

/-- The state a trace `ops` reaches from `c`. -/
def runOps (c : InterruptCounters) (ops : List CounterOp) : InterruptCounters :=
  ops.foldl (fun c op => op.apply c) c

/-- `iterator` is null or points at most `k` past `&store[0]`. -/
def Bounded (k : Nat) (c : InterruptCounters) : Prop := ∀ n, c.iterator = some n → n ≤ k

/-- The number of indices `i < size()` whose byte the readers count. -/
def exceptionCount (c : InterruptCounters) : Nat :=
  (List.range c.size).countP fun i => isException (c.bytes i)

/-- A step moves `iterator` by at most one, and only on an append. -/
theorem Bounded.apply {k : Nat} {c : InterruptCounters} (h : Bounded k c) (op : CounterOp) :
    Bounded (k + if op.isIsr then 1 else 0) (op.apply c) := by
  intro n hn
  cases op with
  | clear =>
    simp only [CounterOp.apply, clear, Option.some.injEq] at hn
    omega
  | isr v =>
    cases hc : c.iterator with
    | none => simp [CounterOp.apply, counterIsr, hc] at hn
    | some i =>
      simp only [CounterOp.apply, counterIsr, hc, Option.some.injEq] at hn
      have := h i hc
      simp only [CounterOp.isIsr, if_true]
      omega

theorem Bounded.runOps {k : Nat} {c : InterruptCounters} (h : Bounded k c) (ops : List CounterOp) :
    Bounded (k + ops.countP CounterOp.isIsr) (c.runOps ops) := by
  induction ops generalizing k c with
  | nil => exact h
  | cons op ops ih =>
    intro n hn
    have := ih (h.apply op) n hn
    rw [List.countP_cons]
    cases op <;> simp only [CounterOp.isIsr] at this ⊢ <;> omega

/-- On a state whose `iterator` is not null, `count_exceptions()` is the number of
    exception bytes below `size()` and `has_exception()` says whether there is one. -/
theorem readers_of_some {c : InterruptCounters} {n : Nat} (h : c.iterator = some n) :
    c.countExceptions = Part.some c.exceptionCount ∧
      c.hasException = Part.some (decide (0 < c.exceptionCount)) := by
  have hs : c.size = n := by simp [size, h]
  have hc : (c.recorded n).countP isException = c.exceptionCount := by
    rw [exceptionCount, hs, recorded, List.countP_map]
    rfl
  refine ⟨by simp only [countExceptions, h, hc], ?_⟩
  simp only [hasException, h, Part.some_inj, ← hc]
  rw [Bool.eq_iff_iff, List.any_eq_true, decide_eq_true_iff, List.countP_pos_iff]

/-- There the readers read only `store[0, size())`: states that agree on those bytes and on
    `iterator` give the same answers. -/
theorem readers_congr {c c' : InterruptCounters} {n : Nat} (h : c.iterator = some n)
    (hi : c'.iterator = c.iterator) (hb : ∀ i < c.size, c'.bytes i = c.bytes i) :
    c'.countExceptions = c.countExceptions ∧ c'.hasException = c.hasException := by
  have hsize : c'.size = c.size := by simp [size, hi]
  have hcount : c'.exceptionCount = c.exceptionCount := by
    unfold exceptionCount
    rw [hsize]
    exact List.countP_congr fun i hi' => by rw [hb i (List.mem_range.1 hi')]
  obtain ⟨h1, h2⟩ := readers_of_some h
  obtain ⟨h1', h2'⟩ := readers_of_some (hi.trans h)
  rw [h1, h2, h1', h2', hcount]
  exact ⟨rfl, rfl⟩

/-- From either constructor, a trace of `clear()` and at most 128 appends reaches a state
    whose `iterator` is null, or whose `size()` is at most 128 and whose readers count the
    exception bytes of `store[0, size())`. -/
theorem runOps_readers (bytes : Nat → UInt8) {start : InterruptCounters}
    (hstart : start = recording bytes ∨ start = nullopt bytes) (ops : List CounterOp)
    (hops : ops.countP CounterOp.isIsr ≤ 128) :
    (start.runOps ops).iterator = none ∨ (start.runOps ops).size ≤ 128 ∧
      (start.runOps ops).countExceptions = Part.some (start.runOps ops).exceptionCount ∧
      (start.runOps ops).hasException = Part.some (decide (0 < (start.runOps ops).exceptionCount)) := by
  have hb : Bounded 0 start := by
    intro n hn
    rcases hstart with rfl | rfl <;> cases hn
    exact le_rfl
  cases hc : (start.runOps ops).iterator with
  | none => exact .inl rfl
  | some n =>
    have := hb.runOps ops n hc
    exact .inr ⟨by simp only [size, hc, Option.getD_some]; omega, readers_of_some hc⟩

/-- A trace of appends leaves the `std::nullopt` counters as they are. -/
theorem runOps_nullopt (bytes : Nat → UInt8) (vs : List UInt8) :
    (nullopt bytes).runOps (vs.map .isr) = nullopt bytes := by
  induction vs with
  | nil => rfl
  | cons v vs ih => exact ih

/-- On every trace of appends from the `std::nullopt` constructor, `size()` is `0`, but
    `count_exceptions()` never returns and `has_exception()` never returns `false`: their
    walk from `&store[0]` never meets the null `end()`. -/
theorem readers_nullopt_diverge (bytes : Nat → UInt8) (vs : List UInt8) :
    ((nullopt bytes).runOps (vs.map .isr)).size = 0 ∧
      ¬ ((nullopt bytes).runOps (vs.map .isr)).countExceptions.Dom ∧
      false ∉ ((nullopt bytes).runOps (vs.map .isr)).hasException := by
  rw [runOps_nullopt]
  exact ⟨rfl, Part.not_none_dom, fun ⟨_, h⟩ => Bool.noConfusion h⟩

end InterruptCounters

end HvDetect
