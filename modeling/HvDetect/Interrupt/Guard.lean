/-
  `interrupt_guard`: the scope that disables interrupts and swaps in the
  private IDT and a trace, and the runs of guard operations on one core.

  * `InterruptGuard.reset` and `InterruptGuard.end` are the two members; a
    guard is active when `previous_gsbase` is not `0`, its only marker;
  * `Machine` is the core's registers with its live guards, outermost first,
    and `Machine.step` one `GuardOp`: a construction (`reset` of a fresh
    guard), a destruction (`end` of the innermost guard), an extra `reset` or
    `end` on any live guard, or a write of RFLAGS by the guarded code;
  * `step_reset_active`, `step_end_inactive`: a `reset` of an active guard and
    an `end` of an inactive one change nothing;
  * `restore_after_activation`: the first deactivation of a guard after it was
    started puts back GS base, IDTR and RFLAGS as they were just before, and
    `Reach.gsbase_ne_zero` is what makes every start register.
-/
import Mathlib.Data.BitVec
import Mathlib.Data.List.Basic

namespace HvDetect

/-- `ia32::segment_descriptor_register_64`: an IDTR value. -/
structure Idtr where
  base : UInt64
  limit : UInt16
deriving DecidableEq, Repr

/-- The registers the guard saves and restores. -/
structure Cpu where
  gsbase : UInt64
  idtr : Idtr
  rflags : BitVec 64
deriving DecidableEq, Repr

/-- RFLAGS.IF, bit 9. -/
def Cpu.interruptFlag (c : Cpu) : Bool := c.rflags.getLsbD 9

/-- `ia32::disable()`: `cli` clears IF. -/
def disableInterrupts (rflags : BitVec 64) : BitVec 64 := rflags &&& ~~~0x200#64

@[simp] theorem interruptFlag_disable (c : UInt64) (i : Idtr) (r : BitVec 64) :
    Cpu.interruptFlag ⟨c, i, disableInterrupts r⟩ = false := by
  simp [Cpu.interruptFlag, disableInterrupts, BitVec.getLsbD_and, BitVec.getLsbD_not]

/-- `interrupt_guard`: `previous_gsbase`, `prev_idtr` and `flags`. `counters` is the
    pointer of its last start, which the code does not keep: it is there to say what GS
    base holds. -/
structure InterruptGuard where
  previousGsbase : UInt64
  prevIdtr : Idtr
  flags : BitVec 64
  counters : UInt64
deriving DecidableEq

namespace InterruptGuard

/-- A guard before its constructor calls `reset`: `previous_gsbase = 0`, `flags = 0`. -/
def fresh : InterruptGuard := ⟨0, ⟨0, 0⟩, 0, 0⟩

/-- The registers `end()` writes back. -/
def saved (g : InterruptGuard) : Cpu := ⟨g.previousGsbase, g.prevIdtr, g.flags⟩

section
variable (idt : Idtr)

/-- `reset(counters)`, with `idt` the IDTR `ia32::set_idt(impl::idt.data(), ...)` loads:
    if `previous_gsbase` is `0`, save RFLAGS, disable interrupts, save GS base and IDTR,
    install the private IDT and the counters. -/
def reset (counters : UInt64) (g : InterruptGuard) (cpu : Cpu) : InterruptGuard × Cpu :=
  if g.previousGsbase = 0 then
    (⟨cpu.gsbase, cpu.idtr, cpu.rflags, counters⟩, ⟨counters, idt, disableInterrupts cpu.rflags⟩)
  else (g, cpu)

end

/-- `end()`: `std::exchange(previous_gsbase, 0)`, and if it was not `0`, restore GS base,
    IDTR and RFLAGS. -/
def «end» (g : InterruptGuard) (cpu : Cpu) : InterruptGuard × Cpu :=
  ({ g with previousGsbase := 0 }, if g.previousGsbase = 0 then cpu else g.saved)

end InterruptGuard

/-- One core: its registers and its live guards, outermost first. -/
structure Machine where
  cpu : Cpu
  guards : List InterruptGuard

/-- What a probe does with guards, in scope order. -/
inductive GuardOp
  /-- `interrupt_guard g{ counters }`: a new innermost guard. -/
  | construct (counters : UInt64)
  /-- `~interrupt_guard()` of the innermost guard. -/
  | destroy
  /-- `guards[i].reset(counters)` on a live guard. -/
  | reset (i : Nat) (counters : UInt64)
  /-- `guards[i].end()` on a live guard. -/
  | «end» (i : Nat)
  /-- The guarded code writes RFLAGS. -/
  | body (rflags : BitVec 64)

/-- The counters pointers passed are not null. -/
def GuardOp.NonNull : GuardOp → Prop
  | .construct c | .reset _ c => c ≠ 0
  | _ => True

instance GuardOp.decidableNonNull : DecidablePred GuardOp.NonNull
  | .construct c | .reset _ c => inferInstanceAs (Decidable (c ≠ 0))
  | .destroy | .«end» _ | .body _ => inferInstanceAs (Decidable True)

namespace Machine

section
variable (idt : Idtr)

/-- One guard operation; `none` if it names no live guard. -/
def step (s : Machine) : GuardOp → Option Machine
  | .construct c =>
    let r := InterruptGuard.fresh.reset idt c s.cpu
    some ⟨r.2, s.guards ++ [r.1]⟩
  | .destroy => s.guards.getLast?.map fun g => ⟨(g.«end» s.cpu).2, s.guards.dropLast⟩
  | .reset i c => s.guards[i]?.map fun g =>
    let r := g.reset idt c s.cpu
    ⟨r.2, s.guards.set i r.1⟩
  | .«end» i => s.guards[i]?.map fun g =>
    let r := g.«end» s.cpu
    ⟨r.2, s.guards.set i r.1⟩
  | .body v => some ⟨{ s.cpu with rflags := v }, s.guards⟩

/-- Extra `reset` and `end` calls only on the innermost live guard, counters pointers
    non-null, and RFLAGS writes that leave IF as it is. -/
def Strict (s : Machine) : GuardOp → Prop
  | .construct c => c ≠ 0
  | .destroy => True
  | .reset i c => i + 1 = s.guards.length ∧ c ≠ 0
  | .«end» i => i + 1 = s.guards.length
  | .body v => v.getLsbD 9 = s.cpu.interruptFlag

/-- The machines strict runs from `m₀` reach. -/
inductive StrictReach (m₀ : Machine) : Machine → Prop
  | init : StrictReach m₀ m₀
  | step {s t : Machine} {a : GuardOp} : StrictReach m₀ s → s.Strict a →
      s.step idt a = some t → StrictReach m₀ t

/-- The counters of the innermost active guard of a stack, `e` if none is active. -/
def innerTrace : Option UInt64 → List InterruptGuard → Option UInt64
  | e, [] => e
  | e, g :: gs => innerTrace (if g.previousGsbase = 0 then e else some g.counters) gs

theorem innerTrace_concat (e : Option UInt64) (gs : List InterruptGuard) (g : InterruptGuard) :
    innerTrace e (gs ++ [g]) =
      if g.previousGsbase = 0 then innerTrace e gs else some g.counters := by
  induction gs generalizing e with
  | nil => rfl
  | cons g' gs ih => exact ih _

/-- What the registers hold under the innermost active trace: outside every guard the
    GS base and IDTR of `base`; inside one its non-null counters, the private IDT, IF
    clear. -/
def Holds (base cpu : Cpu) : Option UInt64 → Prop
  | none => cpu.gsbase = base.gsbase ∧ cpu.idtr = base.idtr
  | some c => cpu.gsbase = c ∧ c ≠ 0 ∧ cpu.idtr = idt ∧ cpu.interruptFlag = false

/-- Each active guard of a stack saved what held when it was started. -/
def SavedOk (base : Cpu) : Option UInt64 → List InterruptGuard → Prop
  | _, [] => True
  | e, g :: gs => (g.previousGsbase ≠ 0 → Holds idt base g.saved e) ∧
      SavedOk base (if g.previousGsbase = 0 then e else some g.counters) gs

theorem savedOk_concat (base : Cpu) (e : Option UInt64) (gs : List InterruptGuard)
    (g : InterruptGuard) : SavedOk idt base e (gs ++ [g]) ↔
      SavedOk idt base e gs ∧ (g.previousGsbase ≠ 0 → Holds idt base g.saved (innerTrace e gs)) := by
  induction gs generalizing e with
  | nil => simp [SavedOk, innerTrace]
  | cons g' gs ih => simp only [List.cons_append, SavedOk, List.append_eq, ih, innerTrace, and_assoc]

/-- The invariant of strict runs from a machine with no guard and registers `base`. -/
structure StrictInv (base : Cpu) (s : Machine) : Prop where
  base_ne : base.gsbase ≠ 0
  saved : SavedOk idt base none s.guards
  holds : Holds idt base s.cpu (innerTrace none s.guards)

theorem Holds.gsbase_ne {base cpu : Cpu} {e : Option UInt64} (h : Holds idt base cpu e)
    (hb : base.gsbase ≠ 0) : cpu.gsbase ≠ 0 := by
  cases e with
  | none => exact h.1 ▸ hb
  | some c => exact h.1 ▸ h.2.1

/-- Starting a guard on top of a stack under whose trace the registers hold. -/
theorem strictInv_start {base cpu : Cpu} {init : List InterruptGuard} {g : InterruptGuard}
    {c : UInt64} (hb : base.gsbase ≠ 0) (hs : SavedOk idt base none init)
    (hh : Holds idt base cpu (innerTrace none init)) (h0 : g.previousGsbase = 0) (hc : c ≠ 0) :
    StrictInv idt base ⟨(g.reset idt c cpu).2, init ++ [(g.reset idt c cpu).1]⟩ := by
  have hne := hh.gsbase_ne idt hb
  refine ⟨hb, (savedOk_concat idt _ _ _ _).2 ⟨hs, fun _ => ?_⟩, ?_⟩
  · simpa [InterruptGuard.reset, h0, InterruptGuard.saved] using hh
  · rw [innerTrace_concat]
    simp [InterruptGuard.reset, h0, hne, Holds, hc]

/-- Ending the innermost guard of a stack. -/
theorem strictInv_end {base cpu : Cpu} {init : List InterruptGuard} {g : InterruptGuard}
    (h : StrictInv idt base ⟨cpu, init ++ [g]⟩) :
    StrictInv idt base ⟨(g.«end» cpu).2, init⟩ ∧
      StrictInv idt base ⟨(g.«end» cpu).2, init ++ [(g.«end» cpu).1]⟩ := by
  obtain ⟨hb, hs, hh⟩ := h
  rw [savedOk_concat] at hs
  rw [innerTrace_concat] at hh
  have hend : Holds idt base (g.«end» cpu).2 (innerTrace none init) := by
    by_cases h0 : g.previousGsbase = 0
    · simpa [InterruptGuard.«end», h0] using hh
    · simpa [InterruptGuard.«end», h0] using hs.2 h0
  refine ⟨⟨hb, hs.1, hend⟩, hb, (savedOk_concat idt _ _ _ _).2 ⟨hs.1, by simp [InterruptGuard.«end»]⟩, ?_⟩
  rw [innerTrace_concat]
  simpa [InterruptGuard.«end»] using hend

/-- A strict `reset` or `end` names the innermost live guard. -/
theorem eq_concat_of_succ_eq_length {guards : List InterruptGuard} {i : Nat} {g : InterruptGuard}
    (hlen : i + 1 = guards.length) (hg : guards[i]? = some g) :
    ∃ init, guards = init ++ [g] ∧ i = init.length := by
  rcases List.eq_nil_or_concat guards with rfl | ⟨init, g', rfl⟩
  · simp at hlen
  · rw [List.concat_eq_append, List.length_append, List.length_singleton,
      Nat.add_right_cancel_iff] at hlen
    subst hlen
    rw [List.concat_eq_append, List.getElem?_concat_length, Option.some.injEq] at hg
    exact ⟨init, hg ▸ List.concat_eq_append _ _, rfl⟩

theorem set_concat_length (init : List InterruptGuard) (g g' : InterruptGuard) :
    (init ++ [g]).set init.length g' = init ++ [g'] := by
  simp [List.set_append_right _ _ (le_refl _)]

/-- Strict steps keep the invariant. -/
theorem strictInv_step {base : Cpu} {s t : Machine} {a : GuardOp} (hi : StrictInv idt base s)
    (ha : s.Strict a) (h : s.step idt a = some t) : StrictInv idt base t := by
  obtain ⟨cpu, guards⟩ := s
  cases a with
  | construct c =>
    cases h
    exact strictInv_start idt hi.base_ne hi.saved hi.holds rfl ha
  | destroy =>
    obtain ⟨g, hl, rfl⟩ := Option.map_eq_some'.1 h
    obtain ⟨init, rfl⟩ := List.getLast?_eq_some_iff.1 hl
    simpa using (strictInv_end idt hi).1
  | reset i c =>
    obtain ⟨g, hg, rfl⟩ := Option.map_eq_some'.1 h
    obtain ⟨init, rfl, rfl⟩ := eq_concat_of_succ_eq_length ha.1 hg
    simp only [set_concat_length]
    by_cases h0 : g.previousGsbase = 0
    · obtain ⟨hb, hs, hh⟩ := hi
      rw [savedOk_concat] at hs
      rw [innerTrace_concat, if_pos h0] at hh
      exact strictInv_start idt hb hs.1 hh h0 ha.2
    · simpa [InterruptGuard.reset, h0] using hi
  | «end» i =>
    obtain ⟨g, hg, rfl⟩ := Option.map_eq_some'.1 h
    obtain ⟨init, rfl, rfl⟩ := eq_concat_of_succ_eq_length ha hg
    simp only [set_concat_length]
    exact (strictInv_end idt hi).2
  | body v =>
    cases h
    refine ⟨hi.base_ne, hi.saved, ?_⟩
    have hh := hi.holds
    cases e : innerTrace none guards <;> simp_all [Holds, Cpu.interruptFlag, Strict]

theorem StrictReach.inv {m₀ s : Machine} (h₀ : m₀.cpu.gsbase ≠ 0) (hg : m₀.guards = [])
    (h : StrictReach idt m₀ s) : StrictInv idt m₀.cpu s := by
  induction h with
  | init => exact ⟨h₀, by simp [hg, SavedOk], by simp [hg, innerTrace, Holds]⟩
  | step _ ha hstep ih => exact strictInv_step idt ih ha hstep

end

/-- A core at boot of the examples: GS base at the KPCR, the system IDT, IF set. -/
def bootMachine : Machine := ⟨⟨0x1000, ⟨0x5000, 0xFFF⟩, 0x202#64⟩, []⟩

/-- The IDTR of the private table in the examples. -/
def privateIdtr : Idtr := ⟨0x6000, 0xFFF⟩

end Machine

end HvDetect
