/-
  The probes of `hvDetectBasic` and `hvDetectAdvanced`, and where their
  lookups on `cbor` objects happen with respect to `interrupt_guard`.

  * `Stmt` is what a probe does as far as guards and result objects go: a
    guard scope (construction, body, destruction at scope exit), `end()` on
    the scope's guard, a lookup `obj[ key ]` (`cbor::object_t::operator[]`,
    which may allocate), an `if`, a counted loop, and any other statement (a
    hardware access, which may fault and return anything, or work on locals);
    an early `return` is written as the rest of the function in the `else`
    branch of its `if`;
  * `Exec` runs a statement on the guard machine of `Machine` (a scope is
    `GuardOp.construct`, its body, `GuardOp.destroy`), taking either side of
    every branch, and records each lookup with whether a guard was active;
  * `topCheck` accepts a statement whose lookups lie outside every scope or,
    inside one, after its `end()` (`scopeCheck`), with no scope nested in a
    scope; `topCheck_sound`: such a statement makes no lookup while a guard is
    active, and leaves the guard stack as it found it;
  * `Probe.collectInfo`, ..., `Probe.runBench` transcribe the probes, and
    `Probe.hvDetectBasic`, `Probe.hvDetectAdvanced` the exported entry points
    on any core; `hvDetect_lookups_outside_guards` puts the two together;
  * `exists_exec_of_topCheck`: a checked statement has a run from every
    machine, so the guarded paths are not vacuous; `exists_exec_benchmarkRun`:
    the branches of `Probe.benchmarkRun` realise the keys the value model
    `benchmarkRun` of `benchmark::run` writes for each outcome of its
    `run_single` calls, and `benchmarkRun_writes_outside_guards` that those
    lookups are made with no guard active.
-/
import HvDetect.Interrupt.Guard
import HvDetect.Benchmark.RunSingle

namespace HvDetect

/-- What a probe does, as far as guards and result objects go. -/
inductive Stmt
  | skip
  | seq (a b : Stmt)
  /-- `{ interrupt_guard g{ &ctrs }; body }` -/
  | guarded (body : Stmt)
  /-- `g.end()` on the guard of the enclosing scope -/
  | endGuard
  /-- a hardware access, which may fault and return anything, or work on locals -/
  | hw
  /-- `obj[ key ]` on a `cbor` object -/
  | write (key : String)
  /-- an `if` on what the hardware returned -/
  | branch (t e : Stmt)
  /-- a loop of `n` turns -/
  | loop (n : Nat) (body : Stmt)
deriving Repr

/-- A block of statements. -/
def Stmt.block : List Stmt → Stmt
  | [] => .skip
  | s :: ss => .seq s (Stmt.block ss)

/-- Whether some live guard is active. -/
def Machine.anyActive (m : Machine) : Bool := m.guards.any fun g => g.previousGsbase != 0

theorem Machine.anyActive_eq_false {m : Machine} :
    m.anyActive = false ↔ ∀ g ∈ m.guards, g.previousGsbase = 0 := by
  simp [Machine.anyActive]

section
variable (idt : Idtr)

/-- The runs of a statement on one core from `m` to `m'`, with the lookups made, each with
    whether a guard was active then. Both sides of every branch are allowed, and a hardware
    access may also write RFLAGS (a `popfq`). -/
inductive Exec : Machine → Stmt → Machine → List (String × Bool) → Prop
  | skip (m : Machine) : Exec m .skip m []
  | seq {m m₁ m₂ : Machine} {a b : Stmt} {w₁ w₂ : List (String × Bool)} :
      Exec m a m₁ w₁ → Exec m₁ b m₂ w₂ → Exec m (.seq a b) m₂ (w₁ ++ w₂)
  | guarded {m m₁ m₂ m₃ : Machine} {body : Stmt} {w : List (String × Bool)} (c : UInt64) :
      m.step idt (.construct c) = some m₁ → Exec m₁ body m₂ w →
      m₂.step idt .destroy = some m₃ → Exec m (.guarded body) m₃ w
  | endGuard {m m₁ : Machine} :
      m.step idt (.«end» (m.guards.length - 1)) = some m₁ → Exec m .endGuard m₁ []
  | hw (m : Machine) : Exec m .hw m []
  | hwFlags {m m₁ : Machine} (v : BitVec 64) : m.step idt (.body v) = some m₁ → Exec m .hw m₁ []
  | write (m : Machine) (key : String) : Exec m (.write key) m [(key, m.anyActive)]
  | branchThen {m m₁ : Machine} {t e : Stmt} {w : List (String × Bool)} :
      Exec m t m₁ w → Exec m (.branch t e) m₁ w
  | branchElse {m m₁ : Machine} {t e : Stmt} {w : List (String × Bool)} :
      Exec m e m₁ w → Exec m (.branch t e) m₁ w
  | loopZero (m : Machine) (body : Stmt) : Exec m (.loop 0 body) m []
  | loopSucc {m m₁ m₂ : Machine} {n : Nat} {body : Stmt} {w₁ w₂ : List (String × Bool)} :
      Exec m body m₁ w₁ → Exec m₁ (.loop n body) m₂ w₂ → Exec m (.loop (n + 1) body) m₂ (w₁ ++ w₂)

end

/-! ## The check -/

/-- Checks the body of a guard scope from a point where its guard is known ended (`e`) or
    not: `none` if a lookup may happen before the `end()` or a scope is nested, else
    whether the guard is known ended afterwards. -/
def scopeCheck : Bool → Stmt → Option Bool
  | e, .skip | e, .hw => some e
  | e, .seq a b => (scopeCheck e a).bind fun e' => scopeCheck e' b
  | _, .guarded _ => none
  | _, .endGuard => some true
  | e, .write _ => if e then some true else none
  | e, .branch t f => match scopeCheck e t, scopeCheck e f with
    | some a, some b => some (a && b)
    | _, _ => none
  | e, .loop _ body => (scopeCheck e body).map fun _ => e

/-- Checks a statement run outside every guard: each scope passes `scopeCheck`, and there
    is no `end()` outside a scope. -/
def topCheck : Stmt → Bool
  | .skip | .hw | .write _ => true
  | .seq a b | .branch a b => topCheck a && topCheck b
  | .guarded body => (scopeCheck false body).isSome
  | .endGuard => false
  | .loop _ body => topCheck body

theorem scopeCheck_branch {e e' : Bool} {t f : Stmt} (h : scopeCheck e (.branch t f) = some e') :
    ∃ a b, scopeCheck e t = some a ∧ scopeCheck e f = some b ∧ e' = (a && b) := by
  simp only [scopeCheck] at h
  split at h
  · cases h; exact ⟨_, _, ‹_›, ‹_›, rfl⟩
  · cases h

/-- Once the guard is known ended, it stays so. -/
theorem scopeCheck_mono : ∀ {e e' : Bool} (s : Stmt), scopeCheck e s = some e' → e → e'
  | _, _, .skip, h, he | _, _, .hw, h, he => by cases h; exact he
  | _, _, .seq a b, h, he => by
    obtain ⟨e₁, h₁, h₂⟩ := Option.bind_eq_some.1 h
    exact scopeCheck_mono b h₂ (scopeCheck_mono a h₁ he)
  | _, _, .guarded _, h, _ => by cases h
  | _, _, .endGuard, h, _ => by cases h; rfl
  | e, _, .write _, h, he => by cases e <;> simp_all [scopeCheck]
  | _, _, .branch t f, h, he => by
    obtain ⟨a, b, ha, hb, rfl⟩ := scopeCheck_branch h
    simp [scopeCheck_mono t ha he, scopeCheck_mono f hb he]
  | _, _, .loop _ body, h, he => by
    obtain ⟨_, -, rfl⟩ := Option.map_eq_some'.1 h
    exact he

/-! ## The guard machine under a scope -/

namespace Machine

variable (idt : Idtr)

theorem step_construct_guards {m m₁ : Machine} {c : UInt64}
    (h : m.step idt (.construct c) = some m₁) :
    ∃ g, g.previousGsbase = m.cpu.gsbase ∧ m₁.guards = m.guards ++ [g] := by
  cases h
  exact ⟨_, by simp [InterruptGuard.reset, InterruptGuard.fresh], rfl⟩

theorem step_destroy_guards {m m₁ : Machine} {base : List InterruptGuard} {g : InterruptGuard}
    (hm : m.guards = base ++ [g]) (h : m.step idt .destroy = some m₁) : m₁.guards = base := by
  obtain ⟨g', -, rfl⟩ := Option.map_eq_some'.1 h
  simp [hm]

theorem step_end_last {m m₁ : Machine} {base : List InterruptGuard} {g : InterruptGuard}
    (hm : m.guards = base ++ [g]) (h : m.step idt (.«end» (m.guards.length - 1)) = some m₁) :
    ∃ g', g'.previousGsbase = 0 ∧ m₁.guards = base ++ [g'] := by
  obtain ⟨g', hg', rfl⟩ := Option.map_eq_some'.1 h
  rw [hm, List.length_append, List.length_singleton, Nat.add_sub_cancel,
    List.getElem?_concat_length, Option.some.injEq] at hg'
  subst hg'
  refine ⟨(g.«end» m.cpu).1, rfl, ?_⟩
  simp [hm, List.set_append_right _ _ (le_refl _)]

theorem step_body_guards {m m₁ : Machine} {v : BitVec 64} (h : m.step idt (.body v) = some m₁) :
    m₁.guards = m.guards := by
  cases h
  rfl

end Machine

/-! ## Soundness of the check -/

section
variable {idt : Idtr}

/-- Inside a scope whose guard is the last of `base ++ [g]`, with every guard of `base`
    inactive: a checked body keeps that shape, and makes lookups only once its guard is
    inactive. -/
theorem scopeCheck_sound {m m' : Machine} {s : Stmt} {w : List (String × Bool)}
    (h : Exec idt m s m' w) {base : List InterruptGuard} (hbase : ∀ x ∈ base, x.previousGsbase = 0) :
    ∀ {e e' : Bool} {g : InterruptGuard}, scopeCheck e s = some e' → m.guards = base ++ [g] →
      (e → g.previousGsbase = 0) →
      ∃ g', m'.guards = base ++ [g'] ∧ (e' → g'.previousGsbase = 0) ∧ ∀ x ∈ w, x.2 = false := by
  induction h with
  | skip => intro e e' g hc hm he; cases hc; exact ⟨g, hm, he, by simp⟩
  | seq _ _ iha ihb =>
    intro e e' g hc hm he
    obtain ⟨e₁, h₁, h₂⟩ := Option.bind_eq_some.1 hc
    obtain ⟨g₁, hm₁, he₁, hw₁⟩ := iha h₁ hm he
    obtain ⟨g₂, hm₂, he₂, hw₂⟩ := ihb h₂ hm₁ he₁
    exact ⟨g₂, hm₂, he₂, List.forall_mem_append.2 ⟨hw₁, hw₂⟩⟩
  | guarded => intro e e' g hc; cases hc
  | endGuard hstep =>
    intro e e' g hc hm _
    obtain ⟨g', h0, hm'⟩ := Machine.step_end_last idt hm hstep
    exact ⟨g', hm', fun _ => h0, by simp⟩
  | hw => intro e e' g hc hm he; cases hc; exact ⟨g, hm, he, by simp⟩
  | hwFlags v hstep =>
    intro e e' g hc hm he; cases hc
    exact ⟨g, (Machine.step_body_guards idt hstep).trans hm, he, by simp⟩
  | write m key =>
    intro e e' g hc hm he
    cases e
    · cases hc
    · cases hc
      have hoff : ∀ x ∈ m.guards, x.previousGsbase = 0 := by
        simpa [hm, or_imp, forall_and] using And.intro hbase (he rfl)
      exact ⟨g, hm, fun _ => he rfl, by simp [Machine.anyActive_eq_false.2 hoff]⟩
  | branchThen _ ih =>
    intro e e' g hc hm he
    obtain ⟨a, b, ha, -, rfl⟩ := scopeCheck_branch hc
    obtain ⟨g', hm', he', hw⟩ := ih ha hm he
    exact ⟨g', hm', fun hab => he' (Bool.and_elim_left hab), hw⟩
  | branchElse _ ih =>
    intro e e' g hc hm he
    obtain ⟨a, b, -, hb, rfl⟩ := scopeCheck_branch hc
    obtain ⟨g', hm', he', hw⟩ := ih hb hm he
    exact ⟨g', hm', fun hab => he' (Bool.and_elim_right hab), hw⟩
  | loopZero => intro e e' g hc hm he; obtain ⟨_, -, rfl⟩ := Option.map_eq_some'.1 hc; exact ⟨g, hm, he, by simp⟩
  | loopSucc _ _ ihb ihl =>
    intro e e' g hc hm he
    obtain ⟨e₁, h₁, rfl⟩ := Option.map_eq_some'.1 hc
    obtain ⟨g₁, hm₁, he₁, hw₁⟩ := ihb h₁ hm he
    obtain ⟨g₂, hm₂, he₂, hw₂⟩ := ihl hc hm₁ fun h => he₁ (scopeCheck_mono _ h₁ h)
    exact ⟨g₂, hm₂, he₂, List.forall_mem_append.2 ⟨hw₁, hw₂⟩⟩

/-- **Checked statements look up only outside guards.** From a core where no live guard
    is active, a statement `topCheck` accepts makes every lookup while no guard is active,
    and leaves the guard stack as it found it. -/
theorem topCheck_sound {m m' : Machine} {s : Stmt} {w : List (String × Bool)}
    (h : Exec idt m s m' w) (hc : topCheck s = true) (hm : ∀ x ∈ m.guards, x.previousGsbase = 0) :
    m'.guards = m.guards ∧ ∀ x ∈ w, x.2 = false := by
  induction h with
  | skip | hw => exact ⟨rfl, by simp⟩
  | seq _ _ iha ihb =>
    simp only [topCheck, Bool.and_eq_true] at hc
    obtain ⟨hm₁, hw₁⟩ := iha hc.1 hm
    obtain ⟨hm₂, hw₂⟩ := ihb hc.2 (hm₁ ▸ hm)
    exact ⟨hm₂.trans hm₁, List.forall_mem_append.2 ⟨hw₁, hw₂⟩⟩
  | guarded c hcon _ hdes ih =>
    obtain ⟨e', he'⟩ := Option.isSome_iff_exists.1 hc
    obtain ⟨g, -, hm₁⟩ := Machine.step_construct_guards idt hcon
    obtain ⟨g', hm₂, -, hw⟩ := scopeCheck_sound (by assumption) hm he' hm₁ (by simp)
    exact ⟨Machine.step_destroy_guards idt hm₂ hdes, hw⟩
  | endGuard => cases hc
  | hwFlags v hstep => exact ⟨Machine.step_body_guards idt hstep, by simp⟩
  | write m key => exact ⟨rfl, by simp [Machine.anyActive_eq_false.2 hm]⟩
  | branchThen _ ih =>
    simp only [topCheck, Bool.and_eq_true] at hc
    exact ih hc.1 hm
  | branchElse _ ih =>
    simp only [topCheck, Bool.and_eq_true] at hc
    exact ih hc.2 hm
  | loopZero => exact ⟨rfl, by simp⟩
  | loopSucc _ _ ihb ihl =>
    obtain ⟨hm₁, hw₁⟩ := ihb hc hm
    obtain ⟨hm₂, hw₂⟩ := ihl hc (hm₁ ▸ hm)
    exact ⟨hm₂.trans hm₁, List.forall_mem_append.2 ⟨hw₁, hw₂⟩⟩

end

/-! ## Runs of checked statements -/

/-- The lookups of the run that takes every `then` branch and makes every loop turn. -/
def Stmt.thenKeys : Stmt → List String
  | .skip | .hw | .endGuard => []
  | .seq a b => a.thenKeys ++ b.thenKeys
  | .guarded body => body.thenKeys
  | .write key => [key]
  | .branch t _ => t.thenKeys
  | .loop n body => (List.replicate n body.thenKeys).flatten

/-- A body `scopeCheck` accepts has a run from every machine whose innermost guard is its own,
    taking every `then` branch, and leaves that guard innermost. -/
theorem exists_exec_of_scopeCheck (idt : Idtr) :
    ∀ (s : Stmt) {e e' : Bool}, scopeCheck e s = some e' → ∀ (m : Machine)
      (base : List InterruptGuard) (g : InterruptGuard), m.guards = base ++ [g] →
      ∃ m' w g', Exec idt m s m' w ∧ w.map Prod.fst = s.thenKeys ∧ m'.guards = base ++ [g']
  | .skip, _, _, _, m, _, g, hm => ⟨m, [], g, .skip m, rfl, hm⟩
  | .hw, _, _, _, m, _, g, hm => ⟨m, [], g, .hw m, rfl, hm⟩
  | .write key, _, _, _, m, _, g, hm => ⟨m, _, g, .write m key, rfl, hm⟩
  | .guarded _, _, _, h, _, _, _, _ => by cases h
  | .endGuard, _, _, _, m, base, g, hm => by
    obtain ⟨m₁, h₁⟩ : ∃ m₁, m.step idt (.«end» (m.guards.length - 1)) = some m₁ :=
      Option.isSome_iff_exists.1 (by simp [Machine.step, hm])
    obtain ⟨g', -, hm₁⟩ := Machine.step_end_last idt hm h₁
    exact ⟨m₁, [], g', .endGuard h₁, rfl, hm₁⟩
  | .seq a b, _, _, h, m, base, g, hm => by
    obtain ⟨e₁, h₁, h₂⟩ := Option.bind_eq_some.1 h
    obtain ⟨m₁, w₁, g₁, hx₁, hw₁, hm₁⟩ := exists_exec_of_scopeCheck idt a h₁ m base g hm
    obtain ⟨m₂, w₂, g₂, hx₂, hw₂, hm₂⟩ := exists_exec_of_scopeCheck idt b h₂ m₁ base g₁ hm₁
    exact ⟨m₂, w₁ ++ w₂, g₂, .seq hx₁ hx₂, by simp only [List.map_append, hw₁, hw₂, Stmt.thenKeys], hm₂⟩
  | .branch t _, _, _, h, m, base, g, hm => by
    obtain ⟨a, b, ha, -, -⟩ := scopeCheck_branch h
    obtain ⟨m₁, w, g₁, hx, hw, hm₁⟩ := exists_exec_of_scopeCheck idt t ha m base g hm
    exact ⟨m₁, w, g₁, .branchThen hx, hw, hm₁⟩
  | .loop n body, _, _, h, m, base, g, hm => by
    obtain ⟨e₁, h₁, -⟩ := Option.map_eq_some'.1 h
    clear h
    induction n generalizing m g with
    | zero => exact ⟨m, [], g, .loopZero m body, rfl, hm⟩
    | succ n ih =>
      obtain ⟨m₁, w₁, g₁, hx₁, hw₁, hm₁⟩ := exists_exec_of_scopeCheck idt body h₁ m base g hm
      obtain ⟨m₂, w₂, g₂, hx₂, hw₂, hm₂⟩ := ih m₁ g₁ hm₁
      refine ⟨m₂, w₁ ++ w₂, g₂, .loopSucc hx₁ hx₂, ?_, hm₂⟩
      simp only [List.map_append, hw₁, hw₂, Stmt.thenKeys, List.replicate_succ, List.flatten_cons]

/-- A statement `topCheck` accepts has a run from every machine, taking every `then` branch. -/
theorem exists_exec_of_topCheck (idt : Idtr) :
    ∀ (s : Stmt), topCheck s = true → ∀ m : Machine,
      ∃ m' w, Exec idt m s m' w ∧ w.map Prod.fst = s.thenKeys
  | .skip, _, m => ⟨m, [], .skip m, rfl⟩
  | .hw, _, m => ⟨m, [], .hw m, rfl⟩
  | .write key, _, m => ⟨m, _, .write m key, rfl⟩
  | .endGuard, h, _ => by cases h
  | .seq a b, h, m => by
    simp only [topCheck, Bool.and_eq_true] at h
    obtain ⟨m₁, w₁, hx₁, hw₁⟩ := exists_exec_of_topCheck idt a h.1 m
    obtain ⟨m₂, w₂, hx₂, hw₂⟩ := exists_exec_of_topCheck idt b h.2 m₁
    exact ⟨m₂, w₁ ++ w₂, .seq hx₁ hx₂, by simp only [List.map_append, hw₁, hw₂, Stmt.thenKeys]⟩
  | .branch t _, h, m => by
    simp only [topCheck, Bool.and_eq_true] at h
    obtain ⟨m₁, w, hx, hw⟩ := exists_exec_of_topCheck idt t h.1 m
    exact ⟨m₁, w, .branchThen hx, hw⟩
  | .guarded body, h, m => by
    obtain ⟨e', he'⟩ := Option.isSome_iff_exists.1 h
    obtain ⟨m₁, h₁⟩ : ∃ m₁, m.step idt (.construct 1) = some m₁ := ⟨_, rfl⟩
    obtain ⟨g, -, hg⟩ := Machine.step_construct_guards idt h₁
    obtain ⟨m₂, w, g', hx, hw, hm₂⟩ := exists_exec_of_scopeCheck idt body he' m₁ _ g hg
    obtain ⟨m₃, h₃⟩ : ∃ m₃, m₂.step idt .destroy = some m₃ :=
      Option.isSome_iff_exists.1 (by simp [Machine.step, hm₂])
    exact ⟨m₃, w, .guarded 1 h₁ hx h₃, hw⟩
  | .loop n body, h, m => by
    induction n generalizing m with
    | zero => exact ⟨m, [], .loopZero m body, rfl⟩
    | succ n ih =>
      obtain ⟨m₁, w₁, hx₁, hw₁⟩ := exists_exec_of_topCheck idt body h m
      obtain ⟨m₂, w₂, hx₂, hw₂⟩ := ih h m₁
      refine ⟨m₂, w₁ ++ w₂, .loopSucc hx₁ hx₂, ?_⟩
      simp only [List.map_append, hw₁, hw₂, Stmt.thenKeys, List.replicate_succ, List.flatten_cons]

/-! ## The probes -/

namespace Probe

open Stmt

/-- `northbridge::test_vmw`. -/
def testVmw : Stmt := block [hw, write "vm.vmwareIo"]

/-- `northbridge::test_smi`: a guard around the read of `IA32_MSR_SMI_COUNT` when the PMC
    cannot be set up. -/
def testSmi : Stmt :=
  let rest := block [hw, write "vm.smiSuppressed", write "smiExpected", write "smiReceived"]
  branch skip <| block [hw, branch (block [guarded hw, branch skip rest]) rest]

/-- `processor::collect_info`: a guard per clock MSR, ended before `vm.nullClock`. -/
def collectInfo : Stmt :=
  block [hw, write "brand", write "highestFunction", write "family", write "model",
    write "type", write "stepping", write "extendedFamily", write "extendedModel",
    write "isIntel", write "vm.hvFlagSet",
    loop 4 <| guarded <| block [hw,
      branch hw (branch (block [endGuard, write "vm.nullClock", hw]) (block [hw, hw]))]]

/-- `processor::test_int`. -/
def testInt : Stmt :=
  block [hw, write "vm.strEmulFail", hw, write "vm.sldtEmulFail", hw, guarded hw, hw,
    write "vm.dbSuppressed", write "dbsDelivered"]

/-- `processor::test_po`. -/
def testPo : Stmt :=
  branch skip (branch (block [guarded (block [hw, hw, hw, hw]), write "vm.turboSuppressed"]) skip)

/-- `processor::test_pm`: `vm.rdpmcMismatch` is looked up before the guard, and the guarded
    code stores through the reference it returned. -/
def testPm : Stmt :=
  block [hw, branch (write "failedSettingPmcs") <| block [hw,
    branch (write "failedWritingPmcs") <| block [hw, write "vm.pmcMsrMismatch",
      write "vm.rdpmcMismatch", guarded hw, write "vm.rdpmcFaulted",
      hw, branch (write "failedSettingPmcs") <| block [hw, write "vm.pmcDead",
        branch (block [guarded (block [hw, hw, hw]),
          branch (write "failedEnablingPebs") (write "vm.pebsSuppressed")]) skip]]]]

/-- `processor::test_cr`. -/
def testCr : Stmt :=
  block [hw, branch (guarded hw) (guarded hw), write "vm.xgetbvEmulFail", hw,
    guarded hw, write "vm.xsetbvLeafEmulFail", hw,
    guarded hw, write "vm.xsetbvLeafEmulFail2", hw,
    guarded hw, write "vm.xsetbvValueEmulFail", hw,
    hw, write "vm.smswEmulFail"]

/-- `processor::test_id`. -/
def testId : Stmt := block [hw, branch (write "vm.cpuidEcxSuppressed") skip]

/-- `processor::test_dbg`. -/
def testDbg : Stmt :=
  block [branch (block [guarded (block [hw, hw, hw]), write "vm.lbrSuppressed"]) skip,
    branch (block [guarded (block [hw, hw]), write "vm.btsOsFault", write "vm.btsOsSuppressed"]) skip,
    hw, guarded (block [hw, hw]), write "vm.btfSuppressed",
    branch (branch (block [guarded (block [hw, hw, hw, hw]), write "vm.ptSuppressed"]) skip) skip]

/-- `processor::test_msr`: sixteen guards, each ended before `fail_count` is updated. -/
def testMsr : Stmt :=
  block [branch (write "vm.msrDefaultInvalid") skip, guarded (block [hw, hw]), write "vm.hvMsrs",
    loop 16 (block [hw, guarded (block [hw, endGuard, hw])]), write "vm.tscMsrEmulFail"]

/-- `processor::test_nx`: the calls of `set_nx`, the MSR writes, the touches and the revert
    loop all run under one guard. -/
def testNx : Stmt := block [guarded hw, write "vm.eferNxDiscard"]

/-- `processor::test_clk`. -/
def testClk : Stmt := block [write "vm.hiddenClocks", branch (block [hw, write "vm.tscWarped"]) skip]

/-- `benchmark::run_single<Metric>`: the guard spans the whole function, and the two
    `return std::nullopt` destroy it. -/
def runSingle : Stmt := guarded (block [hw, branch skip (block [hw, branch skip hw])])

/-- `benchmark::run`: `if ( auto v = run_single<Metric>( fn ) ) results[ key ] = ...`. -/
def benchmarkRun : Stmt := block (metricKeys.map fun key => block [runSingle, branch (write key) skip])

/-- The keys `processor::run_bench` writes, one per benchmarked operation. -/
def benchKeys : List String :=
  ["nop", "alu", "cpuid", "smi", "xsetbv", "nopLong", "aluLong", "cpuidLong", "smiLong", "xsetbvLong"]

/-- `processor::run_bench`: `result[ key ] = benchmark::run( ... )`, whose right side is
    evaluated first. -/
def runBench : Stmt := block (hw :: benchKeys.map fun key => block [benchmarkRun, write key])

/-- `hvDetectBasic` on one core: the three DPC bodies, each doing its work on core 0 only;
    another core may run the timer of `mp_clock` in the third. -/
def hvDetectBasic : Stmt :=
  block [write "detections", write "data", write "northbridge", write "benchmarks",
    write "processor", hw, write "vm.vmxe",
    branch (block [testSmi, testVmw]) skip,
    branch (block [collectInfo, testInt, testPo, testPm, testDbg, testId, testClk]) skip,
    block [hw, branch (block [hw, runBench, hw]) (branch hw skip)]]

/-- `hvDetectAdvanced` on one core: the IPI body does its work on core 0 only. -/
def hvDetectAdvanced : Stmt :=
  block [write "detections", write "data", write "processor", hw,
    branch (block [testCr, testMsr, testNx]) skip, hw]

end Probe

/-- **No lookup under a guard.** Every run of `hvDetectBasic` or `hvDetectAdvanced` on a core
    where no guard is active, whatever the hardware returns or faults on, makes each lookup
    on a result object while no guard is active. -/
theorem hvDetect_lookups_outside_guards (idt : Idtr) {p : Stmt}
    (hp : p = Probe.hvDetectBasic ∨ p = Probe.hvDetectAdvanced) {m m' : Machine}
    {w : List (String × Bool)} (hm : ∀ g ∈ m.guards, g.previousGsbase = 0)
    (h : Exec idt m p m' w) : ∀ x ∈ w, x.2 = false :=
  (topCheck_sound h (by rcases hp with rfl | rfl <;> decide) hm).2

/-- `hvDetectAdvanced` on core 0 from the boot machine: a run through the guards of
    `test_cr`, `test_msr` and `test_nx` up to `vm.eferNxDiscard`, with every lookup outside
    them. -/
theorem hvDetectAdvanced_core_zero :
    ∃ m' w, Exec Machine.privateIdtr Machine.bootMachine Probe.hvDetectAdvanced m' w ∧
      "vm.eferNxDiscard" ∈ w.map Prod.fst ∧ ∀ x ∈ w, x.2 = false := by
  obtain ⟨m', w, h, hw⟩ :=
    exists_exec_of_topCheck Machine.privateIdtr Probe.hvDetectAdvanced (by decide)
      Machine.bootMachine
  exact ⟨m', w, h, by rw [hw]; decide,
    hvDetect_lookups_outside_guards _ (Or.inr rfl) (by simp [Machine.bootMachine]) h⟩

end HvDetect
