/-
  `processor::test_nx`: the page-table walk `set_nx` and its revert log.

  * the page tables are a `PtEntry` (`present`, `large_page`,
    `execute_disable`) for every `EntryRef`; `getPte p d` is the entry of
    level `d` that maps `p` (`ia32::mem::get_pte`), named by the bits of `p`
    above that level's page offset;
  * `add` is the lambda of `set_nx` that writes an entry's XD bit and logs
    `{e, xd}` in `revert_list`, `walk` its inner loop from `pxe_level` down,
    `setNx` the outer `while (n > 0)` with `n` an `int` (`BitVec 32`);
    `testNx` makes the calls `nxCalls` of the guarded body, then replays the
    log from its first record on (`revert`);
  * `set_nx` writes only through `add`, so `setNx_preserves` carries what
    every `add` keeps over a whole call: `setNx_frame` (only XD bits change,
    and only to `xd`) and `LogInv` (each record flips its entry, and an
    entry's last record is its current bit);
  * `revert_xd`: the replay restores an entry unless it was logged a positive
    even number of times, which leaves it flipped; `testNx_large_page_flips`
    is a run of `test_nx` that does so;
  * `setNx_unaligned_misses_page`: an unaligned start can leave a page of its
    range untouched.
-/
import HvDetect.While
import Mathlib.Data.BitVec

namespace HvDetect

/-- `ia32::mem::page_size(d)`: 4 KiB at `pte_level` (0) up to 512 GiB at `pxe_level` (3). -/
def pageSize (d : Nat) : Nat := 2 ^ (12 + 9 * d)

/-- The fields of `ia32::pt_entry_64` that `set_nx` reads or writes. -/
structure PtEntry where
  present : Bool
  largePage : Bool
  executeDisable : Bool
deriving DecidableEq, Repr

/-- A page-table entry: its level and its index among that level's entries. -/
structure EntryRef where
  level : Nat
  index : Nat
deriving DecidableEq, Repr

/-- `ia32::mem::get_pte(p, d)`: the entry of level `d` on the translation path of `p`, in
    the 48-bit address space. -/
def getPte (p d : Nat) : EntryRef := ⟨d, p / pageSize d % 2 ^ (36 - 9 * d)⟩

/-- The page tables, and `revert_list[0 .. revert_list_i)`. -/
structure NxState where
  table : EntryRef → PtEntry
  log : List (EntryRef × Bool)

/-- `add(e)`: with no other writer of XD bits, the atomic set (reset) finds the bit clear
    (set), so the entry is written and logged exactly when its bit differs from `xd`. -/
def add (xd : Bool) (e : EntryRef) (s : NxState) : NxState :=
  if (s.table e).executeDisable = xd then s
  else ⟨Function.update s.table e { s.table e with executeDisable := xd }, s.log ++ [(e, xd)]⟩

/-- The inner loop of `set_nx` for `p` from level `d` down: it descends through present
    non-leaf entries (adding them if `rec`), adds a present leaf, and returns the level
    where it breaks. -/
def walk (p : Nat) (xd rec : Bool) : Nat → NxState → Nat × NxState
  | 0, s => (0, if (s.table (getPte p 0)).present then add xd (getPte p 0) s else s)
  | d + 1, s =>
    let e := s.table (getPte p (d + 1))
    if e.present ∧ !e.largePage then
      walk p xd rec d (if rec then add xd (getPte p (d + 1)) s else s)
    else (d + 1, if e.present then add xd (getPte p (d + 1)) s else s)

/-- The loop state of `set_nx`: `p`, `n` and the machine. -/
structure NxLoop where
  p : Nat
  n : BitVec 32
  s : NxState

/-- One turn of `while (n > 0)`: walk from `pxe_level`, then `p += page_size(d)` and
    `n -= page_size(d)` for the level `d` where the walk broke. -/
def setNxStep (xd rec : Bool) (l : NxLoop) : NxLoop :=
  let w := walk l.p xd rec 3 l.s
  ⟨(l.p + pageSize w.1) % 2 ^ 64, l.n - BitVec.ofNat 32 (pageSize w.1), w.2⟩

/-- `set_nx(p, n, xd, rec)`. -/
def setNx (p : Nat) (n : BitVec 32) (xd rec : Bool) (s : NxState) : Part NxState :=
  (whileLoop (fun l => decide (0 < l.n.toInt)) (setNxStep xd rec) ⟨p, n, s⟩).map NxLoop.s

/-- The arguments of one call of `set_nx`. -/
structure NxCall where
  p : Nat
  n : BitVec 32
  xd : Bool
  recursive : Bool

/-- Calls of `set_nx` one after another. -/
def runCalls : List NxCall → NxState → Part NxState
  | [], s => Part.some s
  | c :: cs, s => (setNx c.p c.n c.xd c.recursive s).bind (runCalls cs)

/-- The calls of `test_nx`'s guarded body: the test page, the IDT and its 256 handlers,
    the GDT (`lim`), the TSS (`tss`, `tssLimit`), the code at `ip` and the stack at `sp`. -/
def nxCalls (page idt : Nat) (handlers : Fin 256 → Nat) (gdt lim tss tssLimit ip sp : Nat) :
    List NxCall :=
  ⟨page, 0x1000, true, false⟩ :: ⟨idt, 0x1000, false, true⟩ ::
    ((List.ofFn fun i => ⟨handlers i, 0x1000, false, true⟩) ++
      [⟨gdt, BitVec.ofNat 32 ((lim + 1) * 8), false, true⟩,
        ⟨tss, BitVec.ofNat 32 (tssLimit + 1), false, true⟩,
        ⟨ip, 0x2000, false, true⟩,
        ⟨(sp + 2 ^ 64 - 0x500) % 2 ^ 64, 0x2000, false, true⟩])

/-- The revert loop: `revert_list[i]` for `i` from `0` up, resetting XD where `xd` was set
    and setting it where it was cleared. -/
def replayLog (t : EntryRef → PtEntry) (log : List (EntryRef × Bool)) : EntryRef → PtEntry :=
  log.foldl (fun t r => Function.update t r.1 { t r.1 with executeDisable := !r.2 }) t

/-- The revert loop, then `revert_list_i = 0`. -/
def revert (s : NxState) : NxState := ⟨replayLog s.table s.log, []⟩

/-- `test_nx`'s effect on the page tables `t`, from an empty log. -/
def testNx (calls : List NxCall) (t : EntryRef → PtEntry) : Part NxState :=
  (runCalls calls ⟨t, []⟩).map revert

/-! ## The log -/

section
variable {xd : Bool} {e e' : EntryRef} {s : NxState}

/-- Whichever branch it takes, `add` leaves entry `e` with XD bit `xd`. -/
theorem add_table : (add xd e s).table = Function.update s.table e { s.table e with executeDisable := xd } := by
  unfold add
  split
  · rename_i h; rw [← h]; exact (Function.update_eq_self e s.table).symm
  · rfl

@[simp] theorem add_present : ((add xd e s).table e').present = (s.table e').present := by
  by_cases h : e' = e <;> simp [add_table, h]

@[simp] theorem add_largePage : ((add xd e s).table e').largePage = (s.table e').largePage := by
  by_cases h : e' = e <;> simp [add_table, h]

@[simp] theorem add_executeDisable :
    ((add xd e s).table e').executeDisable = if e' = e then xd else (s.table e').executeDisable := by
  by_cases h : e' = e <;> simp [add_table, h]

end

/-- The XD values logged for `e`, oldest first. -/
def recordsOf (e : EntryRef) (log : List (EntryRef × Bool)) : List Bool :=
  (log.filter fun r => r.1 = e).map Prod.snd

theorem recordsOf_concat (e e' : EntryRef) (x : Bool) (log : List (EntryRef × Bool)) :
    recordsOf e (log ++ [(e', x)]) = recordsOf e log ++ if e' = e then [x] else [] := by
  by_cases h : e' = e <;> simp [recordsOf, h]

theorem xor_parity_succ (b : Bool) (k : Nat) :
    (b ^^ ((k + 1) % 2 == 1)) = !(b ^^ (k % 2 == 1)) := by
  rcases Nat.mod_two_eq_zero_or_one k with h | h <;> simp [Nat.add_mod, h]

/-- What every state reached from the tables `t₀` and an empty log satisfies: only XD bits
    have changed, every record flipped its entry, and an entry's last record is its bit. -/
structure LogInv (t₀ : EntryRef → PtEntry) (s : NxState) : Prop where
  present : ∀ e, (s.table e).present = (t₀ e).present
  largePage : ∀ e, (s.table e).largePage = (t₀ e).largePage
  parity : ∀ e, (s.table e).executeDisable =
    ((t₀ e).executeDisable ^^ ((recordsOf e s.log).length % 2 == 1))
  last : ∀ e x, (recordsOf e s.log).getLast? = some x → (s.table e).executeDisable = x

/-- Under `LogInv`, an entry is its first value with its current XD bit. -/
theorem LogInv.table_eq {t₀ : EntryRef → PtEntry} {s : NxState} (h : LogInv t₀ s) (e : EntryRef) :
    s.table e = { t₀ e with executeDisable := (s.table e).executeDisable } := by
  have hp := h.present e
  have hl := h.largePage e
  cases hse : s.table e
  simp_all

theorem logInv_start (t₀ : EntryRef → PtEntry) : LogInv t₀ ⟨t₀, []⟩ :=
  ⟨fun _ => rfl, fun _ => rfl, fun _ => by simp [recordsOf], fun _ _ h => by simp [recordsOf] at h⟩

theorem add_logInv {t₀ : EntryRef → PtEntry} {s : NxState} (h : LogInv t₀ s) (xd : Bool)
    (e : EntryRef) : LogInv t₀ (add xd e s) := by
  by_cases hx : (s.table e).executeDisable = xd
  · rwa [add, if_pos hx]
  have hrec : ∀ e', recordsOf e' (add xd e s).log = recordsOf e' s.log ++ if e = e' then [xd] else [] :=
    fun e' => by rw [add, if_neg hx, recordsOf_concat]
  refine ⟨fun e' => by simp [h.present], fun e' => by simp [h.largePage], fun e' => ?_,
    fun e' y hy => ?_⟩
  · by_cases he : e' = e
    · subst he
      rw [hrec, if_pos rfl, List.length_append, List.length_singleton, xor_parity_succ,
        ← h.parity, add_executeDisable, if_pos rfl]
      cases xd <;> simp_all
    · rw [hrec, if_neg (Ne.symm he), List.append_nil, add_executeDisable, if_neg he, h.parity]
  · by_cases he : e' = e
    · subst he
      rw [hrec, if_pos rfl, List.getLast?_concat, Option.some_inj] at hy
      simp [hy]
    · rw [hrec, if_neg (Ne.symm he), List.append_nil] at hy
      rw [add_executeDisable, if_neg he, h.last e' y hy]

/-! ## What `set_nx` keeps

`set_nx` writes the tables and the log only through `add`, so what every `add xd` keeps, a
whole call keeps. -/

section
variable (P : NxState → Prop) {xd : Bool} (hadd : ∀ e s, P s → P (add xd e s))
include hadd

theorem walk_preserves (p : Nat) (rec : Bool) : ∀ d s, P s → P (walk p xd rec d s).2
  | 0, s, h => by unfold walk; split <;> simp only [hadd _ s h, h]
  | d + 1, s, h => by
    have hc : P (if rec then add xd (getPte p (d + 1)) s else s) := by
      split <;> simp only [hadd _ s h, h]
    unfold walk
    dsimp only
    split
    · exact walk_preserves p rec d _ hc
    · split <;> simp only [hadd _ s h, h]

theorem setNx_preserves {p : Nat} {n : BitVec 32} {rec : Bool} {s s' : NxState} (h : P s)
    (hs : s' ∈ setNx p n xd rec s) : P s' := by
  obtain ⟨l, hl, rfl⟩ := (Part.mem_map_iff _).1 hs
  exact whileLoop_inv (fun l => P l.s) (fun l => walk_preserves P hadd l.p rec 3 l.s) h hl

end

/-- A call of `set_nx` changes only XD bits, and only to `xd`. -/
theorem setNx_frame {p : Nat} {n : BitVec 32} {xd rec : Bool} {s s' : NxState}
    (hs : s' ∈ setNx p n xd rec s) (e : EntryRef) :
    s'.table e = s.table e ∨ s'.table e = { s.table e with executeDisable := xd } := by
  refine setNx_preserves (fun s' => ∀ e, s'.table e = s.table e ∨
    s'.table e = { s.table e with executeDisable := xd }) (fun e₁ s₁ h e' => ?_) (fun _ => Or.inl rfl) hs e
  by_cases he : e' = e₁
  · subst he; rcases h e' with h' | h' <;> simp [add_table, h']
  · simpa [add_table, he] using h e'

theorem runCalls_logInv {t₀ : EntryRef → PtEntry} :
    ∀ (calls : List NxCall) {s s' : NxState}, LogInv t₀ s → s' ∈ runCalls calls s → LogInv t₀ s'
  | [], _, _, h, hs => Part.mem_some_iff.1 hs ▸ h
  | c :: cs, _, _, h, hs => by
    obtain ⟨s₁, h₁, h₂⟩ := Part.mem_bind_iff.1 hs
    exact runCalls_logInv cs (setNx_preserves (LogInv t₀) (fun e _ h => add_logInv h _ e) h h₁) h₂

/-! ## The revert loop -/

/-- The replay leaves each entry as its last record says to undo, if it has one. -/
theorem replayLog_apply (t : EntryRef → PtEntry) (log : List (EntryRef × Bool)) (e : EntryRef) :
    replayLog t log e = match (recordsOf e log).getLast? with
      | some x => { t e with executeDisable := !x }
      | none => t e := by
  induction log using List.reverseRecOn generalizing t with
  | nil => rfl
  | append_singleton log r ih =>
    obtain ⟨e', x⟩ := r
    rw [replayLog, List.foldl_concat, ← replayLog, recordsOf_concat]
    by_cases he : e' = e
    · subst he
      rw [Function.update_same, if_pos rfl, List.getLast?_concat, ih]
      split <;> rfl
    · simp only [Function.update_noteq (Ne.symm he), he, if_false, List.append_nil]
      exact ih t

/-- **What the revert loop leaves.** From any state a run of `set_nx` calls reaches, the
    FIFO replay restores every entry except those logged a positive even number of times,
    whose XD bit ends flipped. -/
theorem revert_xd {t₀ : EntryRef → PtEntry} {s : NxState} (h : LogInv t₀ s) (e : EntryRef) :
    (revert s).table e = { t₀ e with executeDisable := (t₀ e).executeDisable ^^
      (recordsOf e s.log ≠ [] && (recordsOf e s.log).length % 2 == 0) } ∧ (revert s).log = [] := by
  refine ⟨?_, rfl⟩
  show replayLog s.table s.log e = _
  rw [replayLog_apply, h.table_eq e]
  split
  · rename_i x hx
    have hne : recordsOf e s.log ≠ [] := fun h' => by simp [h'] at hx
    have hp := h.parity e
    rw [h.last e x hx] at hp
    simp only [hp, hne]
    cases (t₀ e).executeDisable <;>
      rcases Nat.mod_two_eq_zero_or_one (recordsOf e s.log).length with hk | hk <;> simp [hk, hne]
  · rename_i hx
    rw [List.getLast?_eq_none_iff] at hx
    simp [h.parity e, hx]

/-- Every run of `test_nx` from the tables `t₀` ends as `revert_xd` says. -/
theorem testNx_xd {calls : List NxCall} {t₀ : EntryRef → PtEntry} {s : NxState}
    (hs : s ∈ runCalls calls ⟨t₀, []⟩) (e : EntryRef) :
    (revert s).table e = { t₀ e with executeDisable := (t₀ e).executeDisable ^^
      (recordsOf e s.log ≠ [] && (recordsOf e s.log).length % 2 == 0) } :=
  (revert_xd (runCalls_logInv calls (logInv_start t₀) hs) e).1

/-! ## One call of `set_nx` -/

theorem add_of_executeDisable {xd : Bool} {e : EntryRef} {s : NxState}
    (h : (s.table e).executeDisable = xd) : add xd e s = s := if_pos h

/-- A call whose first turn brings `n` to `0` or below makes that one turn. -/
theorem setNx_one_turn {p : Nat} {n : BitVec 32} {xd rec : Bool} {s : NxState}
    (h₀ : 0 < n.toInt)
    (h₁ : ¬ 0 < (n - BitVec.ofNat 32 (pageSize (walk p xd rec 3 s).1)).toInt) :
    setNx p n xd rec s = Part.some (walk p xd rec 3 s).2 := by
  rw [setNx, whileLoop_of_true (by simpa using h₀), whileLoop_of_false (by simpa [setNxStep] using h₁)]
  rfl

/-- Tables in which every entry is present, maps a 4 KiB page, and has XD clear. -/
def smallPageTable : EntryRef → PtEntry := fun _ => ⟨true, false, false⟩

/-- The walk advances `p` by a page without aligning it: from `0x800`, one turn sets the
    PTE of page `0` and brings `n = 0x1000` to `0`, so the PTE of `0x1000`, which lies in the
    range, keeps XD clear. -/
theorem setNx_unaligned_misses_page :
    ∃ s ∈ setNx 0x800 0x1000 true false ⟨smallPageTable, []⟩,
      (s.table (getPte 0x1000 0)).present = true ∧ (s.table (getPte 0x1000 0)).executeDisable = false := by
  have hw : walk 0x800 true false 3 ⟨smallPageTable, []⟩ =
      (0, add true (getPte 0x800 0) ⟨smallPageTable, []⟩) := by
    simp [walk, smallPageTable]
  refine ⟨_, by rw [setNx_one_turn (by decide) (by rw [hw]; decide)]; exact Part.mem_some _, ?_⟩
  rw [hw]
  simp [smallPageTable, getPte, pageSize]

/-! ## A run that flips an entry -/

/-- Tables in which every entry is present, every PDE maps a 2 MiB page, and no XD bit is
    set. -/
def largePageTable : EntryRef → PtEntry := fun e => ⟨true, e.level == 1, false⟩

section
variable {s : NxState} (hs : ∀ e, (s.table e).present = true ∧ (s.table e).largePage = (e.level == 1))
include hs

theorem add_largePages (xd : Bool) (e : EntryRef) :
    ∀ e', ((add xd e s).table e').present = true ∧ ((add xd e s).table e').largePage = (e'.level == 1) :=
  fun e' => by simp [hs e']

/-- Over such tables the walk descends to the PDE, adding the PML4E and PDPTE if `rec`. -/
theorem walk_largePages (p : Nat) (xd rec : Bool) :
    walk p xd rec 3 s = (1, add xd (getPte p 1)
      (if rec then add xd (getPte p 2) (add xd (getPte p 3) s) else s)) := by
  cases rec <;> simp [walk, getPte, hs]

/-- Over such tables with no XD bit set, a clearing call of `n` in `(0, 2 MiB]` changes
    nothing. -/
theorem setNx_largePages_clear {p : Nat} {n : BitVec 32} {rec : Bool}
    (hx : ∀ e, (s.table e).executeDisable = false) (h₀ : 0 < n.toInt)
    (h₁ : ¬ 0 < (n - BitVec.ofNat 32 (pageSize 1)).toInt) : setNx p n false rec s = Part.some s := by
  rw [setNx_one_turn h₀ (by rwa [walk_largePages hs]), walk_largePages hs]
  cases rec <;> simp [add_of_executeDisable (hx _)]

end

/-- The clearing calls `test_nx` makes after the IDT's, for a kernel laid out in one 2 MiB
    page: each changes nothing. -/
theorem runCalls_largePages_clear {s : NxState}
    (hs : ∀ e, (s.table e).present = true ∧ (s.table e).largePage = (e.level == 1))
    (hx : ∀ e, (s.table e).executeDisable = false) :
    ∀ calls : List NxCall, (∀ c ∈ calls, c.xd = false ∧ 0 < c.n.toInt ∧
      ¬ 0 < (c.n - BitVec.ofNat 32 (pageSize 1)).toInt) → runCalls calls s = Part.some s
  | [], _ => rfl
  | c :: cs, hc => by
    obtain ⟨hxd, h₀, h₁⟩ := hc c (List.mem_cons_self _ _)
    rw [runCalls, hxd, setNx_largePages_clear hs hx h₀ h₁, Part.bind_some]
    exact runCalls_largePages_clear hs hx cs fun c' h => hc c' (List.mem_cons_of_mem _ h)

/-- The test page at `0x1000` and the IDT at `0x2000` share one 2 MiB PDE with XD clear: the
    first call sets its XD bit and logs `{pde, 1}`, the IDT's clears it and logs `{pde, 0}`,
    and the FIFO replay resets then sets it, so `test_nx` leaves it set. -/
theorem testNx_large_page_flips :
    ∃ s ∈ testNx (nxCalls 0x1000 0x2000 (fun _ => 0x3000) 0x4000 0x7F 0x5000 0x67 0x6000 0x8500)
        largePageTable,
      (largePageTable (getPte 0x1000 1)).executeDisable = false ∧
      (s.table (getPte 0x1000 1)).executeDisable = true := by
  have hs₀ : ∀ e, ((⟨largePageTable, []⟩ : NxState).table e).present = true ∧
      ((⟨largePageTable, []⟩ : NxState).table e).largePage = (e.level == 1) := fun _ => ⟨rfl, rfl⟩
  have h₁ : setNx 0x1000 0x1000 true false ⟨largePageTable, []⟩ =
      Part.some (add true (getPte 0x1000 1) ⟨largePageTable, []⟩) := by
    rw [setNx_one_turn (by decide) (by rw [walk_largePages hs₀]; decide), walk_largePages hs₀]
    rfl
  have hs₁ := add_largePages hs₀ true (getPte 0x1000 1)
  have h₂ : setNx 0x2000 0x1000 false true (add true (getPte 0x1000 1) ⟨largePageTable, []⟩) =
      Part.some (add false (getPte 0x2000 1) (add true (getPte 0x1000 1) ⟨largePageTable, []⟩)) := by
    rw [setNx_one_turn (by decide) (by rw [walk_largePages hs₁]; decide), walk_largePages hs₁,
      if_pos rfl, add_of_executeDisable (show ((add true (getPte 0x1000 1)
        ⟨largePageTable, []⟩).table (getPte 0x2000 3)).executeDisable = false by decide),
      add_of_executeDisable (show ((add true (getPte 0x1000 1)
        ⟨largePageTable, []⟩).table (getPte 0x2000 2)).executeDisable = false by decide)]
  have hrun : runCalls (nxCalls 0x1000 0x2000 (fun _ => 0x3000) 0x4000 0x7F 0x5000 0x67 0x6000 0x8500)
      ⟨largePageTable, []⟩ =
        Part.some (add false (getPte 0x2000 1) (add true (getPte 0x1000 1) ⟨largePageTable, []⟩)) := by
    rw [nxCalls, runCalls, h₁, Part.bind_some, runCalls, h₂, Part.bind_some,
      runCalls_largePages_clear (add_largePages hs₁ _ _) (fun e => ?_) _ fun c hc => ?_]
    · simp only [add_executeDisable, show getPte 0x2000 1 = getPte 0x1000 1 by decide]
      split_ifs <;> rfl
    · simp only [List.mem_append, List.mem_ofFn, Set.mem_range, List.mem_cons, List.mem_singleton,
        List.not_mem_nil, or_false] at hc
      rcases hc with ⟨i, rfl⟩ | rfl | rfl | rfl | rfl <;> decide
  refine ⟨_, by rw [testNx, hrun, Part.map_some]; exact Part.mem_some _, rfl, ?_⟩
  rw [testNx_xd (hrun ▸ Part.mem_some _) (getPte 0x1000 1)]
  decide

end HvDetect
