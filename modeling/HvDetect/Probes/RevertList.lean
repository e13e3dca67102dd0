/-
  The capacity of `revert_list` in `processor::test_nx`: the calls of
  `set_nx` as one run of turns, and the 4096 records it can hold.

  * `NxRun` is a point of a run: the call in progress, its loop state, and the
    calls still to make; `NxRun.Step` is one turn of `while (n > 0)` or the
    start of the next call, and `runCalls_reach` places every result of
    `runCalls` at the end of such a run;
  * `walk_log`: a turn logs at most 4 records, each of an entry on the path of
    `p`; one that breaks at `pxe_level` logs at most a PML4E and leaves `n` as
    it was (`2^39` truncates to `0` in the `int`), and any other lowers `n` by
    at least a page, so by one unit of `budget`;
  * `RunInv`: no record is logged twice and the set records come before the
    cleared ones, so the PML4E records number at most `2 * 512`
    (`countP_pml4_le`); and the log stays within 4 records per unit of budget
    spent plus the PML4E records;
  * `setNx_dom`, `runCalls_dom`: on tables whose PML4Es are all present and
    none large, every call returns, each turn spending a unit of budget;
  * `revert_list_fits`: at every point of a run of `test_nx`'s calls with a GDT
    limit below `2^16` and a TSS limit below `2^20`, `revert_list` holds at
    most 4096 records.
-/
import HvDetect.Probes.Nx
import Mathlib.Logic.Relation
import Mathlib.Data.List.ProdSigma

namespace HvDetect

/-! ## Runs of `set_nx` calls -/

/-- A point of a run of `set_nx` calls: the call in progress, its loop state, and the calls
    still to make. -/
structure NxRun where
  call : NxCall
  loop : NxLoop
  pending : List NxCall

/-- The run of `calls` from the tables `t` and an empty `revert_list`, about to make its
    first call. -/
def NxRun.init (t : EntryRef → PtEntry) : List NxCall → NxRun
  | [] => ⟨⟨0, 0, false, false⟩, ⟨0, 0, ⟨t, []⟩⟩, []⟩
  | c :: cs => ⟨c, ⟨c.p, c.n, ⟨t, []⟩⟩, cs⟩

/-- One step of a run: a turn of `while (n > 0)`, or, once `n ≤ 0`, the next call. -/
inductive NxRun.Step : NxRun → NxRun → Prop
  | turn (r : NxRun) : 0 < r.loop.n.toInt →
      NxRun.Step r ⟨r.call, setNxStep r.call.xd r.call.recursive r.loop, r.pending⟩
  | next (r : NxRun) (c : NxCall) (cs : List NxCall) : ¬ 0 < r.loop.n.toInt → r.pending = c :: cs →
      NxRun.Step r ⟨c, ⟨c.p, c.n, r.loop.s⟩, cs⟩

/-- The loop of a call is a run of turns. -/
theorem loop_reach {c : NxCall} {cs : List NxCall} {l l' : NxLoop}
    (h : l' ∈ whileLoop (fun l => decide (0 < l.n.toInt)) (setNxStep c.xd c.recursive) l) :
    Relation.ReflTransGen NxRun.Step ⟨c, l, cs⟩ ⟨c, l', cs⟩ ∧ ¬ 0 < l'.n.toInt := by
  obtain ⟨k, rfl, hk, hmin⟩ := mem_whileLoop_iff.1 h
  refine ⟨?_, by simpa using hk⟩
  clear h hk
  induction k generalizing l with
  | zero => exact .refl
  | succ k ih =>
    have h₀ : 0 < l.n.toInt := by simpa using hmin 0 (Nat.succ_pos k)
    rw [Function.iterate_succ_apply]
    exact .head (.turn ⟨c, l, cs⟩ h₀) (ih fun j hj => by
      rw [← Function.iterate_succ_apply]; exact hmin (j + 1) (by omega))

/-- After a finished loop, the rest of the calls is a run to their result. -/
theorem runCalls_reach_of_done {s : NxState} :
    ∀ (cs : List NxCall) (c : NxCall) (l : NxLoop), ¬ 0 < l.n.toInt → s ∈ runCalls cs l.s →
      ∃ r, Relation.ReflTransGen NxRun.Step ⟨c, l, cs⟩ r ∧ r.loop.s = s ∧ r.pending = [] ∧
        ¬ 0 < r.loop.n.toInt
  | [], c, l, hl, hs => ⟨⟨c, l, []⟩, .refl, (Part.mem_some_iff.1 hs).symm, rfl, hl⟩
  | c' :: cs, c, l, hl, hs => by
    obtain ⟨s₁, h₁, h₂⟩ := Part.mem_bind_iff.1 hs
    obtain ⟨l₁, hl₁, rfl⟩ := (Part.mem_map_iff _).1 h₁
    obtain ⟨hrun, hdone⟩ := @loop_reach _ cs _ _ hl₁
    obtain ⟨r, hr, hrs, hrp, hrn⟩ := runCalls_reach_of_done cs c' l₁ hdone h₂
    exact ⟨r, .head (.next ⟨c, l, c' :: cs⟩ c' cs hl rfl) (hrun.trans hr), hrs, hrp, hrn⟩

/-- Every result of `runCalls` ends a run from `NxRun.init` that has made every call. -/
theorem runCalls_reach {t : EntryRef → PtEntry} {s : NxState} :
    ∀ {calls : List NxCall}, s ∈ runCalls calls ⟨t, []⟩ →
      ∃ r, Relation.ReflTransGen NxRun.Step (NxRun.init t calls) r ∧ r.loop.s = s ∧
        r.pending = [] ∧ ¬ 0 < r.loop.n.toInt
  | [], hs => ⟨_, .refl, (Part.mem_some_iff.1 hs).symm, rfl, by simp [NxRun.init]⟩
  | c :: cs, hs => by
    obtain ⟨s₁, h₁, h₂⟩ := Part.mem_bind_iff.1 hs
    obtain ⟨l₁, hl₁, rfl⟩ := (Part.mem_map_iff _).1 h₁
    obtain ⟨hrun, hdone⟩ := @loop_reach _ cs _ _ hl₁
    obtain ⟨r, hr, hrs, hrp, hrn⟩ := runCalls_reach_of_done cs c l₁ hdone h₂
    exact ⟨r, hrun.trans hr, hrs, hrp, hrn⟩

/-! ## What one turn logs -/

theorem add_log (xd : Bool) (e : EntryRef) (s : NxState) :
    (add xd e s).log = s.log ++ if (s.table e).executeDisable = xd then [] else [(e, xd)] := by
  unfold add; split <;> simp_all

/-- An `add` of `e`, or none, logs at most one record, of `e`. -/
theorem ite_add_log (c : Prop) [Decidable c] (xd : Bool) (e : EntryRef) (s : NxState) :
    ∃ x, (if c then add xd e s else s).log = s.log ++ x ∧ x.length ≤ 1 ∧ ∀ y ∈ x, y.1 = e := by
  split
  · rw [add_log]
    split <;> exact ⟨_, rfl, by simp, by simp⟩
  · exact ⟨[], by simp, by simp, by simp⟩

section
variable {p : Nat} {xd rec : Bool} {d : Nat} {s : NxState}

theorem walk_succ_descend
    (h : (s.table (getPte p (d + 1))).present = true ∧ (s.table (getPte p (d + 1))).largePage = false) :
    walk p xd rec (d + 1) s = walk p xd rec d (if rec then add xd (getPte p (d + 1)) s else s) := by
  rw [walk]; exact if_pos (by simpa using h)

theorem walk_succ_stop
    (h : ¬ ((s.table (getPte p (d + 1))).present = true ∧ (s.table (getPte p (d + 1))).largePage = false)) :
    walk p xd rec (d + 1) s =
      (d + 1, if (s.table (getPte p (d + 1))).present then add xd (getPte p (d + 1)) s else s) := by
  rw [walk]; exact if_neg (by simpa using h)

end

theorem walk_level_le (p : Nat) (xd rec : Bool) : ∀ d s, (walk p xd rec d s).1 ≤ d
  | 0, _ => le_refl 0
  | d + 1, s => by
    by_cases h : (s.table (getPte p (d + 1))).present = true ∧ (s.table (getPte p (d + 1))).largePage = false
    · rw [walk_succ_descend h]; exact (walk_level_le p xd rec d _).trans (Nat.le_succ d)
    · rw [walk_succ_stop h]

/-- The records a walk from level `d` logs: at most `d + 1`, each of an entry on the path
    of `p`; and at most one, of the entry of level `d`, if it breaks at `d` itself. -/
theorem walk_log (p : Nat) (xd rec : Bool) : ∀ d s, ∃ added,
    (walk p xd rec d s).2.log = s.log ++ added ∧ added.length ≤ d + 1 ∧
      (∀ x ∈ added, ∃ k ≤ d, x.1 = getPte p k) ∧
      ((walk p xd rec d s).1 = d → added.length ≤ 1 ∧ ∀ x ∈ added, x.1 = getPte p d)
  | 0, s => by
    obtain ⟨x, hx, hl, he⟩ := ite_add_log ((s.table (getPte p 0)).present = true) xd (getPte p 0) s
    exact ⟨x, hx, hl, fun y hy => ⟨0, le_refl 0, he y hy⟩, fun _ => ⟨hl, he⟩⟩
  | d + 1, s => by
    by_cases h : (s.table (getPte p (d + 1))).present = true ∧ (s.table (getPte p (d + 1))).largePage = false
    · rw [walk_succ_descend h]
      obtain ⟨x, hx, hl, he⟩ := ite_add_log (rec = true) xd (getPte p (d + 1)) s
      obtain ⟨y, hy, hyl, hye, -⟩ := walk_log p xd rec d (if rec = true then add xd (getPte p (d + 1)) s else s)
      refine ⟨x ++ y, by rw [hy, hx, List.append_assoc], by simp; omega, fun z hz => ?_, fun h' => ?_⟩
      · rcases List.mem_append.1 hz with hz | hz
        · exact ⟨d + 1, le_refl _, he z hz⟩
        · obtain ⟨k, hk, hz⟩ := hye z hz
          exact ⟨k, by omega, hz⟩
      · have := walk_level_le p xd rec d (if rec = true then add xd (getPte p (d + 1)) s else s)
        omega
    · rw [walk_succ_stop h]
      obtain ⟨x, hx, hl, he⟩ := ite_add_log ((s.table (getPte p (d + 1))).present = true) xd
        (getPte p (d + 1)) s
      exact ⟨x, hx, by omega, fun y hy => ⟨d + 1, le_refl _, he y hy⟩, fun _ => ⟨hl, he⟩⟩

/-! ## What one turn spends -/

/-- The turns of at least a page that `n` can still pay for: `⌈n / 4096⌉` for `n > 0`. -/
def budget (n : BitVec 32) : Nat := ((n.toInt + 4095) / 4096).toNat

/-- The budgets of `calls`, summed. -/
def budgetSum : List NxCall → Nat
  | [] => 0
  | c :: cs => budget c.n + budgetSum cs

theorem budgetSum_append (a b : List NxCall) : budgetSum (a ++ b) = budgetSum a + budgetSum b := by
  induction a with
  | nil => simp [budgetSum]
  | cons c a ih =>
    show budget c.n + budgetSum (a ++ b) = budget c.n + budgetSum a + budgetSum b
    rw [ih, Nat.add_assoc]

theorem budgetSum_const {l : List NxCall} {k : Nat} (h : ∀ c ∈ l, budget c.n = k) :
    budgetSum l = k * l.length := by
  induction l with
  | nil => rfl
  | cons c l ih =>
    rw [budgetSum, h c (List.mem_cons_self c l), ih fun c' hc' => h c' (List.mem_cons_of_mem c hc'),
      List.length_cons, Nat.mul_succ, Nat.add_comm]

theorem budget_of_not_pos {n : BitVec 32} (h : ¬ 0 < n.toInt) : budget n = 0 := by
  unfold budget; omega

theorem budget_ofNat {k : Nat} (hk : k < 2 ^ 31) : budget (BitVec.ofNat 32 k) = (k + 4095) / 4096 := by
  unfold budget
  rw [BitVec.toInt_eq_toNat_cond, BitVec.toNat_ofNat, Nat.mod_eq_of_lt (by omega), if_pos (by omega)]
  omega

/-- A turn that breaks below `pxe_level` takes a page or more off a positive `n`, without
    wrapping, so it spends at least one unit of budget. -/
theorem budget_sub_pageSize {n : BitVec 32} {d : Nat} (hd : d ≤ 2) (hn : 0 < n.toInt) :
    budget (n - BitVec.ofNat 32 (pageSize d)) + 1 ≤ budget n := by
  have hm : 4096 ≤ pageSize d ∧ pageSize d ≤ 2 ^ 30 := by
    rcases (show d = 0 ∨ d = 1 ∨ d = 2 by omega) with rfl | rfl | rfl <;> decide
  have hsub : (n - BitVec.ofNat 32 (pageSize d)).toInt = n.toInt - pageSize d := by
    rw [BitVec.toInt_eq_toNat_cond, BitVec.toInt_eq_toNat_cond] at *
    rw [BitVec.toNat_sub, BitVec.toNat_ofNat]
    have := n.isLt
    split_ifs at * <;> omega
  unfold budget
  omega

/-- One turn: its records are those of entries on the path of `p`, so its PML4E records are
    of the 512 PML4Es; and it logs at most 4 records per unit of budget it spends, plus
    its PML4E records. -/
theorem setNxStep_log (xd rec : Bool) (l : NxLoop) (hn : 0 < l.n.toInt) :
    ∃ added, (setNxStep xd rec l).s.log = l.s.log ++ added ∧
      (∀ x ∈ added, x.1.level = 3 → x.1.index < 512) ∧
      added.length + 4 * budget (setNxStep xd rec l).n ≤
        4 * budget l.n + added.countP fun x => x.1.level == 3 := by
  obtain ⟨added, hlog, hlen, hpath, hstop⟩ := walk_log l.p xd rec 3 l.s
  refine ⟨added, hlog, fun x hx h3 => ?_, ?_⟩
  · obtain ⟨k, -, hk⟩ := hpath x hx
    rw [hk] at h3 ⊢
    simp only [getPte] at h3 ⊢
    subst h3
    exact Nat.mod_lt _ (by decide)
  · have hle := walk_level_le l.p xd rec 3 l.s
    show added.length + 4 * budget (l.n - BitVec.ofNat 32 (pageSize (walk l.p xd rec 3 l.s).1)) ≤ _
    rcases (show (walk l.p xd rec 3 l.s).1 = 3 ∨ (walk l.p xd rec 3 l.s).1 ≤ 2 by omega) with h3 | h2
    · obtain ⟨h1, hall⟩ := hstop h3
      have hc : added.countP (fun x => x.1.level == 3) = added.length :=
        List.countP_eq_length.2 fun x hx => by simp [hall x hx, getPte]
      rw [h3, show BitVec.ofNat 32 (pageSize 3) = 0#32 by decide, BitVec.sub_zero, hc]
      omega
    · have := budget_sub_pageSize h2 hn
      omega

/-! ## The shape of the log -/

theorem recordsOf_append (e : EntryRef) (a b : List (EntryRef × Bool)) :
    recordsOf e (a ++ b) = recordsOf e a ++ recordsOf e b := by
  simp [recordsOf]

theorem mem_recordsOf {e : EntryRef} {v : Bool} {log : List (EntryRef × Bool)} (h : (e, v) ∈ log) :
    v ∈ recordsOf e log :=
  List.mem_map.2 ⟨(e, v), List.mem_filter.2 ⟨h, by simp⟩, rfl⟩

/-- A list of records whose values are all `v` ends with `v`. -/
theorem getLast?_recordsOf {e : EntryRef} {v w : Bool} {log : List (EntryRef × Bool)}
    (hm : (e, w) ∈ log) (h : ∀ x ∈ log, x.2 = v) : (recordsOf e log).getLast? = some v := by
  have hne : recordsOf e log ≠ [] := List.ne_nil_of_mem (mem_recordsOf hm)
  rw [List.getLast?_eq_getLast _ hne]
  obtain ⟨x, hx, hxv⟩ := List.mem_map.1 (List.getLast_mem hne)
  rw [← hxv, h x (List.mem_filter.1 hx).1]

/-- The shape of the log at every point of a run: `LogInv`, no record twice, and the set
    records before the cleared ones, of which there is none yet while the call sets. -/
structure LogShape (t₀ : EntryRef → PtEntry) (xd : Bool) (s : NxState) : Prop where
  inv : LogInv t₀ s
  nodup : s.log.Nodup
  order : ∃ a b, s.log = a ++ b ∧ (∀ x ∈ a, x.2 = true) ∧ (∀ x ∈ b, x.2 = false) ∧
    (xd = true → b = [])

/-- A record `add` is about to log is new: its entry's bit is not `xd`, so `xd` is not the
    value of the entry's last record, which a record `(e, xd)` already logged would be. -/
theorem LogShape.not_mem {t₀ : EntryRef → PtEntry} {xd : Bool} {s : NxState} (h : LogShape t₀ xd s)
    {e : EntryRef} (hx : (s.table e).executeDisable ≠ xd) : (e, xd) ∉ s.log := by
  intro hm
  obtain ⟨a, b, hab, ha, hb, hxd⟩ := h.order
  apply hx
  cases xd with
  | true =>
    rw [hxd rfl, List.append_nil] at hab
    exact h.inv.last e true (getLast?_recordsOf hm (hab ▸ ha))
  | false =>
    have hmb : (e, false) ∈ b := by
      rw [hab] at hm
      exact (List.mem_append.1 hm).resolve_left fun hma => by simpa using ha _ hma
    refine h.inv.last e false ?_
    rw [hab, recordsOf_append, List.getLast?_append, getLast?_recordsOf hmb hb]
    rfl

theorem add_logShape {t₀ : EntryRef → PtEntry} {xd : Bool} {s : NxState} (h : LogShape t₀ xd s)
    (e : EntryRef) : LogShape t₀ xd (add xd e s) := by
  by_cases hx : (s.table e).executeDisable = xd
  · rwa [add_of_executeDisable hx]
  have hlog : (add xd e s).log = s.log ++ [(e, xd)] := by rw [add_log, if_neg hx]
  obtain ⟨a, b, hab, ha, hb, hxd⟩ := h.order
  refine ⟨add_logInv h.inv xd e, ?_, ?_⟩
  · rw [hlog, ← List.concat_eq_append]
    exact h.nodup.concat (h.not_mem hx)
  · rw [hlog, hab]
    cases xd with
    | true =>
      rw [hxd rfl]
      exact ⟨a ++ [(e, true)], [], by simp, List.forall_mem_append.2 ⟨ha, by simp⟩, by simp, fun _ => rfl⟩
    | false =>
      exact ⟨a, b ++ [(e, false)], by simp, ha, List.forall_mem_append.2 ⟨hb, by simp⟩, by simp⟩

/-- With no record twice, the records of the 512 PML4Es, each with `xd` set or clear, are at
    most 1024. -/
theorem countP_pml4_le {log : List (EntryRef × Bool)} (hnd : log.Nodup)
    (hidx : ∀ x ∈ log, x.1.level = 3 → x.1.index < 512) :
    log.countP (fun x => x.1.level == 3) ≤ 1024 := by
  rw [List.countP_eq_length_filter, ← List.length_map _ fun x => (x.1.index, x.2)]
  have hnd' : ((log.filter fun x => x.1.level == 3).map fun x => (x.1.index, x.2)).Nodup := by
    refine List.Nodup.map_on ?_ (hnd.filter _)
    rintro ⟨⟨lx, ix⟩, bx⟩ hx ⟨⟨ly, iy⟩, c⟩ hy hxy
    simp only [List.mem_filter, beq_iff_eq] at hx hy
    simp only [Prod.mk.injEq] at hxy
    rw [hx.2, hy.2, hxy.1, hxy.2]
  have hsub : ((log.filter fun x => x.1.level == 3).map fun x => (x.1.index, x.2)) ⊆
      List.range 512 ×ˢ [false, true] := by
    intro z hz
    obtain ⟨x, hx, rfl⟩ := List.mem_map.1 hz
    obtain ⟨hxl, hx3⟩ := List.mem_filter.1 hx
    exact List.mem_product.2 ⟨List.mem_range.2 (hidx x hxl (by simpa using hx3)), by cases x.2 <;> simp⟩
  calc _ ≤ (List.range 512 ×ˢ [false, true]).length := (hnd'.subperm hsub).length_le
    _ = 1024 := by rw [List.length_product, List.length_range]; rfl

/-! ## The run invariant -/

/-- What holds at every point of a run whose calls after the first all clear XD, within a
    budget `B`: the shape of the log, PML4E records only of the 512 PML4Es, and the log
    within 4 records per unit of budget spent, plus its PML4E records. -/
structure RunInv (t₀ : EntryRef → PtEntry) (B : Nat) (r : NxRun) : Prop where
  shape : LogShape t₀ r.call.xd r.loop.s
  clearing : ∀ c ∈ r.pending, c.xd = false
  pml4 : ∀ x ∈ r.loop.s.log, x.1.level = 3 → x.1.index < 512
  count : r.loop.s.log.length + 4 * (budget r.loop.n + budgetSum r.pending) ≤
    4 * B + r.loop.s.log.countP fun x => x.1.level == 3

section
variable {t₀ : EntryRef → PtEntry} {B : Nat} {r r' : NxRun}

theorem RunInv.step (h : RunInv t₀ B r) (hs : NxRun.Step r r') : RunInv t₀ B r' := by
  cases hs with
  | turn hn =>
    obtain ⟨added, hlog, hidx, hlen⟩ := setNxStep_log r.call.xd r.call.recursive r.loop hn
    refine ⟨walk_preserves (LogShape t₀ r.call.xd) (fun e _ h => add_logShape h e) r.loop.p
      r.call.recursive 3 r.loop.s h.shape, h.clearing,
      by dsimp only; rw [hlog]; exact List.forall_mem_append.2 ⟨h.pml4, hidx⟩, ?_⟩
    have := h.count
    dsimp only
    rw [hlog, List.length_append, List.countP_append]
    omega
  | next c cs hn hp =>
    have hc : c.xd = false := h.clearing c (hp ▸ List.mem_cons_self c cs)
    obtain ⟨a, b, hab, ha, hb, -⟩ := h.shape.order
    refine ⟨⟨h.shape.inv, h.shape.nodup, a, b, hab, ha, hb, by simp [hc]⟩,
      fun c' hc' => h.clearing c' (hp ▸ List.mem_cons_of_mem c hc'), h.pml4, ?_⟩
    have := h.count
    rw [hp, budget_of_not_pos hn, budgetSum] at this
    dsimp only
    omega

theorem RunInv.reach (h : RunInv t₀ B r) (hr : Relation.ReflTransGen NxRun.Step r r') :
    RunInv t₀ B r' := by
  induction hr with
  | refl => exact h
  | tail _ hs ih => exact ih.step hs

/-- The log within a budget `B` holds at most `4 B + 1024` records. -/
theorem RunInv.length_le (h : RunInv t₀ B r) : r.loop.s.log.length ≤ 4 * B + 1024 := by
  have := h.count
  have := countP_pml4_le h.shape.nodup h.pml4
  omega

end

/-- A run starts within the budgets of all its calls. -/
theorem runInv_init (t₀ : EntryRef → PtEntry) (calls : List NxCall)
    (hcs : ∀ c ∈ calls.tail, c.xd = false) :
    RunInv t₀ (budgetSum calls) (NxRun.init t₀ calls) := by
  have hshape : ∀ xd, LogShape t₀ xd ⟨t₀, []⟩ := fun _ =>
    ⟨logInv_start t₀, List.nodup_nil, [], [], rfl, by simp, by simp, fun _ => rfl⟩
  cases calls with
  | nil => exact ⟨hshape _, by simp [NxRun.init], by simp [NxRun.init], by simp [NxRun.init, budgetSum]; rfl⟩
  | cons c cs => exact ⟨hshape _, hcs, by simp [NxRun.init], by simp [NxRun.init, budgetSum]⟩

/-! ## Calls that return -/

/-- Tables whose every PML4E is present and maps no large page, so that every walk breaks
    below `pxe_level`. -/
def Pml4eFull (s : NxState) : Prop :=
  ∀ i, (s.table ⟨3, i⟩).present = true ∧ (s.table ⟨3, i⟩).largePage = false

theorem pml4eFull_of_frame {s s' : NxState} (xd : Bool) (h : Pml4eFull s)
    (hf : ∀ e, s'.table e = s.table e ∨ s'.table e = { s.table e with executeDisable := xd }) :
    Pml4eFull s' :=
  fun i => by rcases hf ⟨3, i⟩ with he | he <;> rw [he] <;> exact h i

theorem add_pml4eFull {s : NxState} (h : Pml4eFull s) (xd : Bool) (e : EntryRef) :
    Pml4eFull (add xd e s) :=
  pml4eFull_of_frame xd h fun e' => by
    by_cases he : e' = e
    · subst he; simp [add_table]
    · simp [add_table, he]

/-- **`set_nx` returns** on such tables: each turn breaks below `pxe_level` and takes a page
    or more off `n`, one unit of `budget`. -/
theorem setNx_dom {s : NxState} (h : Pml4eFull s) (p : Nat) (n : BitVec 32) (xd rec : Bool) :
    (setNx p n xd rec s).Dom := by
  show (whileLoop (fun l => decide (0 < l.n.toInt)) (setNxStep xd rec) ⟨p, n, s⟩).Dom
  refine whileLoop_dom_of_measure (fun l : NxLoop => Pml4eFull l.s) (fun l => budget l.n)
    (fun l hl hc => ⟨?_, ?_⟩) ⟨p, n, s⟩ h
  · exact walk_preserves Pml4eFull (fun e _ h => add_pml4eFull h xd e) l.p rec 3 l.s hl
  · have hd : (walk l.p xd rec 3 l.s).1 ≤ 2 := by
      rw [walk_succ_descend (hl _)]
      exact walk_level_le l.p xd rec 2 _
    exact budget_sub_pageSize hd (by simpa using hc)

/-- A run of calls returns on such tables, which every call keeps (`setNx_frame`). -/
theorem runCalls_dom : ∀ (calls : List NxCall) {s : NxState}, Pml4eFull s → (runCalls calls s).Dom
  | [], _, _ => trivial
  | _ :: cs, _, h => ⟨setNx_dom h _ _ _ _,
    runCalls_dom cs (pml4eFull_of_frame _ h (setNx_frame (Part.get_mem (setNx_dom h _ _ _ _))))⟩

/-! ## The calls of `test_nx` -/

/-- The budgets of `test_nx`'s calls: a page each for the test page, the IDT and the 256
    handlers, two for the code and two for the stack, and at most 128 and 256 for the GDT and
    the TSS. -/
theorem nxCalls_budget (page idt : Nat) (handlers : Fin 256 → Nat) (gdt lim tss tssLimit ip sp : Nat)
    (hlim : lim < 2 ^ 16) (htss : tssLimit < 2 ^ 20) :
    budgetSum (nxCalls page idt handlers gdt lim tss tssLimit ip sp) ≤ 646 := by
  have hg := @budget_ofNat ((lim + 1) * 8) (by omega)
  have ht := @budget_ofNat (tssLimit + 1) (by omega)
  have h1 : budget 0x1000 = 1 := by decide
  have h2 : budget 0x2000 = 2 := by decide
  have hh : budgetSum (List.ofFn fun i => (⟨handlers i, 0x1000, false, true⟩ : NxCall)) = 1 * 256 := by
    rw [@budgetSum_const _ 1 fun c hc => ?_, List.length_ofFn]
    obtain ⟨i, rfl⟩ := (List.mem_ofFn _ _).1 hc
    exact h1
  rw [nxCalls, budgetSum, budgetSum, budgetSum_append, hh]
  simp only [budgetSum, hg, ht, h1, h2]
  omega

theorem nxCalls_clearing (page idt : Nat) (handlers : Fin 256 → Nat) (gdt lim tss tssLimit ip sp : Nat) :
    ∀ c ∈ (nxCalls page idt handlers gdt lim tss tssLimit ip sp).tail, c.xd = false := by
  intro c hc
  simp only [nxCalls, List.tail_cons, List.mem_cons, List.mem_append, List.mem_ofFn,
    Set.mem_range, List.not_mem_nil, or_false] at hc
  rcases hc with rfl | ⟨i, rfl⟩ | rfl | rfl | rfl | rfl <;> rfl

/-- A run of `test_nx`'s calls keeps `RunInv` within their budgets. -/
theorem RunInv.of_nxCalls {t : EntryRef → PtEntry} {page idt : Nat} {handlers : Fin 256 → Nat}
    {gdt lim tss tssLimit ip sp : Nat} {r : NxRun}
    (hr : Relation.ReflTransGen NxRun.Step
      (NxRun.init t (nxCalls page idt handlers gdt lim tss tssLimit ip sp)) r) :
    RunInv t (budgetSum (nxCalls page idt handlers gdt lim tss tssLimit ip sp)) r :=
  (runInv_init t _ (nxCalls_clearing page idt handlers gdt lim tss tssLimit ip sp)).reach hr

/-- At every point of a run of `test_nx`'s calls, from any page tables, with a GDT limit below
    `2^16` and a TSS limit below `2^20`, `revert_list` holds at most 4096 records. -/
theorem revert_list_fits (t : EntryRef → PtEntry) (page idt : Nat) (handlers : Fin 256 → Nat)
    (gdt lim tss tssLimit ip sp : Nat) (hlim : lim < 2 ^ 16) (htss : tssLimit < 2 ^ 20) {r : NxRun}
    (hr : Relation.ReflTransGen NxRun.Step
      (NxRun.init t (nxCalls page idt handlers gdt lim tss tssLimit ip sp)) r) :
    r.loop.s.log.length ≤ 4096 := by
  have := (RunInv.of_nxCalls hr).length_le
  have := nxCalls_budget page idt handlers gdt lim tss tssLimit ip sp hlim htss
  omega

/-- The whole of `test_nx`'s calls on tables of present 4 KiB pages: the run makes every call
    to its end, and the log fits. -/
theorem revert_list_fits_whole_run :
    ((0 : Nat) < 2 ^ 16 ∧ (0 : Nat) < 2 ^ 20) ∧
      ∃ r, Relation.ReflTransGen NxRun.Step
          (NxRun.init smallPageTable (nxCalls 0 0 (fun _ => 0) 0 0 0 0 0 0)) r ∧
        r.pending = [] ∧ ¬ 0 < r.loop.n.toInt ∧ r.loop.s.log.length ≤ 4096 := by
  have hdom := runCalls_dom (nxCalls 0 0 (fun _ => 0) 0 0 0 0 0 0) (s := ⟨smallPageTable, []⟩)
    fun _ => ⟨rfl, rfl⟩
  obtain ⟨r, hr, -, hp, hn⟩ := runCalls_reach (Part.get_mem hdom)
  exact ⟨⟨by decide, by decide⟩, r, hr, hp, hn,
    revert_list_fits smallPageTable 0 0 (fun _ => 0) 0 0 0 0 0 0 (by decide) (by decide) hr⟩

end HvDetect
