/-
  `ia32::mem::map_physical_memory_range` and `unmap_physical_memory_range`
  (`os.cpp`): physical memory seen through the 2 MiB PDEs of reserved system VA.

  * the page tables hold a `PtEntry64`, the fields of `ia32::pt_entry_64` the
    two functions write, for every `EntryRef` of `getPte`; the memory manager
    behind `reserve_system_va` is a `MemoryManager` (`mi::obtain_system_va`,
    `mi::make_zeroed_page_tables`), and what the mapping relies on of one
    reservation is `Reservation`;
  * `writePdes` is the loop the two functions share, `*get_pte(va + it,
    pde_level)` written for every `it < length` in steps of 2 MiB;
    `writePdes_apply` and `writePdes_other` say what it leaves in every entry;
  * `translate` is what the processor reaches through a 2 MiB page, stated
    apart from the code;
  * `mapPhysicalMemoryRange_translate`: every byte of the requested range is
    reached at the returned pointer plus its offset, through a writable,
    executable, global supervisor PDE with PAT entry 0 when `cached` and 3
    otherwise; `mapPhysicalMemoryRange_changes`: the only PDEs the call
    changes are those of the range it then flushes;
  * `unmap_map`: unmapping what was mapped restores the page tables the
    reservation left and gives back exactly the range it obtained, with no
    TLB flush after the PDEs are cleared.
-/
import HvDetect.Probes.Nx

namespace HvDetect

namespace MemoryMap

/-- `page_size(pde_level)`: 2 MiB. -/
def pdeSize : Nat := pageSize 1

theorem pdeSize_eq : pdeSize = 2 ^ 21 := rfl

/-- The fields of `ia32::pt_entry_64` that `map_physical_memory_range` writes. -/
structure PtEntry64 where
  present : Bool
  write : Bool
  user : Bool
  pageLevelWriteThrough : Bool
  pageLevelCacheDisable : Bool
  accessed : Bool
  dirty : Bool
  largePage : Bool
  global : Bool
  pageFrameNumber : Nat
  protectionKey : Nat
  executeDisable : Bool
deriving DecidableEq, Repr

/-- `{ .flags = 0 }`. -/
def PtEntry64.zero : PtEntry64 :=
  ⟨false, false, false, false, false, false, false, false, false, 0, 0, false⟩

/-- The entry the mapping loop writes for the 2 MiB page at physical address `phys`: the
    page frame number `phys >> 12` is kept to the field's 36 bits, which also hides the
    wrap of `address + it` at 2^64. -/
def largePde (phys : Nat) (cached : Bool) : PtEntry64 :=
  { PtEntry64.zero with
    present := true, write := true, user := false,
    pageLevelWriteThrough := !cached, pageLevelCacheDisable := !cached,
    accessed := false, dirty := false, largePage := true, global := true,
    pageFrameNumber := phys / 2 ^ 12 % 2 ^ 36, protectionKey := 0, executeDisable := false }

/-- One turn of the loop of both functions, at `it = j * page_size(pde_level)`:
    `*get_pte(va + it, pde_level) = entry(it)`. -/
def writePde (va : Nat) (entry : Nat → PtEntry64) (t : EntryRef → PtEntry64) (j : Nat) :
    EntryRef → PtEntry64 :=
  Function.update t (getPte (va + j * pdeSize) 1) (entry (j * pdeSize))

/-- `for (it = 0; it < length; it += page_size(pde_level))` over `writePde`; `get_pte` keeps
    bits 12 to 47 of its address, so the wrap of `va + it` at 2^64 is not seen. -/
def writePdes (va length : Nat) (entry : Nat → PtEntry64) (t : EntryRef → PtEntry64) :
    EntryRef → PtEntry64 :=
  (List.range ((length + pdeSize - 1) / pdeSize)).foldl (writePde va entry) t

/-- The memory manager's routines that `reserve_system_va` calls, for `system_ptes`. -/
structure MemoryManager where
  /-- `mi::obtain_system_va(lpage_count, type)`: the base of `lpage_count` large pages of free
      system VA, or `0`. -/
  obtainSystemVa : Nat → Nat
  /-- `mi::make_zeroed_page_tables(first, last, flags, type)`: the page tables once the tables
      for the PTEs `first .. last` are made. -/
  makeZeroedPageTables : EntryRef → EntryRef → Nat → (EntryRef → PtEntry64) → EntryRef → PtEntry64

/-- The calls of the two functions that leave the page tables alone. -/
inductive MmEvent
  /-- `ipi_flush_tlb(ptr, length)`: `invlpg` over the range on every processor. -/
  | flushTlb (ptr length : Nat)
  /-- `mi::return_system_va(start, end, type, nullptr)`. -/
  | returnSystemVa (start finish : Nat)
deriving DecidableEq, Repr

/-- The page tables, and the calls so far. -/
structure MmState where
  tables : EntryRef → PtEntry64
  events : List MmEvent

/-- `lpage_count = (length + 0x1FFFFF) >> (12 + 9)`, on `size_t`. -/
def lpageCount (length : Nat) : Nat := (length + 0x1FFFFF) % 2 ^ 64 / 2 ^ 21

/-- `reserve_system_va(length, type, use_ptes)`: the base, and the page tables made for the
    PTEs from `get_pte(va)` to `get_pte(va + (lpage_count << 21) - 1)` if there is one. -/
def reserveSystemVa (mm : MemoryManager) (length : Nat) (usePtes : Bool) (s : MmState) :
    Nat × MmState :=
  let va := mm.obtainSystemVa (lpageCount length)
  if va ≠ 0 then
    let tables := mm.makeZeroedPageTables (getPte va 0)
      (getPte (va + lpageCount length * 2 ^ 21 - 1) 0) (1 ||| if usePtes then 0 else 2) s.tables
    (va, { s with tables })
  else (va, s)

/-- `return_system_va(ptr, length, type)`. -/
def returnSystemVa (ptr length : Nat) (s : MmState) : MmState :=
  { s with events := s.events ++ [.returnSystemVa ptr ((ptr + lpageCount length * 2 ^ 21) % 2 ^ 64)] }

/-- `xstd::align_up(x, a)` on `size_t`, for `a` a power of two: `(x + a - 1) & ~(a - 1)`. -/
def alignUp (x a : Nat) : Nat := (x + a - 1) % 2 ^ 64 / a * a

/-- "Align parameters by large-page", the same in both functions: `length` grown by the offset
    `x & (page_size(pde_level) - 1)` of `x` in its 2 MiB page, then aligned up to 2 MiB. -/
def alignedLength (x length : Nat) : Nat := alignUp ((length + x % pdeSize) % 2 ^ 64) pdeSize

/-- `map_physical_memory_range(address, length, cached)`: the pointer, `0` for `nullptr`. -/
def mapPhysicalMemoryRange (mm : MemoryManager) (address length : Nat) (cached : Bool)
    (s : MmState) : Nat × MmState :=
  let offset := address % pdeSize
  let length := alignedLength address length
  let r := reserveSystemVa mm length false s
  if r.1 = 0 then (0, r.2)
  else ((r.1 + offset) % 2 ^ 64,
    ⟨writePdes r.1 length (fun it => largePde (address - offset + it) cached) r.2.tables,
      r.2.events ++ [.flushTlb r.1 length]⟩)

/-- `unmap_physical_memory_range(va, length)`: `flags = 0` in each PDE, then
    `return_system_va`. -/
def unmapPhysicalMemoryRange (va length : Nat) (s : MmState) : MmState :=
  let offset := va % pdeSize
  let length := alignedLength va length
  returnSystemVa (va - offset) length
    { s with tables := writePdes (va - offset) length (fun _ => PtEntry64.zero) s.tables }

/-! ## What the processor sees -/

/-- The PAT entry a 2 MiB page uses: its PAT bit (bit 12, the low bit of the page frame
    number), `page_level_cache_disable` and `page_level_write_through`. -/
def PtEntry64.patIndex (e : PtEntry64) : Nat :=
  4 * (e.pageFrameNumber % 2) + 2 * e.pageLevelCacheDisable.toNat + e.pageLevelWriteThrough.toNat

/-- The physical address the processor reaches from `v` through a 2 MiB page: the PML4E and
    the PDPTE of `v` present, the PDPTE not a 1 GiB page, and the PDE of `v` a present large
    page, whose frame (the page frame number above its PAT bit and reserved bits) gives the
    bits above 21. -/
def translate (t : EntryRef → PtEntry64) (v : Nat) : Option Nat :=
  if (t (getPte v 3)).present ∧ (t (getPte v 2)).present ∧ (t (getPte v 2)).largePage = false ∧
      (t (getPte v 1)).present ∧ (t (getPte v 1)).largePage then
    some ((t (getPte v 1)).pageFrameNumber / 2 ^ 9 * pdeSize + v % pdeSize)
  else none

/-- How the mapping maps its pages: writable, supervisor only, global and executable, through
    PAT entry 0 (write-back) when `cached` and entry 3 (uncached) otherwise. -/
def PtEntry64.MapsAs (e : PtEntry64) (cached : Bool) : Prop :=
  e.write = true ∧ e.user = false ∧ e.global = true ∧ e.executeDisable = false ∧
    e.patIndex = if cached then 0 else 3

/-- What the mapping relies on of a reservation of `length` bytes at `va` that turned the page
    tables `t` into `t'`: a 2 MiB aligned base with the range below 2^64, the PML4Es and PDPTEs
    of the range present, its PDEs zero, and every other PDE as it was. -/
structure Reservation (va length : Nat) (t t' : EntryRef → PtEntry64) : Prop where
  aligned : va % pdeSize = 0
  fits : va + length < 2 ^ 64
  upper : ∀ k < length, (t' (getPte (va + k) 3)).present ∧ (t' (getPte (va + k) 2)).present ∧
    (t' (getPte (va + k) 2)).largePage = false
  zeroed : ∀ k < length, t' (getPte (va + k) 1) = PtEntry64.zero
  frame : ∀ r : EntryRef, r.level = 1 → (∀ k < length, r ≠ getPte (va + k) 1) → t' r = t r

/-- A memory manager that hands out system VA at 2 MiB and makes every PML4E and PDPTE
    present, and page tables with every entry zero. -/
def bootMm : MemoryManager :=
  ⟨fun _ => pdeSize, fun _ _ _ t r => if 2 ≤ r.level then { PtEntry64.zero with present := true } else t r⟩

def bootState : MmState := ⟨fun _ => PtEntry64.zero, []⟩

/-- Its reservation for a mapping of `0x3000` bytes at `0x1234` keeps the contract. -/
theorem bootMm_reservation :
    Reservation pdeSize (alignedLength 0x1234 0x3000) bootState.tables
      (reserveSystemVa bootMm (alignedLength 0x1234 0x3000) false bootState).2.tables where
  aligned := rfl
  fits := by decide
  upper _ _ := by simp [reserveSystemVa, bootMm, getPte, PtEntry64.zero, pdeSize, pageSize]
  zeroed _ _ := by simp [reserveSystemVa, bootMm, getPte, bootState, pdeSize, pageSize]
  frame r hr _ := by simp [reserveSystemVa, bootMm, hr, pdeSize, pageSize]

/-! ## The PDE loop -/

section Loop
variable {va length : Nat} {entry : Nat → PtEntry64} {t : EntryRef → PtEntry64}

/-- For a 2 MiB aligned `va`, the PDE of `va + k` is named by the 2 MiB pages of both. -/
theorem getPte_pde_of_aligned (hva : va % pdeSize = 0) (k : Nat) :
    getPte (va + k) 1 = ⟨1, (va / pdeSize + k / pdeSize) % 2 ^ 27⟩ := by
  simp only [getPte, pageSize, pdeSize, EntryRef.mk.injEq, true_and] at hva ⊢
  omega

theorem add_mod_of_aligned (hva : va % pdeSize = 0) (x : Nat) : (va + x) % pdeSize = x % pdeSize := by
  rw [Nat.add_mod, hva, Nat.zero_add, Nat.mod_mod]

theorem getPte_pde_inj (hva : va % pdeSize = 0) {j j' : Nat} (hj : j < 2 ^ 27) (hj' : j' < 2 ^ 27)
    (h : getPte (va + j * pdeSize) 1 = getPte (va + j' * pdeSize) 1) : j = j' := by
  rw [getPte_pde_of_aligned hva, getPte_pde_of_aligned hva, EntryRef.mk.injEq] at h
  simp only [pdeSize, pageSize] at h
  omega

theorem foldl_writePde_other {r : EntryRef} :
    ∀ {n : Nat} {t : EntryRef → PtEntry64}, (∀ j < n, r ≠ getPte (va + j * pdeSize) 1) →
      (List.range n).foldl (writePde va entry) t r = t r
  | 0, _, _ => rfl
  | n + 1, t, h => by
    rw [List.range_succ, List.foldl_append, List.foldl_cons, List.foldl_nil, writePde,
      Function.update_noteq (h n n.lt_succ_self), foldl_writePde_other fun j hj => h j (by omega)]

theorem foldl_writePde_slot (hva : va % pdeSize = 0) {j : Nat} :
    ∀ {n : Nat} {t : EntryRef → PtEntry64}, n ≤ 2 ^ 27 → j < n →
      (List.range n).foldl (writePde va entry) t (getPte (va + j * pdeSize) 1) = entry (j * pdeSize)
  | n + 1, t, hn, hj => by
    rw [List.range_succ, List.foldl_append, List.foldl_cons, List.foldl_nil, writePde]
    rcases Nat.lt_succ_iff_lt_or_eq.1 hj with hj | rfl
    · rw [Function.update_noteq fun h => absurd (getPte_pde_inj hva (by omega) (by omega) h) (by omega),
        foldl_writePde_slot hva (by omega) hj]
    · exact Function.update_same _ _ _

/-- After the loop, the PDE of `va + k`, for `k < length`, is the entry of the turn at the
    2 MiB page of `k`. -/
theorem writePdes_apply (hva : va % pdeSize = 0) (hlen : length ≤ 2 ^ 48) {k : Nat}
    (hk : k < length) :
    writePdes va length entry t (getPte (va + k) 1) = entry (k / pdeSize * pdeSize) := by
  have hpde : getPte (va + k) 1 = getPte (va + k / pdeSize * pdeSize) 1 := by
    rw [getPte_pde_of_aligned hva, getPte_pde_of_aligned hva, Nat.mul_div_cancel _ (by decide)]
  rw [hpde, writePdes, foldl_writePde_slot hva] <;> simp only [pdeSize, pageSize] at hk ⊢ <;> omega

/-- Every entry that is not the PDE of an address of the range keeps its value. -/
theorem writePdes_other {r : EntryRef} (h : ∀ k < length, r ≠ getPte (va + k) 1) :
    writePdes va length entry t r = t r :=
  foldl_writePde_other fun j hj => h _ (by simp only [pdeSize, pageSize] at hj ⊢; omega)

theorem writePdes_of_level_ne {r : EntryRef} (h : r.level ≠ 1) :
    writePdes va length entry t r = t r :=
  writePdes_other fun _ _ he => h (he ▸ rfl)

theorem writePdes_getPte {p d : Nat} (hd : d ≠ 1) :
    writePdes va length entry t (getPte p d) = t (getPte p d) :=
  writePdes_of_level_ne hd

end Loop

/-! ## One call -/

/-- The aligned length holds the offset and the requested bytes, and is less than 2 MiB
    beyond them. -/
theorem alignedLength_spec {x length : Nat} (h : x + length ≤ 2 ^ 48) :
    alignedLength x length % pdeSize = 0 ∧ length + x % pdeSize ≤ alignedLength x length ∧
      alignedLength x length < length + x % pdeSize + pdeSize := by
  simp only [alignedLength, alignUp, pdeSize, pageSize] at h ⊢
  omega

theorem alignedLength_le {x length : Nat} (h : x + length ≤ 2 ^ 48) :
    alignedLength x length ≤ 2 ^ 48 := by
  obtain ⟨hal, -, hlt⟩ := alignedLength_spec h
  simp only [pdeSize, pageSize] at h hal hlt
  omega

theorem alignedLength_mod {x y length : Nat} (h : x % pdeSize = y % pdeSize) :
    alignedLength x length = alignedLength y length := by
  rw [alignedLength, alignedLength, h]

theorem reserveSystemVa_events (mm : MemoryManager) (length : Nat) (usePtes : Bool) (s : MmState) :
    (reserveSystemVa mm length usePtes s).2.events = s.events := by
  by_cases h : mm.obtainSystemVa (lpageCount length) = 0 <;> simp [reserveSystemVa, h]

/-- When `mi::obtain_system_va` fails, the call returns `nullptr` and changes nothing. -/
theorem mapPhysicalMemoryRange_of_obtain_zero {mm : MemoryManager} {address length : Nat}
    {cached : Bool} {s : MmState}
    (h : mm.obtainSystemVa (lpageCount (alignedLength address length)) = 0) :
    mapPhysicalMemoryRange mm address length cached s = (0, s) := by
  simp [mapPhysicalMemoryRange, reserveSystemVa, h]

section Call
variable {mm : MemoryManager} {address length va : Nat} {cached : Bool} {s s' : MmState}

/-- A reservation at `va ≠ 0` is mapped: `va` plus the offset, the loop over its PDEs, and
    the flush of the range. -/
theorem mapPhysicalMemoryRange_of_reserve
    (hva : reserveSystemVa mm (alignedLength address length) false s = (va, s')) (hne : va ≠ 0) :
    mapPhysicalMemoryRange mm address length cached s =
      ((va + address % pdeSize) % 2 ^ 64,
        ⟨writePdes va (alignedLength address length)
            (fun it => largePde (address - address % pdeSize + it) cached) s'.tables,
          s'.events ++ [.flushTlb va (alignedLength address length)]⟩) := by
  simp only [mapPhysicalMemoryRange, hva, if_neg hne]

/-- For a physical range below 2^48 and a reservation below 2^64, the pointer does not wrap. -/
theorem mapPhysicalMemoryRange_eq (hphys : address + length ≤ 2 ^ 48)
    (hva : reserveSystemVa mm (alignedLength address length) false s = (va, s')) (hne : va ≠ 0)
    (hfit : va + alignedLength address length < 2 ^ 64) :
    mapPhysicalMemoryRange mm address length cached s =
      (va + address % pdeSize,
        ⟨writePdes va (alignedLength address length)
            (fun it => largePde (address - address % pdeSize + it) cached) s'.tables,
          s'.events ++ [.flushTlb va (alignedLength address length)]⟩) := by
  have := (alignedLength_spec hphys).2.1
  rw [mapPhysicalMemoryRange_of_reserve hva hne, Nat.mod_eq_of_lt (by omega)]

/-- The PDE the mapping writes for the 2 MiB page at `k` of its range, for a physical range
    below 2^48, maps `address + k` with the attributes `MapsAs` names. -/
theorem largePde_maps (cached : Bool) {k : Nat} (hphys : address + length ≤ 2 ^ 48) (hk : k < length) :
    let e := largePde (address - address % pdeSize + (address % pdeSize + k) / pdeSize * pdeSize) cached
    e.pageFrameNumber / 2 ^ 9 * pdeSize + (address % pdeSize + k) % pdeSize = address + k ∧
      e.MapsAs cached := by
  simp only [largePde, PtEntry64.MapsAs, PtEntry64.patIndex, pdeSize, pageSize] at hphys hk ⊢
  refine ⟨by omega, ?_⟩
  cases cached <;> simp <;> omega

/-- Every byte `k` of the requested range is reached at the returned pointer plus `k`, which
    is `va` plus the offset of `address` in its 2 MiB page, through a PDE that `MapsAs` the
    request asks: for every physical range below 2^48 and every reservation that keeps its
    contract. -/
theorem mapPhysicalMemoryRange_translate {ptr : Nat} {s₁ : MmState}
    (hphys : address + length ≤ 2 ^ 48)
    (hva : reserveSystemVa mm (alignedLength address length) false s = (va, s')) (hne : va ≠ 0)
    (hres : Reservation va (alignedLength address length) s.tables s'.tables)
    (hmap : mapPhysicalMemoryRange mm address length cached s = (ptr, s₁)) :
    ptr = va + address % pdeSize ∧
      ∀ k < length, translate s₁.tables (ptr + k) = some (address + k) ∧
        (s₁.tables (getPte (ptr + k) 1)).MapsAs cached := by
  have hge := (alignedLength_spec hphys).2.1
  have hlen := alignedLength_le hphys
  rw [mapPhysicalMemoryRange_eq hphys hva hne hres.fits, Prod.mk.injEq] at hmap
  obtain ⟨rfl, rfl⟩ := hmap
  refine ⟨rfl, fun k hk => ?_⟩
  dsimp only
  have hk' : address % pdeSize + k < alignedLength address length := by omega
  obtain ⟨h3, h2, h2l⟩ := hres.upper _ hk'
  obtain ⟨hphys', hmaps⟩ := largePde_maps cached hphys hk
  rw [Nat.add_assoc, writePdes_apply hres.aligned hlen hk']
  refine ⟨?_, hmaps⟩
  rw [translate, writePdes_getPte (by decide), writePdes_getPte (by decide),
    writePdes_apply hres.aligned hlen hk', if_pos ⟨h3, h2, h2l, rfl, rfl⟩,
    add_mod_of_aligned hres.aligned, hphys']

theorem mapPhysicalMemoryRange_translate_boot :
    (0x1234 + 0x3000 ≤ 2 ^ 48 ∧
      Reservation pdeSize (alignedLength 0x1234 0x3000) bootState.tables
        (reserveSystemVa bootMm (alignedLength 0x1234 0x3000) false bootState).2.tables) ∧
      pdeSize + 0x1234 = pdeSize + 0x1234 % pdeSize ∧
      ∀ k < 0x3000,
        translate (mapPhysicalMemoryRange bootMm 0x1234 0x3000 false bootState).2.tables
            (pdeSize + 0x1234 + k) = some (0x1234 + k) ∧
          ((mapPhysicalMemoryRange bootMm 0x1234 0x3000 false bootState).2.tables
            (getPte (pdeSize + 0x1234 + k) 1)).MapsAs false :=
  ⟨⟨by decide, bootMm_reservation⟩,
    mapPhysicalMemoryRange_translate (by decide)
      (show reserveSystemVa bootMm _ false bootState = _ from Prod.ext rfl rfl) (by decide)
      bootMm_reservation (by exact Prod.ext rfl rfl)⟩

/-- The call changes no entry but the PDEs of the range it flushes: every PDE that differs
    from before the call is that of an address of the flushed range, and every other entry is
    as the reservation left it. -/
theorem mapPhysicalMemoryRange_changes {ptr : Nat} {s₁ : MmState}
    (hva : reserveSystemVa mm (alignedLength address length) false s = (va, s')) (hne : va ≠ 0)
    (hres : Reservation va (alignedLength address length) s.tables s'.tables)
    (hmap : mapPhysicalMemoryRange mm address length cached s = (ptr, s₁)) :
    s₁.events = s.events ++ [.flushTlb va (alignedLength address length)] ∧
      (∀ r : EntryRef, r.level = 1 → s₁.tables r ≠ s.tables r →
        ∃ k < alignedLength address length, r = getPte (va + k) 1) ∧
      ∀ r : EntryRef, r.level ≠ 1 → s₁.tables r = s'.tables r := by
  rw [mapPhysicalMemoryRange_of_reserve hva hne, Prod.mk.injEq] at hmap
  obtain ⟨-, rfl⟩ := hmap
  dsimp only
  refine ⟨by rw [← reserveSystemVa_events mm _ false s, hva], fun r hr hne => ?_,
    fun r hr => writePdes_of_level_ne hr⟩
  by_contra hn
  have hout : ∀ k < alignedLength address length, r ≠ getPte (va + k) 1 :=
    fun k hk he => hn ⟨k, hk, he⟩
  exact hne (by rw [writePdes_other hout, hres.frame r hr hout])

theorem mapPhysicalMemoryRange_changes_boot :
    (pdeSize ≠ 0 ∧ Reservation pdeSize (alignedLength 0x1234 0x3000) bootState.tables
        (reserveSystemVa bootMm (alignedLength 0x1234 0x3000) false bootState).2.tables) ∧
      (mapPhysicalMemoryRange bootMm 0x1234 0x3000 true bootState).2.events =
          bootState.events ++ [.flushTlb pdeSize (alignedLength 0x1234 0x3000)] ∧
        (∀ r : EntryRef, r.level = 1 →
          (mapPhysicalMemoryRange bootMm 0x1234 0x3000 true bootState).2.tables r ≠ bootState.tables r →
            ∃ k < alignedLength 0x1234 0x3000, r = getPte (pdeSize + k) 1) ∧
        ∀ r : EntryRef, r.level ≠ 1 →
          (mapPhysicalMemoryRange bootMm 0x1234 0x3000 true bootState).2.tables r =
            (reserveSystemVa bootMm (alignedLength 0x1234 0x3000) false bootState).2.tables r :=
  ⟨⟨by decide, bootMm_reservation⟩,
    mapPhysicalMemoryRange_changes
      (show reserveSystemVa bootMm _ false bootState = _ from Prod.ext rfl rfl) (by decide)
      bootMm_reservation (by exact Prod.ext rfl rfl)⟩

/-- Unmapping, with the length it was asked for, what the call mapped: the page tables are
    again those the reservation left, and the only calls are the flush of the mapping and the
    return of exactly the range obtained, with no flush after the PDEs are cleared. -/
theorem unmap_map {ptr : Nat} {s₁ : MmState} (hphys : address + length ≤ 2 ^ 48)
    (hva : reserveSystemVa mm (alignedLength address length) false s = (va, s')) (hne : va ≠ 0)
    (hres : Reservation va (alignedLength address length) s.tables s'.tables)
    (hmap : mapPhysicalMemoryRange mm address length cached s = (ptr, s₁)) :
    unmapPhysicalMemoryRange ptr length s₁ =
      ⟨s'.tables, s.events ++ [.flushTlb va (alignedLength address length),
        .returnSystemVa va (va + alignedLength address length)]⟩ := by
  have hal := (alignedLength_spec hphys).1
  have hlen := alignedLength_le hphys
  have hfit := hres.fits
  rw [mapPhysicalMemoryRange_eq hphys hva hne hfit, Prod.mk.injEq] at hmap
  obtain ⟨rfl, rfl⟩ := hmap
  have hoff : (va + address % pdeSize) % pdeSize = address % pdeSize := by
    rw [add_mod_of_aligned hres.aligned, Nat.mod_mod]
  rw [unmapPhysicalMemoryRange]
  dsimp only
  rw [hoff, Nat.add_sub_cancel, alignedLength_mod hoff, returnSystemVa,
    ← reserveSystemVa_events mm (alignedLength address length) false s, hva]
  dsimp only
  congr 1
  · funext r
    by_cases hr : ∃ k < alignedLength address length, r = getPte (va + k) 1
    · obtain ⟨k, hk, rfl⟩ := hr
      rw [writePdes_apply hres.aligned hlen hk, hres.zeroed k hk]
    · push_neg at hr
      rw [writePdes_other hr, writePdes_other hr]
  · rw [List.append_assoc, List.singleton_append]
    simp only [lpageCount, pdeSize, pageSize] at hal hfit ⊢
    congr 4
    omega

theorem unmap_map_boot :
    (0x1234 + 0x3000 ≤ 2 ^ 48 ∧ pdeSize ≠ 0 ∧
      Reservation pdeSize (alignedLength 0x1234 0x3000) bootState.tables
        (reserveSystemVa bootMm (alignedLength 0x1234 0x3000) false bootState).2.tables) ∧
      unmapPhysicalMemoryRange (pdeSize + 0x1234) 0x3000
          (mapPhysicalMemoryRange bootMm 0x1234 0x3000 false bootState).2 =
        ⟨(reserveSystemVa bootMm (alignedLength 0x1234 0x3000) false bootState).2.tables,
          bootState.events ++ [.flushTlb pdeSize (alignedLength 0x1234 0x3000),
            .returnSystemVa pdeSize (pdeSize + alignedLength 0x1234 0x3000)]⟩ :=
  ⟨⟨by decide, by decide, bootMm_reservation⟩,
    unmap_map (by decide) (show reserveSystemVa bootMm _ false bootState = _ from Prod.ext rfl rfl)
      (by decide) bootMm_reservation (by exact Prod.ext rfl rfl)⟩

end Call

end MemoryMap

end HvDetect
