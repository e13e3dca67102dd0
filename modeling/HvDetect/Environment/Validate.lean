/-
  `envValidate` (`environment.cpp`): the PatchGuard context search, the code
  integrity of the loaded drivers with the fallbacks for dump drivers, the
  check of the drivers' dispatch tables, and the scan of the two HAL dispatch
  tables, each appending to `detections`.

  * `search` is `std::search` over a section's bytes, undefined from past
    the end, and `findPgContext` the loop over the sections of `ntoskrnl`:
    `findPgContext_inside` says the qword read as `*pg_context` and the
    suffix after it lie inside a section taken for `.data`, which is what
    starting the search 8 bytes in buys, and that the search is undefined
    only on such a section shorter than 8 bytes;
  * `readImage` reads an image file, then the two paths `envValidate` makes
    of a dump driver's path: `readImage_eq` says they are the path without
    the `_` of its first `\dump_`, then without the whole `dump_`, and that
    neither `erase` cuts past the end;
  * `pxIndex` and `isCanonical` are `ia32::mem::px_index` and
    `is_cannonical` as the architecture defines them; `dispatchDetections_eq`
    says the dispatch check flags every hijacked entry, not every driver,
    once; `halScan` is the loop
    over the two HAL tables, and `halScan_tables` says which qwords it reads
    and that its flags name an index but not the table.
-/
import Mathlib.Data.BitVec
import Mathlib.Data.List.Basic

namespace HvDetect

namespace Validate

/-- An element of `detections`: its `flag`, and its `imageBase` where the code writes one. -/
structure Detection where
  flag : String
  imageBase : Option Nat
deriving DecidableEq, Repr

/-! ## The PatchGuard context -/

/-- What the search reads of a section of `ntoskrnl`: its name, and its bytes from
    `virtual_address` for `min(virtual_size, size_raw_data)`. -/
structure Section where
  name : String
  data : List UInt8
deriving DecidableEq, Repr

/-- `std::search(begin + first, end, pattern)`: the first index from `first` where `pattern`
    starts, or `data.length`, the end; `none` where `begin + first` lies past `end`, so that
    `[begin + first, end)` is no range and `std::search` is undefined. -/
def search (data : List UInt8) (first : Nat) (pattern : List UInt8) : Option Nat :=
  if data.length < first then none
  else some ((((List.range (data.length + 1)).filter (first ≤ ·)).find? fun i =>
    pattern.isPrefixOf (data.drop i)).getD data.length)

/-- The loop over `nt_hdrs->sections()`: the first section named `.data`, by `make_ahash` of its
    name, in which the search for `ctx_suffix` from its ninth byte succeeds, with the offset of
    `pg_context`, 8 bytes before the match; `some none` where there is none, and `none` where a
    search is undefined. -/
def findPgContext (ahash : String → UInt64) (suffix : List UInt8) :
    List Section → Option (Option (List UInt8 × Nat))
  | [] => some none
  | s :: ss =>
    if ahash s.name ≠ ahash ".data" then findPgContext ahash suffix ss
    else (search s.data 8 suffix).bind fun it =>
      if it = s.data.length then findPgContext ahash suffix ss else some (some (s.data, it - 8))

/-- The little-endian qword at `off`. -/
def readQword (data : List UInt8) (off : Nat) : Nat :=
  ((data.drop off).take 8).foldr (fun b acc => b.toNat + 256 * acc) 0

/-- `if (pg_context && !*pg_context)`, the `pg.noPgBoot` detection; `none` where the search is
    undefined. -/
def pgDetections (ahash : String → UInt64) (suffix : List UInt8) (sections : List Section) :
    Option (List Detection) :=
  (findPgContext ahash suffix sections).map fun
    | some (data, ctx) => if readQword data ctx = 0 then [⟨"pg.noPgBoot", none⟩] else []
    | none => []

theorem search_eq_none_iff {data pattern : List UInt8} {first : Nat} :
    search data first pattern = none ↔ data.length < first := by
  unfold search
  split_ifs with h <;> simp [h]

theorem search_spec {data pattern : List UInt8} {first it : Nat}
    (h : search data first pattern = some it) (hne : it ≠ data.length) :
    first ≤ it ∧ it ≤ data.length ∧ pattern.isPrefixOf (data.drop it) := by
  unfold search at h
  split_ifs at h
  cases hf : ((List.range (data.length + 1)).filter (first ≤ ·)).find? fun i =>
      pattern.isPrefixOf (data.drop i) with
  | none => simp [hf] at h; exact absurd h.symm hne
  | some i =>
    simp only [hf, Option.getD_some, Option.some.injEq] at h
    subst h
    have hmem := List.mem_of_find?_eq_some hf
    simp only [List.mem_filter, List.mem_range, decide_eq_true_eq] at hmem
    have hpre := List.find?_some hf
    exact ⟨hmem.2, Nat.lt_succ_iff.1 hmem.1, hpre⟩

/-- The context `envValidate` finds lies in a section it takes for `.data`, with the suffix right
    after it, inside the section's bytes: the qword it reads as `*pg_context` never precedes the
    section, since the search starts 8 bytes in, and never passes its end. The search is
    undefined only where a section taken for `.data` is shorter than 8 bytes. -/
theorem findPgContext_inside (ahash : String → UInt64) (suffix : List UInt8)
    (sections : List Section) :
    (∀ data ctx, findPgContext ahash suffix sections = some (some (data, ctx)) →
      ∃ sec ∈ sections, ahash sec.name = ahash ".data" ∧ sec.data = data ∧
        ctx + 8 + suffix.length ≤ data.length ∧ suffix <+: data.drop (ctx + 8)) ∧
    (findPgContext ahash suffix sections = none →
      ∃ sec ∈ sections, ahash sec.name = ahash ".data" ∧ sec.data.length < 8) := by
  induction sections with
  | nil => exact ⟨fun _ _ h => (by cases h), fun h => (by cases h)⟩
  | cons s ss ih =>
    have lift : ∀ {P : Section → Prop}, (∃ sec ∈ ss, P sec) → ∃ sec ∈ s :: ss, P sec :=
      fun ⟨sec, hm, hp⟩ => ⟨sec, List.mem_cons_of_mem _ hm, hp⟩
    by_cases hname : ahash s.name = ahash ".data"
    · cases hs : search s.data 8 suffix with
      | none =>
        simp only [findPgContext, hname, ne_eq, not_true_eq_false, if_false, hs, Option.none_bind]
        exact ⟨fun _ _ h => (by cases h),
          fun _ => ⟨s, List.mem_cons_self _ _, hname, search_eq_none_iff.1 hs⟩⟩
      | some it =>
        simp only [findPgContext, hname, ne_eq, not_true_eq_false, if_false, hs, Option.some_bind]
        split_ifs with hend
        · exact ⟨fun d c h => lift (ih.1 d c h), fun h => lift (ih.2 h)⟩
        obtain ⟨hfirst, hle, hpre⟩ := search_spec hs hend
        have hpre' := List.isPrefixOf_iff_prefix.1 hpre
        have hlen := hpre'.length_le
        rw [List.length_drop] at hlen
        refine ⟨fun d c h => ?_, fun h => by cases h⟩
        cases h
        rw [Nat.sub_add_cancel hfirst]
        exact ⟨s, List.mem_cons_self _ _, hname, rfl, by omega, hpre'⟩
    · simp only [findPgContext, ne_eq, hname, not_false_eq_true, if_true]
      exact ⟨fun d c h => lift (ih.1 d c h), fun h => lift (ih.2 h)⟩

/-- A `.text` section and a `.data` section whose ninth byte starts the suffix: the context is
    the section's first qword. -/
theorem findPgContext_inside_at_8 :
    findPgContext (fun n => if n = ".data" then 1 else 0) [1, 2]
        [⟨".text", []⟩, ⟨".data", [0, 0, 0, 0, 0, 0, 0, 0, 1, 2]⟩] =
      some (some ([0, 0, 0, 0, 0, 0, 0, 0, 1, 2], 0)) ∧
    ∃ sec ∈ [(⟨".text", []⟩ : Section), ⟨".data", [0, 0, 0, 0, 0, 0, 0, 0, 1, 2]⟩],
      (if sec.name = ".data" then 1 else 0 : UInt64) = (if ".data" = ".data" then 1 else 0) ∧
      sec.data = [0, 0, 0, 0, 0, 0, 0, 0, 1, 2] ∧
      0 + 8 + [(1 : UInt8), 2].length ≤ [(0 : UInt8), 0, 0, 0, 0, 0, 0, 0, 1, 2].length ∧
      [(1 : UInt8), 2] <+: [(0 : UInt8), 0, 0, 0, 0, 0, 0, 0, 1, 2].drop (0 + 8) :=
  ⟨by decide, (findPgContext_inside (fun n => if n = ".data" then 1 else 0) [1, 2]
    [⟨".text", []⟩, ⟨".data", [0, 0, 0, 0, 0, 0, 0, 0, 1, 2]⟩]).1 _ _ (by decide)⟩

/-! ## The code integrity of the loaded drivers -/

/-- What the loop reads of an entry of `ntpp::module_list`: `full_dll_name`, `base_dll_name`,
    `dll_base`, and the checksum of the image in memory. -/
structure Module where
  fullDllName : List Char
  baseDllName : String
  dllBase : Nat
  checksum : Nat
deriving DecidableEq, Repr

/-- `L"\\dump_"` -/
def dumpMarker : List Char := "\\dump_".toList

/-- `std::wstring::find(pattern)`: the first index where `pattern` starts. -/
def findSub (s pattern : List Char) : Option Nat :=
  (List.range (s.length + 1)).find? fun i => pattern.isPrefixOf (s.drop i)

/-- `std::wstring::erase(pos, count)` -/
def erase (s : List Char) (pos count : Nat) : List Char := s.take pos ++ s.drop (pos + count)

/-- `ntpp::read_file(full_path)`, and for a path holding `\dump_` at `n`, `new_path.erase(n +
    xstd::strlen(L"\\dump"), 1)`, then `new_path.erase(n + 1, xstd::strlen(L"dump"))`, each read
    only when the one before fails. -/
def readImage {α : Type} (readFile : List Char → Option α) (path : List Char) : Option α :=
  match readFile path with
  | some d => some d
  | none =>
    match findSub path dumpMarker with
    | none => none
    | some n =>
      let newPath := erase path (n + 5) 1
      match readFile newPath with
      | some d => some d
      | none => readFile (erase newPath (n + 1) 4)

/-- The paths `readImage` tries, in order, said without `erase`. -/
def imagePaths (path : List Char) : List (List Char) :=
  path :: match findSub path dumpMarker with
    | none => []
    | some n => [path.take (n + 5) ++ path.drop (n + 6), path.take (n + 1) ++ path.drop (n + 6)]

theorem findSub_fits {s pattern : List Char} {n : Nat} (h : findSub s pattern = some n) :
    n + pattern.length ≤ s.length := by
  unfold findSub at h
  have hp := List.find?_some h
  have hpre := List.isPrefixOf_iff_prefix.1 hp
  have hmem := List.mem_range.1 (List.mem_of_find?_eq_some h)
  have := hpre.length_le
  rw [List.length_drop] at this
  omega

theorem erase_erase_dump {path : List Char} {n : Nat} (h : n + 6 ≤ path.length) :
    erase (erase path (n + 5) 1) (n + 1) 4 = path.take (n + 1) ++ path.drop (n + 6) := by
  have hlen : (path.take (n + 5)).length = n + 5 := List.length_take_of_le (by omega)
  rw [erase, erase, List.take_append_of_le_length (by omega), List.take_take,
    Nat.min_eq_left (by omega), show n + 1 + 4 = n + 5 from rfl, List.drop_left' hlen]

/-- For every path and every file system: `envValidate` reads the image from the path itself,
    then, if that fails and the path holds `\dump_`, from the path without the `_` of its first
    `\dump_`, then from the path with that whole `dump_` cut out, and takes the first that
    reads; the two `erase` calls never cut past the end of the path they cut. -/
theorem readImage_eq {α : Type} (readFile : List Char → Option α) (path : List Char) :
    readImage readFile path = (imagePaths path).findSome? readFile ∧
      ∀ n, findSub path dumpMarker = some n →
        n + 5 + 1 ≤ path.length ∧ n + 1 + 4 ≤ (erase path (n + 5) 1).length := by
  refine ⟨?_, fun n hfind => ?_⟩
  · unfold readImage imagePaths
    cases hread : readFile path with
    | some d => simp [hread]
    | none =>
      cases hfind : findSub path dumpMarker with
      | none => simp [hread]
      | some n =>
        have hfit : n + 6 ≤ path.length := findSub_fits hfind
        simp only [List.findSome?_cons, hread, erase_erase_dump hfit]
        simp only [erase, show n + 5 + 1 = n + 6 from rfl]
        cases readFile (path.take (n + 5) ++ path.drop (n + 6)) <;>
          cases readFile (path.take (n + 1) ++ path.drop (n + 6)) <;> rfl
  · have hfit : n + 6 ≤ path.length := findSub_fits hfind
    simp only [erase, List.length_append, List.length_take, List.length_drop]
    omega

/-- What the check reads of a file it could read: the checksum of the image on disk. -/
structure FileImage where
  checksum : Nat
deriving DecidableEq, Repr

/-- The loop over `ntpp::module_list`: a module whose file reads, with the checksum of the image
    in memory, and that `ntpp::ci::compare` finds changed, gives `img.patch.<base_dll_name>`. -/
def imageDetections (readFile : List Char → Option FileImage) (ciCompare : Module → FileImage → Bool)
    (modules : List Module) : List Detection :=
  modules.foldl (fun acc m =>
    match readImage readFile m.fullDllName with
    | none => acc
    | some f =>
      if m.checksum ≠ f.checksum then acc
      else if !ciCompare m f then acc ++ [⟨"img.patch." ++ m.baseDllName, some m.dllBase⟩]
      else acc) []

/-! ## The dispatch tables of the drivers and of the HAL -/

/-- `ia32::mem::px_index(va)`: bits 47:39, the PML4 index. -/
def pxIndex (va : UInt64) : Nat := va.toNat / 2 ^ 39 % 2 ^ 9

/-- `ia32::mem::is_cannonical(va)`: bits 63:47 all equal. -/
def isCanonical (va : UInt64) : Bool := va.toNat < 2 ^ 47 || 2 ^ 64 - 2 ^ 47 ≤ va.toNat

/-- What the callback reads of a `\Driver` object it could reference: its name in the
    directory, `driver_start`, and `major_function`. -/
structure DriverObject where
  name : String
  driverStart : Nat
  majorFunction : List UInt64
deriving DecidableEq, Repr

/-- The callback of `ntpp::query_object_directory(L"\\Driver", ...)`, over the objects it could
    reference: each entry of `major_function` that is not null and lies outside the PML4 slots
    of `ntoskrnl` (`pxi_k`) and of the shared user data (`pxi_s`) gives
    `img.dispatchHijacked.<name>`. -/
def dispatchDetections (pxiK pxiS : Nat) (drivers : List DriverObject) : List Detection :=
  drivers.foldl (fun acc d =>
    d.majorFunction.foldl (fun acc entry =>
      if entry ≠ 0 ∧ pxIndex entry ≠ pxiS ∧ pxIndex entry ≠ pxiK then
        acc ++ [⟨"img.dispatchHijacked." ++ d.name, some d.driverStart⟩]
      else acc) acc) []

/-- Whether an entry of `major_function` is flagged: not null, and outside both PML4 slots. -/
def isHijacked (pxiK pxiS : Nat) (entry : UInt64) : Bool :=
  entry ≠ 0 && pxIndex entry ≠ pxiS && pxIndex entry ≠ pxiK

theorem foldl_dispatchEntry (pxiK pxiS : Nat) (d : DriverObject) (es : List UInt64)
    (acc : List Detection) :
    es.foldl (fun acc entry =>
      if entry ≠ 0 ∧ pxIndex entry ≠ pxiS ∧ pxIndex entry ≠ pxiK then
        acc ++ [⟨"img.dispatchHijacked." ++ d.name, some d.driverStart⟩]
      else acc) acc =
      acc ++ (es.filter (isHijacked pxiK pxiS)).map
        fun _ => ⟨"img.dispatchHijacked." ++ d.name, some d.driverStart⟩ := by
  induction es generalizing acc with
  | nil => simp
  | cons e es ih =>
    rw [List.foldl_cons, ih, List.filter_cons]
    by_cases h : e ≠ 0 ∧ pxIndex e ≠ pxiS ∧ pxIndex e ≠ pxiK
    · have hh : isHijacked pxiK pxiS e = true := by simp [isHijacked, h.1, h.2.1, h.2.2]
      simp [h, hh]
    · have hh : isHijacked pxiK pxiS e = false := by simpa [isHijacked, and_assoc] using h
      simp [h, hh]

/-- For every set of `\Driver` objects: one detection per hijacked entry of `major_function`,
    in the order of the drivers and of their entries, so that a driver with `k` hijacked entries
    is flagged `k` times with the same flag and image base. -/
theorem dispatchDetections_eq (pxiK pxiS : Nat) (drivers : List DriverObject) :
    dispatchDetections pxiK pxiS drivers =
      drivers.flatMap fun d => (d.majorFunction.filter (isHijacked pxiK pxiS)).map
        fun _ => ⟨"img.dispatchHijacked." ++ d.name, some d.driverStart⟩ := by
  simp only [dispatchDetections, foldl_dispatchEntry, List.flatMap_eq_foldl]

/-- Whether a HAL table value counts as a hook: not null, canonical, and outside the PML4 slot
    of `ntoskrnl`. -/
def isHook (pxiK : Nat) (v : UInt64) : Bool := v ≠ 0 && isCanonical v && pxIndex v ≠ pxiK

/-- The loop over one table, past its version qword: `hal.hook.<n>` for each value `tbl[n]`
    that is not null, is canonical, and lies outside the PML4 slot of `ntoskrnl`. -/
def halEntries (pxiK : Nat) (tbl : Nat → UInt64) (count : Nat) : List Detection :=
  (List.range count).foldl (fun acc n =>
    let v := tbl (n + 1)
    if v = 0 ∨ !isCanonical v then acc
    else if pxIndex v ≠ pxiK then acc ++ [⟨"hal.hook." ++ toString n, none⟩] else acc) []

/-- `for (auto [tbl, size] : {...})`: a null size ends the loop; otherwise
    `size = size / 8 - 1` on `int` and `tbl += 1` before the loop over the values. -/
def halScan (pxiK : Nat) : List ((Nat → UInt64) × Int) → List Detection
  | [] => []
  | (tbl, size) :: tables =>
    if size = 0 then [] else halEntries pxiK tbl (size / 8 - 1).toNat ++ halScan pxiK tables

/-- `envValidate()` on what it reads: the sections of `ntoskrnl` and the suffix, the modules,
    the files, the `\Driver` objects, the two PML4 slots, and the qwords of
    `hal::dispatch_table` and `hal::private_dispatch_table`; `none` where the PatchGuard search
    is undefined. -/
def envValidate (ahash : String → UInt64) (suffix : List UInt8) (sections : List Section)
    (modules : List Module) (readFile : List Char → Option FileImage)
    (ciCompare : Module → FileImage → Bool) (drivers : List DriverObject) (pxiK pxiS : Nat)
    (halDispatch halPrivateDispatch : Nat → UInt64) : Option (List Detection) :=
  (pgDetections ahash suffix sections).map fun pg =>
    pg ++ imageDetections readFile ciCompare modules ++ dispatchDetections pxiK pxiS drivers ++
      halScan pxiK [(halDispatch, 0xa8), (halPrivateDispatch, 0x300)]

theorem halEntries_eq (pxiK : Nat) (tbl : Nat → UInt64) (count : Nat) :
    halEntries pxiK tbl count =
      ((List.range count).filter fun n => isHook pxiK (tbl (n + 1))).map
        fun n => ⟨"hal.hook." ++ toString n, none⟩ := by
  unfold halEntries
  suffices h : ∀ (ns : List Nat) (acc : List Detection), ns.foldl (fun acc n =>
      if tbl (n + 1) = 0 ∨ !isCanonical (tbl (n + 1)) then acc
      else if pxIndex (tbl (n + 1)) ≠ pxiK then acc ++ [⟨"hal.hook." ++ toString n, none⟩]
      else acc) acc =
        acc ++ (ns.filter fun n => isHook pxiK (tbl (n + 1))).map
          fun n => ⟨"hal.hook." ++ toString n, none⟩ from h _ []
  intro ns
  induction ns with
  | nil => simp
  | cons n ns ih =>
    intro acc
    rw [List.foldl_cons, ih, List.filter_cons]
    by_cases h0 : tbl (n + 1) = 0
    · simp [h0, isHook]
    by_cases hc : isCanonical (tbl (n + 1)) = true
    · by_cases hk : pxIndex (tbl (n + 1)) = pxiK <;> simp [h0, hc, hk, isHook]
    · simp [h0, hc, isHook]

/-- For every content of the two HAL tables: the scan reads the qwords `1, ..., 20` of
    `hal::dispatch_table` (`0xa8` bytes) and `1, ..., 95` of `hal::private_dispatch_table`
    (`0x300` bytes), all inside them, and flags `hal.hook.<n>` for each hook at qword `n + 1`
    of either; the same flag names index `n` of both tables. -/
theorem halScan_tables (pxiK : Nat) (t₁ t₂ : Nat → UInt64) :
    halScan pxiK [(t₁, 0xa8), (t₂, 0x300)] =
      ((List.range 20).filter fun n => isHook pxiK (t₁ (n + 1))).map
          (fun n => ⟨"hal.hook." ++ toString n, none⟩) ++
        ((List.range 95).filter fun n => isHook pxiK (t₂ (n + 1))).map
          fun n => ⟨"hal.hook." ++ toString n, none⟩ := by
  simp [halScan, halEntries_eq]

end Validate

end HvDetect
