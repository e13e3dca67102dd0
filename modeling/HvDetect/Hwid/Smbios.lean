/-
  `hwid::get_bios_identifiers` (`hwid/bios.cpp`) past the scans of the BIOS
  window, and the part of `hwidCollectCpuBios` (`hwid.cpp`) that reports it.

  * `ia32::smbios::parse` and the structures it yields are outside `src/`:
    `SmbiosLib.parse` gives a table as the list of `SmbiosEntry`, each with
    what `entry.as<T>()` and `entry.resolve` give for its type;
  * `entryStep` is one turn of the loop over `res->entries`, and
    `parseSmbios` the lambda `parse_smbios`: it does nothing once
    `last_smbios_status` holds a success, and otherwise stores the error of
    `attempt` (the checks before the walk) or walks the table;
  * `getBiosIdentifiers` runs `parse_smbios` on each entry point whose checksum
    holds, then on the WMIp range, and decides between the identifiers and
    `last_smbios_status`;
  * `foldl_parseSmbios`: a run of `parse_smbios` over any ranges walks the
    first table that parses with an entry, and only that one; when none does,
    the status left is that of the last range tried; hence
    `getBiosIdentifiers_eq`, the whole function in closed form;
  * `foldl_entryStep_memoryDevices`, `foldl_entryStep_assetTags`: what the
    walk appends; `reportBios_assetTags`: the tags reported are sorted, free
    of duplicates and the same set, and the asset tag flag is raised exactly
    when there is one.
-/
import HvDetect.Hwid.Bios
import Mathlib.Data.List.Sort
import Mathlib.Data.List.Destutter
import Mathlib.Data.String.Basic

namespace HvDetect

namespace Bios

/-- `bios_device` -/
structure BiosDevice where
  model : String := ""
  serial : String := ""
deriving DecidableEq, Repr

/-- `bios_identifiers`, with the defaults of its fields. -/
structure BiosIdentifiers where
  isVm : List UInt8 := []
  isTampered : Bool := false
  sysGuid : String := ""
  sysSerial : String := ""
  baseboard : BiosDevice := {}
  memoryDevices : List BiosDevice := []
  cmosSerial : String := ""
  assetTags : List String := []
deriving DecidableEq, Repr

/-- What the walk reads of one SMBIOS structure: its type and, through `entry.as<T>()` and
    `entry.resolve`, the fields of the structure of that type (`size` is the memory device's,
    `asset_tag` the tag of whichever structure has one). -/
structure SmbiosEntry where
  type : UInt8
  size : Nat
  assetTag : String
  partNumber : String
  serialNumber : String
  product : String
  uuid : String
deriving DecidableEq, Repr

/-- `sysinfo_entry::type_id` -/
def sysinfoType : UInt8 := 1

/-- `baseboard_entry::type_id` -/
def baseboardType : UInt8 := 2

/-- `system_enclosure_entry::type_id` -/
def systemEnclosureType : UInt8 := 3

/-- `processor_entry::type_id` -/
def processorType : UInt8 := 4

/-- `memory_device_entry::type_id` -/
def memoryDeviceType : UInt8 := 17

/-- `sizeof(ia32::smbios::entry_header)`: type, length and handle. -/
def entryHeaderSize : Nat := 4

/-- `parse_asset_tag(dev)`: a non-empty tag is appended to `asset_tags`. -/
def parseAssetTag (r : BiosIdentifiers) (tag : String) : BiosIdentifiers :=
  if tag.isEmpty then r else { r with assetTags := r.assetTags ++ [tag] }

/-- One turn of `for (auto& [type, entry] : res->entries)`. -/
def entryStep (r : BiosIdentifiers) (e : SmbiosEntry) : BiosIdentifiers :=
  if e.type = memoryDeviceType then
    if e.size = 0 then r
    else
      let r := parseAssetTag r e.assetTag
      { r with memoryDevices := r.memoryDevices ++ [⟨e.partNumber, e.serialNumber⟩] }
  else if e.type = baseboardType then
    parseAssetTag { r with baseboard := ⟨e.product, e.serialNumber⟩ } e.assetTag
  else if e.type = sysinfoType then { r with sysGuid := e.uuid, sysSerial := e.serialNumber }
  else if e.type = systemEnclosureType then parseAssetTag r e.assetTag
  else if e.type = processorType then parseAssetTag r e.assetTag
  else r

/-- Whether the walk takes an entry's asset tag: a memory device with a non-zero size, a
    baseboard, an enclosure or a processor, with a non-empty tag. -/
def SmbiosEntry.givesTag (e : SmbiosEntry) : Bool :=
  ((e.type = memoryDeviceType ∧ e.size ≠ 0) ∨ e.type = baseboardType ∨
    e.type = systemEnclosureType ∨ e.type = processorType) ∧ e.assetTag ≠ ""

/-- One turn in closed form: the fields it writes, each from the entry and the old value. -/
theorem entryStep_eq (r : BiosIdentifiers) (e : SmbiosEntry) :
    entryStep r e = { r with
      sysGuid := if e.type = sysinfoType then e.uuid else r.sysGuid
      sysSerial := if e.type = sysinfoType then e.serialNumber else r.sysSerial
      baseboard := if e.type = baseboardType then ⟨e.product, e.serialNumber⟩ else r.baseboard
      memoryDevices := r.memoryDevices ++
        if e.type = memoryDeviceType ∧ e.size ≠ 0 then [⟨e.partNumber, e.serialNumber⟩] else []
      assetTags := r.assetTags ++ if e.givesTag then [e.assetTag] else [] } := by
  unfold entryStep parseAssetTag SmbiosEntry.givesTag
  simp only [String.isEmpty_iff, memoryDeviceType, baseboardType, sysinfoType,
    systemEnclosureType, processorType]
  by_cases h17 : e.type = 17
  · by_cases hs : e.size = 0 <;> by_cases ht : e.assetTag = "" <;> simp [h17, hs, ht]
  by_cases h2 : e.type = 2
  · by_cases ht : e.assetTag = "" <;> simp [h2, ht]
  by_cases h1 : e.type = 1
  · simp [h1]
  by_cases h3 : e.type = 3
  · by_cases ht : e.assetTag = "" <;> simp [h3, ht]
  by_cases h4 : e.type = 4
  · by_cases ht : e.assetTag = "" <;> simp [h4, ht]
  · simp [h17, h2, h1, h3, h4]

/-- `last_smbios_status`, an `xstd::result<>`: a success, a failure with a message, or the
    failure a default-constructed one holds. -/
inductive SmbiosStatus
  | unset
  | ok
  | error (msg : String)
deriving DecidableEq, Repr

/-- `success()` -/
def SmbiosStatus.success : SmbiosStatus → Bool
  | .ok => true
  | _ => false

/-- The message of a failed status; a default one has none. -/
def SmbiosStatus.message : SmbiosStatus → Option String
  | .error m => some m
  | _ => none

/-- What `get_bios_identifiers` takes from `ia32::smbios` and `xstd`: the hash of the VM
    strings, the checksum of an entry point, the layouts of the two entry points, the range
    `(ep->address, ep->total_length)` an entry point's bytes give, and `parse`. -/
structure SmbiosLib where
  ahash : List UInt8 → UInt64
  checksum : List UInt8 → Bool
  v2 : EpLayout
  v3 : EpLayout
  epRange : EpLayout → List UInt8 → Nat × Nat
  parse : List UInt8 → Except String (List SmbiosEntry)

/-- What `get_bios_identifiers` reads of the machine: `bios_space` (`none` when it cannot be
    mapped), the `len` bytes `map_physical<char>(phys_adr, len)` maps, the WMIp SMBIOS range,
    and the CMOS serial as `xstd::fmt::as_hex_string` writes it. -/
structure BiosHw where
  biosSpace : Option Window
  mapPhysical : Nat → Nat → Option (List UInt8)
  wmipAddress : UInt64
  wmipLength : UInt32
  cmosSerial : String

/-- The checks `parse_smbios(phys_adr, len)` makes before the walk: the error it stores, or the
    entries of a table that parsed with at least one. -/
def attempt (lib : SmbiosLib) (mapPhysical : Nat → Nat → Option (List UInt8)) (phys len : Nat) :
    Except String (List SmbiosEntry) :=
  if len < entryHeaderSize then throw "Invalid SMBIOS range specified."
  else
    match mapPhysical phys len with
    | none => throw "Failed to map SMBIOS memory."
    | some range =>
      match lib.parse range with
      | .error e => throw e
      | .ok [] => throw "SMBIOS table is empty."
      | .ok entries => pure entries

/-- The lambda `parse_smbios` on `(last_smbios_status, result)` and the range `(phys_adr, len)`. -/
def parseSmbios (lib : SmbiosLib) (mapPhysical : Nat → Nat → Option (List UInt8))
    (st : SmbiosStatus × BiosIdentifiers) (range : Nat × Nat) : SmbiosStatus × BiosIdentifiers :=
  if st.1.success then st
  else
    match attempt lib mapPhysical range.1 range.2 with
    | .error m => (.error m, st.2)
    | .ok entries => (.ok, entries.foldl entryStep st.2)

/-- What `get_bios_identifiers` returns on failure: `last_smbios_status.status`, or in the model
    the offset of a read outside `bios_space`, which `scanBios_in_window` rules out. -/
inductive BiosError
  | status (msg : Option String)
  | outsideWindow (off : Nat)
deriving DecidableEq, Repr

/-- `if (smbios_physical_address > 4_gb) result.is_tampered = true;` -/
def markTampered (address : UInt64) (r : BiosIdentifiers) : BiosIdentifiers :=
  if 2 ^ 32 < address.toNat then { r with isTampered := true } else r

theorem markTampered_eq (address : UInt64) (r : BiosIdentifiers) :
    markTampered address r = { r with isTampered := decide (2 ^ 32 < address.toNat) || r.isTampered } := by
  unfold markTampered
  by_cases h : 2 ^ 32 < address.toNat
  · rw [if_pos h, decide_eq_true h, Bool.true_or]
  · rw [if_neg h, decide_eq_false h, Bool.false_or]

/-- The ranges of the entry points whose checksum holds, in the order of the scan. -/
def epRanges (lib : SmbiosLib) (checks : List EpCheck) : List (Nat × Nat) :=
  checks.filterMap fun c => c.parsed.map (lib.epRange c.ep)

/-- `hwid::get_bios_identifiers()`: the scans run on `bios_space` once it is mapped. -/
def getBiosIdentifiers (lib : SmbiosLib) (hw : BiosHw) : Except BiosError BiosIdentifiers :=
  match hw.biosSpace.map (scanBios lib.ahash lib.checksum lib.v2 lib.v3) with
  | none => throw (.status (some "Failed to map BIOS space."))
  | some (.error off) => throw (.outsideWindow off)
  | some (.ok (isVm, checks)) =>
    let st := (epRanges lib checks).foldl (parseSmbios lib hw.mapPhysical) (.unset, { isVm })
    let st :=
      if hw.wmipAddress ≠ 0 then
        parseSmbios lib hw.mapPhysical (st.1, markTampered hw.wmipAddress st.2)
          (hw.wmipAddress.toNat, hw.wmipLength.toNat)
      else st
    let result := { st.2 with cmosSerial := hw.cmosSerial }
    if result.isVm.isEmpty && !result.isTampered && !st.1.success then throw (.status st.1.message)
    else pure result

/-! ## The walk over a table -/

/-- A change of the identifiers that the walk does not see: it commutes with every turn. -/
def Outer (f : BiosIdentifiers → BiosIdentifiers) : Prop := ∀ r e, entryStep (f r) e = f (entryStep r e)

/-- The walk reads and writes neither `is_vm`, `is_tampered` nor `cmos_serial`. -/
theorem outer_update (vm : List UInt8 → List UInt8) (t : Bool → Bool) (c : String → String) :
    Outer fun r => { r with isVm := vm r.isVm, isTampered := t r.isTampered, cmosSerial := c r.cmosSerial } := by
  intro r e
  rw [entryStep_eq, entryStep_eq]

theorem outer_markTampered (address : UInt64) : Outer (markTampered address) := by
  unfold markTampered
  split
  · exact outer_update id (fun _ => true) id
  · exact fun _ _ => rfl

theorem Outer.foldl {f : BiosIdentifiers → BiosIdentifiers} (hf : Outer f) (es : List SmbiosEntry)
    (r : BiosIdentifiers) : es.foldl entryStep (f r) = f (es.foldl entryStep r) := by
  induction es generalizing r with
  | nil => rfl
  | cons e es ih => rw [List.foldl_cons, List.foldl_cons, hf, ih]

/-- The memory devices a walk appends: those of the type-17 entries with a non-zero size, in
    table order. -/
theorem foldl_entryStep_memoryDevices (es : List SmbiosEntry) (r : BiosIdentifiers) :
    (es.foldl entryStep r).memoryDevices = r.memoryDevices ++
      (es.filter fun e => e.type = memoryDeviceType ∧ e.size ≠ 0).map
        fun e => ⟨e.partNumber, e.serialNumber⟩ := by
  induction es generalizing r with
  | nil => simp
  | cons e es ih =>
    rw [List.foldl_cons, ih, entryStep_eq, List.filter_cons]
    by_cases h : e.type = memoryDeviceType ∧ e.size ≠ 0 <;> simp [h]

/-- The asset tags a walk appends, in table order. -/
theorem foldl_entryStep_assetTags (es : List SmbiosEntry) (r : BiosIdentifiers) :
    (es.foldl entryStep r).assetTags = r.assetTags ++ (es.filter SmbiosEntry.givesTag).map (·.assetTag) := by
  induction es generalizing r with
  | nil => simp
  | cons e es ih =>
    rw [List.foldl_cons, ih, entryStep_eq, List.filter_cons]
    cases h : e.givesTag <;> simp [h]

/-! ## A run of `parse_smbios` -/

section
variable (lib : SmbiosLib) (mapPhysical : Nat → Nat → Option (List UInt8))

/-- The status an attempt leaves. -/
def statusOf : Except String (List SmbiosEntry) → SmbiosStatus
  | .error m => .error m
  | .ok _ => .ok

/-- The first range whose table parses with an entry, as its entries. -/
def firstTable (ranges : List (Nat × Nat)) : Option (List SmbiosEntry) :=
  ranges.findSome? fun rg => (attempt lib mapPhysical rg.1 rg.2).toOption

/-- The status of the last range tried, or `s` when none was. -/
def lastStatus (s : SmbiosStatus) (ranges : List (Nat × Nat)) : SmbiosStatus :=
  (ranges.getLast?.map fun rg => statusOf (attempt lib mapPhysical rg.1 rg.2)).getD s

theorem foldl_parseSmbios_of_success {s : SmbiosStatus} (hs : s.success = true)
    (r : BiosIdentifiers) (ranges : List (Nat × Nat)) :
    ranges.foldl (parseSmbios lib mapPhysical) (s, r) = (s, r) := by
  induction ranges with
  | nil => rfl
  | cons rg ranges ih => rw [List.foldl_cons, parseSmbios, if_pos hs, ih]

theorem parseSmbios_outer {f : BiosIdentifiers → BiosIdentifiers} (hf : Outer f)
    (st : SmbiosStatus × BiosIdentifiers) (rg : Nat × Nat) :
    parseSmbios lib mapPhysical (st.1, f st.2) rg = Prod.map id f (parseSmbios lib mapPhysical st rg) := by
  unfold parseSmbios
  split
  · rfl
  · split
    · rfl
    · simp only [hf.foldl, Prod.map, id]

theorem lastStatus_success {s : SmbiosStatus} {ranges : List (Nat × Nat)} (hs : s.success = false)
    (hnone : firstTable lib mapPhysical ranges = none) :
    (lastStatus lib mapPhysical s ranges).success = false := by
  unfold lastStatus
  cases hl : ranges.getLast? with
  | none => exact hs
  | some rg =>
    have h := List.findSome?_eq_none_iff.1 hnone rg (List.mem_of_getLast?_eq_some hl)
    simp only [Option.map_some', Option.getD_some]
    cases ha : attempt lib mapPhysical rg.1 rg.2 with
    | error m => rfl
    | ok es => simp [ha, Except.toOption] at h

/-- A run of `parse_smbios` over `ranges` from a status that is not a success walks the first
    table that parses with an entry, and no other; when there is none, it leaves the
    identifiers as they were and the status of the last range tried. -/
theorem foldl_parseSmbios (ranges : List (Nat × Nat)) {s : SmbiosStatus} (hs : s.success = false)
    (r : BiosIdentifiers) :
    ranges.foldl (parseSmbios lib mapPhysical) (s, r) =
      match firstTable lib mapPhysical ranges with
      | some es => (.ok, es.foldl entryStep r)
      | none => (lastStatus lib mapPhysical s ranges, r) := by
  induction ranges generalizing s with
  | nil => rfl
  | cons rg ranges ih =>
    rw [List.foldl_cons, parseSmbios, if_neg (by simp [hs])]
    simp only [firstTable, lastStatus, List.findSome?_cons, List.getLast?_cons]
    cases ha : attempt lib mapPhysical rg.1 rg.2 with
    | error m =>
      rw [ih (rfl : (SmbiosStatus.error m).success = false)]
      simp only [firstTable, lastStatus, Except.toOption]
      cases ranges.getLast? <;> simp [ha, statusOf]
    | ok es => exact foldl_parseSmbios_of_success lib mapPhysical (rfl : SmbiosStatus.ok.success = true) _ _

end

/-! ## `get_bios_identifiers` -/

/-- Every range `parse_smbios` is given: the entry points', then the WMIp range when its address
    is not null. -/
def smbiosRanges (lib : SmbiosLib) (hw : BiosHw) (checks : List EpCheck) : List (Nat × Nat) :=
  epRanges lib checks ++
    if hw.wmipAddress ≠ 0 then [(hw.wmipAddress.toNat, hw.wmipLength.toNat)] else []

/-- `getBiosIdentifiers` once the scans returned: the run over every range, with `is_tampered`
    marked, then `cmos_serial`. -/
theorem getBiosIdentifiers_of_scan (lib : SmbiosLib) (hw : BiosHw) {w : Window}
    (hspace : hw.biosSpace = some w) {isVm : List UInt8} {checks : List EpCheck}
    (hscan : scanBios lib.ahash lib.checksum lib.v2 lib.v3 w = .ok (isVm, checks)) :
    getBiosIdentifiers lib hw =
      let st := Prod.map id (markTampered hw.wmipAddress)
        ((smbiosRanges lib hw checks).foldl (parseSmbios lib hw.mapPhysical) (.unset, { isVm }))
      let result := { st.2 with cmosSerial := hw.cmosSerial }
      if result.isVm.isEmpty && !result.isTampered && !st.1.success then throw (.status st.1.message)
      else pure result := by
  rw [getBiosIdentifiers, hspace, Option.map_some', hscan]
  simp only [smbiosRanges]
  by_cases h0 : hw.wmipAddress = 0
  · have hm : markTampered hw.wmipAddress = id := funext fun r => by simp [markTampered, h0]
    simp only [h0, ne_eq, not_true_eq_false, if_false, List.append_nil, hm, Prod.map_id]
    rfl
  · simp only [h0, ne_eq, not_false_eq_true, if_true, List.foldl_append, List.foldl_cons,
      List.foldl_nil, parseSmbios_outer lib hw.mapPhysical (outer_markTampered _)]

/-- What `get_bios_identifiers` returns once the scans found the VM string `isVm` and the entry
    points `checks`, said without the run: the walk of the first table over identifiers that
    hold `isVm`, `is_tampered` when the WMIp address is past 4 GB, and the CMOS serial; with no
    table, the status of the last range tried unless a VM string or the address saves it. -/
def identifiersOf (lib : SmbiosLib) (hw : BiosHw) (isVm : List UInt8) (checks : List EpCheck) :
    Except BiosError BiosIdentifiers :=
  let ranges := smbiosRanges lib hw checks
  let base : BiosIdentifiers :=
    { isVm, isTampered := decide (2 ^ 32 < hw.wmipAddress.toNat), cmosSerial := hw.cmosSerial }
  match firstTable lib hw.mapPhysical ranges with
  | some es => .ok (es.foldl entryStep base)
  | none =>
    if isVm = [] ∧ hw.wmipAddress.toNat ≤ 2 ^ 32 then
      .error (.status (lastStatus lib hw.mapPhysical .unset ranges).message)
    else .ok base

/-- For every machine whose BIOS window maps and every library: the scans return, and
    `get_bios_identifiers` walks only the first range, in the order the code tries them, whose
    table parses with an entry; with none, it fails exactly when no VM string was found and the
    WMIp address is not past 4 GB, with the status of the last range tried, which has no
    message when no range was tried. It never reads outside the window. -/
theorem getBiosIdentifiers_eq (lib : SmbiosLib) (hw : BiosHw) (w : Window)
    (hspace : hw.biosSpace = some w) :
    ∃ isVm checks, scanBios lib.ahash lib.checksum lib.v2 lib.v3 w = .ok (isVm, checks) ∧
      getBiosIdentifiers lib hw = identifiersOf lib hw isVm checks := by
  obtain ⟨isVm, checks, hscan, -⟩ := scanBios_in_window lib.ahash lib.checksum lib.v2 lib.v3 w
  refine ⟨isVm, checks, hscan, ?_⟩
  rw [getBiosIdentifiers_of_scan lib hw hspace hscan,
    foldl_parseSmbios _ _ _ (rfl : SmbiosStatus.unset.success = false), identifiersOf]
  cases hfirst : firstTable lib hw.mapPhysical (smbiosRanges lib hw checks) with
  | some es =>
    have hfold := (outer_update id (fun t => decide (2 ^ 32 < hw.wmipAddress.toNat) || t)
      fun _ => hw.cmosSerial).foldl es { isVm }
    simp only [Bool.or_false, id] at hfold
    simp only [Prod.map, id, SmbiosStatus.success, Bool.not_true, Bool.and_false, Bool.false_eq_true,
      if_false, markTampered_eq, hfold]
    rfl
  | none =>
    have hs := lastStatus_success lib hw.mapPhysical (rfl : SmbiosStatus.unset.success = false) hfirst
    simp only [Prod.map, id, hs, Bool.not_false, Bool.and_true, markTampered_eq, Bool.or_false]
    by_cases h : 2 ^ 32 < hw.wmipAddress.toNat
    · simp [h]
      rfl
    · simp [h, List.isEmpty_iff]
      rfl

theorem firstTable_of_forall {lib : SmbiosLib} {mapPhysical : Nat → Nat → Option (List UInt8)}
    {ranges : List (Nat × Nat)} {es : List SmbiosEntry} (hne : ranges ≠ [])
    (h : ∀ rg ∈ ranges, attempt lib mapPhysical rg.1 rg.2 = .ok es) :
    firstTable lib mapPhysical ranges = some es := by
  obtain ⟨rg, rgs, rfl⟩ := List.exists_cons_of_ne_nil hne
  simp [firstTable, h rg (List.mem_cons_self _ _), Except.toOption]

/-- A library whose `parse` finds, in any range, a table with one memory device, with the two
    entry-point layouts of SMBIOS 2 and 3. -/
def oneDeviceLib : SmbiosLib where
  ahash _ := 0
  checksum _ := true
  v2 := ⟨ascii "_SM_", 0x1F, 5, by decide⟩
  v3 := ⟨ascii "_SM3_", 0x18, 6, by decide⟩
  epRange _ _ := (0xF0000, 0x1000)
  parse _ := .ok [⟨17, 8192, "", "DIMM-A", "0001", "", ""⟩]

/-- A machine with a blank BIOS window whose WMIp range, below 4 GB, maps. -/
def wmipHw : BiosHw where
  biosSpace := some fun _ => 0
  mapPhysical _ _ := some []
  wmipAddress := 0x7F000000
  wmipLength := 0x100
  cmosSerial := "00"

/-- Whatever entry points the scan finds, the first range tried parses, and the identifiers
    hold its memory device, untampered, with the CMOS serial. -/
theorem getBiosIdentifiers_eq_one_device :
    wmipHw.biosSpace = some (fun _ => 0) ∧
      ∃ isVm checks, scanBios oneDeviceLib.ahash oneDeviceLib.checksum oneDeviceLib.v2
          oneDeviceLib.v3 (fun _ => 0) = .ok (isVm, checks) ∧
        getBiosIdentifiers oneDeviceLib wmipHw =
          .ok { isVm, memoryDevices := [⟨"DIMM-A", "0001"⟩], cmosSerial := "00" } := by
  obtain ⟨isVm, checks, hscan, heq⟩ := getBiosIdentifiers_eq oneDeviceLib wmipHw _ rfl
  refine ⟨rfl, isVm, checks, hscan, ?_⟩
  have hfirst : firstTable oneDeviceLib wmipHw.mapPhysical (smbiosRanges oneDeviceLib wmipHw checks) =
      some [⟨17, 8192, "", "DIMM-A", "0001", "", ""⟩] := by
    refine firstTable_of_forall (by simp [smbiosRanges, wmipHw]) fun rg hrg => ?_
    have hlen : 4 ≤ rg.2 := by
      simp only [smbiosRanges, epRanges, oneDeviceLib, wmipHw, List.mem_append,
        List.mem_filterMap, Option.map_eq_some'] at hrg
      rcases hrg with ⟨_, _, _, _, rfl⟩ | hrg
      · decide
      · simp at hrg; rw [hrg]; decide
    simp [attempt, entryHeaderSize, Nat.not_lt.2 hlen, wmipHw, oneDeviceLib]
    rfl
  rw [heq, identifiersOf]
  simp only [hfirst]
  rfl

/-- The walk of a table appends to `memory_devices` the part number and serial of its type-17
    entries with a non-zero size, and to `asset_tags` the non-empty tags of those, the
    baseboards, the enclosures and the processors, both in table order. -/
theorem foldl_entryStep_appends (es : List SmbiosEntry) (r : BiosIdentifiers) :
    (es.foldl entryStep r).memoryDevices = r.memoryDevices ++
        (es.filter fun e => e.type = memoryDeviceType ∧ e.size ≠ 0).map
          (fun e => ⟨e.partNumber, e.serialNumber⟩) ∧
      (es.foldl entryStep r).assetTags = r.assetTags ++ (es.filter SmbiosEntry.givesTag).map (·.assetTag) :=
  ⟨foldl_entryStep_memoryDevices es r, foldl_entryStep_assetTags es r⟩

/-! ## `hwidCollectCpuBios` -/

theorem mem_destutter'_of_mem {α : Type} [DecidableEq α] {a b : α} :
    ∀ {l : List α}, b ∈ a :: l → b ∈ l.destutter' (· ≠ ·) a
  | [], h => by rw [List.mem_singleton.1 h]; exact List.mem_destutter' [] (· ≠ ·) a
  | c :: l, h => by
    by_cases hac : a = c
    · subst hac
      rw [List.destutter'_cons_neg _ (not_not.2 rfl)]
      exact mem_destutter'_of_mem (by simpa using h)
    · rw [List.destutter'_cons_pos _ hac]
      rcases List.mem_cons.1 h with rfl | h
      · exact List.mem_cons_self _ _
      · exact List.mem_cons_of_mem _ (mem_destutter'_of_mem h)

/-- `std::unique` keeps one element of each run, so it drops no value. -/
theorem mem_destutter_iff {α : Type} [DecidableEq α] {b : α} {l : List α} :
    b ∈ l.destutter (· ≠ ·) ↔ b ∈ l := by
  refine ⟨fun h => (List.destutter_sublist _ l).subset h, fun h => ?_⟩
  cases l with
  | nil => exact h
  | cons a l => rw [List.destutter_cons']; exact mem_destutter'_of_mem h

theorem chain'_lt_of_le_of_ne {α : Type} [PartialOrder α] :
    ∀ {l : List α}, l.Chain' (· ≤ ·) → l.Chain' (· ≠ ·) → l.Chain' (· < ·)
  | [], _, _ => List.chain'_nil
  | [_], _, _ => List.chain'_singleton _
  | _ :: _ :: _, hle, hne => by
    rw [List.chain'_cons] at hle hne ⊢
    exact ⟨lt_of_le_of_ne hle.1 hne.1, chain'_lt_of_le_of_ne hle.2 hne.2⟩

/-- `std::sort` then `std::unique` over `asset_tags`; `std::string`'s `<` compares the bytes as
    `String`'s compares their characters. -/
def uniqueTags (tags : List String) : List String :=
  (tags.insertionSort (· ≤ ·)).destutter (· ≠ ·)

theorem uniqueTags_sorted (tags : List String) : (uniqueTags tags).Sorted (· < ·) := by
  have hle : (uniqueTags tags).Sorted (· ≤ ·) :=
    (List.sorted_insertionSort _ tags).sublist (List.destutter_sublist _ _)
  exact List.chain'_iff_pairwise.1 (chain'_lt_of_le_of_ne hle.chain' (List.destutter_is_chain' _ _))

theorem mem_uniqueTags {t : String} {tags : List String} : t ∈ uniqueTags tags ↔ t ∈ tags :=
  mem_destutter_iff.trans (List.perm_insertionSort _ tags).mem_iff

/-- The bytes of `is_vm` as the characters of a `std::string`. -/
def bytesToString (bs : List UInt8) : String := String.mk (bs.map fun b => Char.ofNat b.toNat)

/-- `data["bios"]` as `hwidCollectCpuBios` writes it. -/
structure BiosJson where
  cmosSerial : String
  biosGuid : String
  biosSerial : String
  baseboardModel : String
  baseboardSerial : String
  memoryDevices : List BiosDevice
  assetTags : List String
deriving DecidableEq, Repr

/-- What `hwidCollectCpuBios` writes from `get_bios_identifiers()`: `data["bios"]`,
    `errors["biosError"]`, and its `flags`. -/
structure BiosReport where
  bios : Option BiosJson
  biosError : Option BiosError
  flags : List String
deriving DecidableEq, Repr

/-- The block of `hwidCollectCpuBios` on the result of `get_bios_identifiers()`. -/
def reportBios : Except BiosError BiosIdentifiers → BiosReport
  | .ok b =>
    let tags := uniqueTags b.assetTags
    { bios := some ⟨b.cmosSerial, b.sysGuid, b.sysSerial, b.baseboard.model, b.baseboard.serial,
        b.memoryDevices, tags⟩
      biosError := none
      flags := (if b.isTampered then ["spoofing.smbiosTampered"] else []) ++
        (if b.isVm.isEmpty then [] else ["vm.smbiosType1." ++ bytesToString b.isVm]) ++
        if tags.isEmpty then [] else ["corporate.smbiosAssetTag"] }
  | .error e => { bios := none, biosError := some e, flags := [] }

/-- `hwidCollectCpuBios` past `cpuBrand` and `cpuHash`. -/
def collectCpuBios (lib : SmbiosLib) (hw : BiosHw) : BiosReport := reportBios (getBiosIdentifiers lib hw)

theorem assetTagFlag_ne_vmFlag (s : String) : "corporate.smbiosAssetTag" ≠ "vm.smbiosType1." ++ s := by
  intro h
  have hhead : (some 'c' : Option Char) = some 'v' := congrArg (fun s => s.data.head?) h
  exact absurd hhead (by decide)

/-- The asset tags `hwidCollectCpuBios` reports are sorted and free of duplicates, they are the
    tags `get_bios_identifiers` collected, and `corporate.smbiosAssetTag` is flagged exactly when
    it collected one. -/
theorem reportBios_assetTags (b : BiosIdentifiers) :
    ∃ j, (reportBios (.ok b)).bios = some j ∧ j.assetTags.Sorted (· < ·) ∧
      (∀ t, t ∈ j.assetTags ↔ t ∈ b.assetTags) ∧
      ("corporate.smbiosAssetTag" ∈ (reportBios (.ok b)).flags ↔ b.assetTags ≠ []) := by
  refine ⟨_, rfl, uniqueTags_sorted _, fun _ => mem_uniqueTags, ?_⟩
  have hnil : (uniqueTags b.assetTags).isEmpty ↔ b.assetTags = [] := by
    simp only [List.isEmpty_iff, List.eq_nil_iff_forall_not_mem, mem_uniqueTags]
  simp only [reportBios, List.mem_append]
  split_ifs <;> simp_all [assetTagFlag_ne_vmFlag]

end Bios

end HvDetect
