/-
  Two collectors of `hwid.cpp`: `hwidCollectPci` over the PCI device list and
  `hwidCollectNet` over the IPv4 neighbour table.

  * `pciStep` is one turn of the loop over `ia32::pci::get_device_list()`:
    the device's object, `is_vm |= vendor == 0x15ad`, and `has_gpu` for a
    display device of one of four vendors; `collectPci` writes `data["pci"]`
    and the flags only for a non-empty list;
  * `collectPci_eq`: the list holds every device in order, `vm.vmwarePci` is
    flagged exactly when a VMware device is present and `vm.pciNoGpu`
    exactly when no display device comes from those vendors;
  * `netStep` is one turn of the loop over `mib_ipnet_t::query(AF_INET)`,
    with the three skips and the unused `classcounter`; `Ipv4Address.asInt`
    reads the four bytes as the little-endian `uint32_t` `as_int()` does,
    and `bswapd` reverses the bytes of a `uint32_t`;
  * `collectNet_eq`: the neighbours are the rows that pass the skips, in
    order, each with its address in network order, the first byte on top;
  * `walkStep` is one turn of the walk of `hwidCollectUefi` over the
    environment values, following `next_entry_offset`, and `spanStep` its
    `switch` on the name's hash; `collectUefi_eq`: on a buffer whose chain
    ends, the walk returns, and each of the four values reported is the last
    one of its name along the chain.
-/
import HvDetect.While
import Mathlib.Data.BitVec
import Mathlib.Data.List.Basic

namespace HvDetect

namespace Collect

/-! ## `hwidCollectPci` -/

/-- What `hwidCollectPci` reads of a device: its configuration identifiers, `subsystem`, and
    its address. -/
structure PciDevice where
  vendorId : UInt16
  deviceId : UInt16
  subsystem : UInt32
  classCode : UInt8
  subClassCode : UInt8
  function : UInt8
  bus : UInt8
  device : UInt8
deriving DecidableEq, Repr

/-- The object written for a device: `subsystem` only when it is non-zero. -/
structure PciJson where
  vendor : UInt16
  device : UInt16
  subsystem : Option UInt32
  classCode : UInt8
  subclass : UInt8
  pciFun : UInt8
  pciBus : UInt8
  pciDev : UInt8
deriving DecidableEq, Repr

/-- `cbor::object_t obj` of the loop body. -/
def PciDevice.toJson (d : PciDevice) : PciJson :=
  ⟨d.vendorId, d.deviceId, if d.subsystem ≠ 0 then some d.subsystem else none, d.classCode,
    d.subClassCode, d.function, d.bus, d.device⟩

/-- `PCI_BASE_CLASS_DISPLAY` -/
def pciBaseClassDisplay : UInt8 := 0x03

/-- The display vendors `has_gpu` accepts: AMD (`0x1002`, `0x1022`), Intel and NVIDIA. -/
def isGpuVendor (v : UInt16) : Bool := v == 0x1002 || v == 0x1022 || v == 0x8086 || v == 0x10de

/-- One turn of `for (auto& dev : pci_devices)` on `(pci_list, is_vm, has_gpu)`. -/
def pciStep (acc : List PciJson × Bool × Bool) (dev : PciDevice) : List PciJson × Bool × Bool :=
  (acc.1 ++ [dev.toJson], acc.2.1 || dev.vendorId == 0x15ad,
    if dev.classCode = pciBaseClassDisplay then acc.2.2 || isGpuVendor dev.vendorId else acc.2.2)

/-- What `hwidCollectPci` writes: `data["pci"]` and `flags`. -/
structure PciReport where
  pci : Option (List PciJson)
  flags : List String
deriving DecidableEq, Repr

/-- `hwidCollectPci()` on the device list. -/
def collectPci (devices : List PciDevice) : PciReport :=
  if devices.isEmpty then ⟨none, []⟩
  else
    let (list, isVm, hasGpu) := devices.foldl pciStep ([], false, false)
    ⟨some list, (if isVm then ["vm.vmwarePci"] else []) ++ if !hasGpu then ["vm.pciNoGpu"] else []⟩

/-- Whether a device makes `has_gpu` true. -/
def PciDevice.isGpu (d : PciDevice) : Bool := d.classCode = pciBaseClassDisplay && isGpuVendor d.vendorId

theorem foldl_pciStep (devices : List PciDevice) (acc : List PciJson × Bool × Bool) :
    devices.foldl pciStep acc =
      (acc.1 ++ devices.map PciDevice.toJson, acc.2.1 || devices.any (·.vendorId == 0x15ad),
        acc.2.2 || devices.any PciDevice.isGpu) := by
  induction devices generalizing acc with
  | nil => simp
  | cons d ds ih =>
    rw [List.foldl_cons, ih]
    by_cases hd : d.classCode = pciBaseClassDisplay <;>
      simp [pciStep, PciDevice.isGpu, hd, Bool.or_assoc]

/-- For every device list: a non-empty one is written in order, `vm.vmwarePci` is flagged
    exactly when a VMware device is present, and `vm.pciNoGpu` exactly when no display device
    comes from AMD, Intel or NVIDIA; an empty one writes nothing and flags nothing. -/
theorem collectPci_eq (devices : List PciDevice) :
    collectPci devices =
      if devices = [] then ⟨none, []⟩
      else
        ⟨some (devices.map PciDevice.toJson),
          (if devices.any (·.vendorId == 0x15ad) then ["vm.vmwarePci"] else []) ++
            if devices.any PciDevice.isGpu then [] else ["vm.pciNoGpu"]⟩ := by
  rw [collectPci, foldl_pciStep]
  cases devices with
  | nil => rfl
  | cons d ds => cases (d :: ds).any PciDevice.isGpu <;> rfl

/-! ## `hwidCollectNet` -/

/-- `net::ipv4_address`: its four bytes in memory order. -/
structure Ipv4Address where
  b0 : UInt8
  b1 : UInt8
  b2 : UInt8
  b3 : UInt8
deriving DecidableEq, Repr

/-- `as_int()`: the four bytes read as a little-endian `uint32_t`. -/
def Ipv4Address.asInt (a : Ipv4Address) : Nat :=
  a.b0.toNat + a.b1.toNat * 2 ^ 8 + a.b2.toNat * 2 ^ 16 + a.b3.toNat * 2 ^ 24

/-- `bswapd`: the bytes of a `uint32_t` in reverse order. -/
def bswapd (x : Nat) : Nat :=
  x % 2 ^ 8 * 2 ^ 24 + x / 2 ^ 8 % 2 ^ 8 * 2 ^ 16 + x / 2 ^ 16 % 2 ^ 8 * 2 ^ 8 + x / 2 ^ 24 % 2 ^ 8

/-- What the loop reads of a `mib_ipnet_t` row: its IPv4 address, the bytes of
    `physical_address` (the first six are `mac_address`), and `physical_address_length`. -/
structure IpNetRow where
  address : Ipv4Address
  physicalAddress : List UInt8
  physicalAddressLength : UInt32
deriving DecidableEq, Repr

/-- `*(uint32_t*)&u.physical_address[0]` -/
def IpNetRow.physWord (u : IpNetRow) : Nat :=
  (u.physicalAddress.getD 0 0).toNat + (u.physicalAddress.getD 1 0).toNat * 2 ^ 8 +
    (u.physicalAddress.getD 2 0).toNat * 2 ^ 16 + (u.physicalAddress.getD 3 0).toNat * 2 ^ 24

/-- The object written for a neighbour: `ip` and `phys`. -/
structure Neighbour where
  ip : Nat
  phys : List UInt8
deriving DecidableEq, Repr

/-- One turn of `for (auto& u : *ipnet)` on `(classcounter, neighbours)`: multicast addresses,
    null or full addresses and physical words, and physical addresses that are not six bytes
    long are skipped. -/
def netStep (acc : Int × List Neighbour) (u : IpNetRow) : Int × List Neighbour :=
  if 224 ≤ u.address.b0 ∧ u.address.b0 ≤ 239 then acc
  else if u.address.asInt = 0 ∨ u.address.asInt = 0xFFFFFFFF ∨ u.physWord = 0xFFFFFFFF ∨
      u.physWord = 0 then acc
  else if u.physicalAddressLength ≠ 6 then acc
  else
    (acc.1 + if u.address.b0 = 10 then 1 else -1,
      acc.2 ++ [⟨bswapd u.address.asInt, u.physicalAddress.take 6⟩])

/-- `hwidCollectNet()`: `net["neighbours"]`, written when the table can be queried. -/
def collectNet (table : Option (List IpNetRow)) : Option (List Neighbour) :=
  table.map fun rows => (rows.foldl netStep (0, [])).2

/-- Whether a row passes the three skips. -/
def IpNetRow.kept (u : IpNetRow) : Prop :=
  ¬(224 ≤ u.address.b0 ∧ u.address.b0 ≤ 239) ∧
    ¬(u.address.asInt = 0 ∨ u.address.asInt = 0xFFFFFFFF ∨ u.physWord = 0xFFFFFFFF ∨
      u.physWord = 0) ∧
    ¬u.physicalAddressLength ≠ 6

instance (u : IpNetRow) : Decidable u.kept := inferInstanceAs (Decidable (_ ∧ _ ∧ _))

theorem netStep_snd (acc : Int × List Neighbour) (u : IpNetRow) :
    (netStep acc u).2 =
      acc.2 ++ if u.kept then [⟨bswapd u.address.asInt, u.physicalAddress.take 6⟩] else [] := by
  unfold netStep
  by_cases h1 : 224 ≤ u.address.b0 ∧ u.address.b0 ≤ 239
  · rw [if_pos h1, if_neg fun h => h.1 h1, List.append_nil]
  rw [if_neg h1]
  by_cases h2 : u.address.asInt = 0 ∨ u.address.asInt = 0xFFFFFFFF ∨ u.physWord = 0xFFFFFFFF ∨
      u.physWord = 0
  · rw [if_pos h2, if_neg fun h => h.2.1 h2, List.append_nil]
  rw [if_neg h2]
  by_cases h3 : u.physicalAddressLength ≠ 6
  · rw [if_pos h3, if_neg fun h => h.2.2 h3, List.append_nil]
  rw [if_neg h3, if_pos (show u.kept from ⟨h1, h2, h3⟩)]

/-- `bswapd(as_int())` is the address in network order: the first byte in memory on top. -/
theorem bswapd_asInt (a : Ipv4Address) :
    bswapd a.asInt = a.b0.toNat * 2 ^ 24 + a.b1.toNat * 2 ^ 16 + a.b2.toNat * 2 ^ 8 + a.b3.toNat := by
  have : a.b0.toNat < 2 ^ 8 := a.b0.toNat_lt_size
  have : a.b1.toNat < 2 ^ 8 := a.b1.toNat_lt_size
  have : a.b2.toNat < 2 ^ 8 := a.b2.toNat_lt_size
  have : a.b3.toNat < 2 ^ 8 := a.b3.toNat_lt_size
  simp only [bswapd, Ipv4Address.asInt]
  omega

example : bswapd (Ipv4Address.asInt ⟨192, 168, 0, 1⟩) = 0xC0A80001 := by decide

theorem foldl_netStep (rows : List IpNetRow) (acc : Int × List Neighbour) :
    (rows.foldl netStep acc).2 =
      acc.2 ++ (rows.filter IpNetRow.kept).map fun u => ⟨bswapd u.address.asInt, u.physicalAddress.take 6⟩ := by
  induction rows generalizing acc with
  | nil => simp
  | cons u us ih =>
    rw [List.foldl_cons, ih, netStep_snd, List.filter_cons]
    by_cases hk : u.kept <;> simp [hk]

/-- For every neighbour table: the neighbours written are the rows that pass the skips, in
    table order, each with its address in network order and the six bytes of its MAC. -/
theorem collectNet_eq (rows : List IpNetRow) :
    collectNet (some rows) = some ((rows.filter IpNetRow.kept).map fun u =>
      ⟨u.address.b0.toNat * 2 ^ 24 + u.address.b1.toNat * 2 ^ 16 + u.address.b2.toNat * 2 ^ 8 +
        u.address.b3.toNat, u.physicalAddress.take 6⟩) := by
  simp only [collectNet, Option.map_some', foldl_netStep, List.nil_append, bswapd_asInt]

/-! ## `hwidCollectUefi` -/

/-- What the walk reads of the entry of `ntpp::query_system_environment_values()` at an
    offset into the buffer: `next_entry_offset`, `name`, and the `value_length` bytes at
    `value_offset`. -/
structure EnvValue where
  nextEntryOffset : UInt32
  name : String
  value : List UInt8
deriving DecidableEq, Repr

/-- The four `std::span<uint8_t>` the walk keeps, by the case of the `switch` that sets each. -/
inductive UefiKey
  | platformKey
  | language
  | unlockId
  | offlineUniqueId
deriving DecidableEq, Repr

/-- The name each case of the `switch` hashes. -/
def UefiKey.name : UefiKey → String
  | .platformKey => "PK"
  | .language => "Lang"
  | .unlockId => "UnlockIDCopy"
  | .offlineUniqueId => "OfflineUniqueIDRandomSeed"

/-- The cases in the order of the `switch`. -/
def UefiKey.all : List UefiKey := [.platformKey, .language, .unlockId, .offlineUniqueId]

/-- The case `switch (xstd::make_ahash(&it->name[0]).as64())` takes. -/
def keyOf (ahash : String → UInt64) (name : String) : Option UefiKey :=
  UefiKey.all.find? fun k => ahash name = ahash k.name

/-- The body of the walk: the span of the entry's case becomes its value. -/
def spanStep (ahash : String → UInt64) (spans : UefiKey → List UInt8) (e : EnvValue) :
    UefiKey → List UInt8 :=
  match keyOf ahash e.name with
  | some k => Function.update spans k e.value
  | none => spans

/-- `it->next_entry_offset ? xstd::ptr_at(it, it->next_entry_offset) : any_ptr{ 0ull }` -/
def nextEntry (entryAt : Nat → EnvValue) (p : Nat) : Option Nat :=
  if (entryAt p).nextEntryOffset ≠ 0 then some (p + (entryAt p).nextEntryOffset.toNat) else none

/-- One turn of `for (auto it = std::to_address(values); it; it = ...)` on `(it, spans)`. -/
def walkStep (ahash : String → UInt64) (entryAt : Nat → EnvValue)
    (s : Option Nat × (UefiKey → List UInt8)) : Option Nat × (UefiKey → List UInt8) :=
  match s.1 with
  | none => s
  | some p => (nextEntry entryAt p, spanStep ahash s.2 (entryAt p))

/-- The walk from the start of the buffer with the four spans empty. -/
def walkValues (ahash : String → UInt64) (entryAt : Nat → EnvValue) : Part (UefiKey → List UInt8) :=
  (whileLoop (fun s => s.1.isSome) (walkStep ahash entryAt) (some 0, fun _ => [])).map (·.2)

/-- What `hwidCollectUefi` writes into `data["uefi"]`: `language`, the bytes of the language
    up to its first NUL, and the three `sha256` digests, each only for a non-empty span. -/
structure UefiData where
  language : Option (List UInt8)
  platformKeyHash : Option String
  unlockIdHash : Option String
  offlineUniqueIdHash : Option String
deriving DecidableEq, Repr

/-- The writes after the walk, with `xstd::make_hash<xstd::sha256>(...).to_string()` as
    `sha256`. -/
def uefiData (sha256 : List UInt8 → String) (spans : UefiKey → List UInt8) : UefiData :=
  let digest := fun k => if (spans k).isEmpty then none else some (sha256 (spans k))
  ⟨if (spans .language).isEmpty then none else some ((spans .language).takeWhile (· ≠ 0)),
    digest .platformKey, digest .unlockId, digest .offlineUniqueId⟩

/-- What `hwidCollectUefi` writes: `data["uefi"]`, on UEFI firmware, and
    `errors["uefiError"]`. -/
structure UefiReport where
  uefi : Option UefiData
  uefiError : Option String
deriving DecidableEq, Repr

/-- `hwidCollectUefi()` on the firmware type and what `query_system_environment_values()`
    returns: the entries of the buffer, or the status it fails with. -/
def collectUefi (ahash : String → UInt64) (sha256 : List UInt8 → String) (isUefi : Bool)
    (values : Except String (Nat → EnvValue)) : Part UefiReport :=
  if !isUefi then Part.some ⟨none, none⟩
  else
    match values with
    | .error status => Part.some ⟨some ⟨none, none, none, none⟩, some status⟩
    | .ok entryAt => (walkValues ahash entryAt).map fun spans => ⟨some (uefiData sha256 spans), none⟩

/-- The offsets of the entries the walk visits from `p`, at most `n` of them. -/
def chainFrom (entryAt : Nat → EnvValue) : Nat → Nat → List Nat
  | 0, _ => []
  | n + 1, p => p :: match nextEntry entryAt p with
    | none => []
    | some q => chainFrom entryAt n q

/-- Whether the chain from `p` reaches, within `n` entries, one whose `next_entry_offset` is 0. -/
def endsWithin (entryAt : Nat → EnvValue) : Nat → Nat → Bool
  | 0, _ => false
  | n + 1, p => match nextEntry entryAt p with
    | none => true
    | some q => endsWithin entryAt n q

/-- The value of the last entry along `es` whose name takes the case `k`, or none. -/
def lastValue (ahash : String → UInt64) (es : List EnvValue) (k : UefiKey) : List UInt8 :=
  (((es.filter fun e => keyOf ahash e.name = some k).getLast?).map (·.value)).getD []

theorem spanStep_apply (ahash : String → UInt64) (spans : UefiKey → List UInt8) (e : EnvValue)
    (k : UefiKey) :
    spanStep ahash spans e k = if keyOf ahash e.name = some k then e.value else spans k := by
  unfold spanStep
  cases keyOf ahash e.name with
  | none => simp
  | some k' =>
    by_cases h : k = k'
    · subst h; simp
    · simp [Function.update_noteq h, Ne.symm h]

theorem foldl_spanStep (ahash : String → UInt64) (es : List EnvValue) (spans : UefiKey → List UInt8)
    (k : UefiKey) :
    es.foldl (spanStep ahash) spans k =
      (((es.filter fun e => keyOf ahash e.name = some k).getLast?).map (·.value)).getD (spans k) := by
  induction es generalizing spans with
  | nil => rfl
  | cons e es ih =>
    rw [List.foldl_cons, ih, spanStep_apply, List.filter_cons]
    cases hlast : (es.filter fun e => keyOf ahash e.name = some k).getLast? <;>
      by_cases hk : keyOf ahash e.name = some k <;> simp [hk, hlast, List.getLast?_cons]

theorem whileLoop_walkStep (ahash : String → UInt64) (entryAt : Nat → EnvValue) (n p : Nat)
    (spans : UefiKey → List UInt8) (hends : endsWithin entryAt n p = true) :
    whileLoop (fun s => s.1.isSome) (walkStep ahash entryAt) (some p, spans) =
      Part.some (none, ((chainFrom entryAt n p).map entryAt).foldl (spanStep ahash) spans) := by
  induction n generalizing p spans with
  | zero => cases hends
  | succ n ih =>
    rw [whileLoop_of_true rfl]
    unfold endsWithin at hends
    simp only [walkStep, chainFrom]
    cases hnext : nextEntry entryAt p with
    | none => exact whileLoop_of_false rfl
    | some q =>
      rw [hnext] at hends
      exact ih q _ hends

/-- For every buffer whose chain of `next_entry_offset` reaches a zero within `n` entries and
    every hash: on UEFI firmware, `hwidCollectUefi` returns, and reports for each of the four
    names the value of the last entry of that name along the chain, the language up to its
    first NUL and the other three as their `sha256`, each only when non-empty. -/
theorem collectUefi_eq (ahash : String → UInt64) (sha256 : List UInt8 → String)
    (entryAt : Nat → EnvValue) (n : Nat) (hends : endsWithin entryAt n 0 = true) :
    collectUefi ahash sha256 true (.ok entryAt) =
      Part.some ⟨some (uefiData sha256 (lastValue ahash ((chainFrom entryAt n 0).map entryAt))),
        none⟩ := by
  have hspans : ((chainFrom entryAt n 0).map entryAt).foldl (spanStep ahash) (fun _ => []) =
      lastValue ahash ((chainFrom entryAt n 0).map entryAt) :=
    funext fun k => foldl_spanStep ahash _ _ k
  simp only [collectUefi, Bool.not_true, Bool.false_eq_true, if_false, walkValues,
    whileLoop_walkStep ahash entryAt n 0 _ hends, Part.map_some, hspans]

/-- A buffer of three entries: `Lang` holding `fr`, `PK`, and `Lang` again holding `en`. -/
def threeValues : Nat → EnvValue
  | 0 => ⟨8, "Lang", [102, 114, 0]⟩
  | 8 => ⟨8, "PK", [1]⟩
  | _ => ⟨0, "Lang", [101, 110, 0, 7]⟩

/-- The walk over `threeValues` reports the second `Lang`, cut at its NUL, and the digest of
    `PK`. -/
theorem collectUefi_eq_three_entries :
    endsWithin threeValues 3 0 = true ∧
      collectUefi (fun s => s.length.toUInt64) (fun v => toString v.length) true
          (.ok threeValues) =
        Part.some ⟨some ⟨some [101, 110], some "1", none, none⟩, none⟩ := by
  refine ⟨rfl, ?_⟩
  rw [collectUefi_eq (fun s => s.length.toUInt64) (fun v => toString v.length) threeValues 3 rfl]
  rfl

end Collect

end HvDetect
