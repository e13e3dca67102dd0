/-
  The scans of `hwid::get_bios_identifiers` (`hwid/bios.cpp`) over the BIOS
  window `bios_space`: `0x20000` bytes mapped from `0xE0000`.

  * `Window` is a content of the window and `readByte` is `bios_space[i]`,
    failing with the offset when it is not below `bios_space_length`; every
    read of the scans goes through it, so a scan that returns `.ok` read the
    window only inside it;
  * `vmScan` is the VM-string loop, with `matchIds` the loop over `vm_ids` at
    one offset; `anchorScan` the loop over `entry_points` and their 16-byte
    slots (`anchorSlots`), `memcmpEq` the `memcmp` with an anchor, and
    `checkEntryPoint` the two pointer checks on an entry point, then
    `checksum` and `parse_smbios`, each entry point that reaches `checksum`
    giving an `EpCheck`;
  * `scanBios_in_window`: for every content of the window and every layout of
    the two entry-point structures, the scans never read outside the window,
    and every entry point they check lies, with its `ep_length` bytes, inside
    it.
-/
import Mathlib.Data.List.Range
import Mathlib.Data.UInt

namespace HvDetect

namespace Bios

/-- `bios_space_base` -/
def biosSpaceBase : Nat := 0xE0000

/-- `bios_space_length` -/
def biosSpaceLength : Nat := 0x20000

/-- A content of the BIOS window. -/
def Window : Type := Fin biosSpaceLength → UInt8

/-- `bios_space[i]`: a byte of the window, or the offset of a read outside it. -/
def readByte (w : Window) (i : Nat) : Except Nat UInt8 :=
  if h : i < biosSpaceLength then pure (w ⟨i, h⟩) else throw i

/-- The `len` bytes of `bios_space` from `i`, read in turn. -/
def readRange (w : Window) (i : Nat) : Nat → Except Nat (List UInt8)
  | 0 => pure []
  | len + 1 => do
    let b ← readByte w i
    let bs ← readRange w (i + 1) len
    pure (b :: bs)

/-- The bytes of an ASCII string literal. -/
def ascii (s : String) : List UInt8 := s.toList.map Char.toUInt8

/-! ## The VM-string scan -/

/-- The strings of `vm_ids`. -/
def vmIdStrings : List String :=
  ["vmware", "parallels", "qemu", "vbox", "bochs", "openstack", "seabios", "innotek", "s3 corp",
    "red hat"]

/-- `vm_ids`: each string's length and its `xstd::make_ahash`, for the hash `ahash`, which
    `src/` takes from `xstd`. -/
def vmIds (ahash : List UInt8 → UInt64) : List (Nat × UInt64) :=
  vmIdStrings.map fun s => (s.length, ahash (ascii s))

/-- The loop over `vm_ids` at offset `n`: an id that would end past the window is skipped;
    otherwise its length of bytes from `n` is hashed, and the first match is what `is_vm` is
    assigned. -/
def matchIds (ahash : List UInt8 → UInt64) (w : Window) (n : Nat) :
    List (Nat × UInt64) → Except Nat (Option (List UInt8))
  | [] => pure none
  | (len, hash) :: ids =>
    if n + len > biosSpaceLength then matchIds ahash w n ids
    else do
      let bytes ← readRange w n len
      if ahash bytes = hash then pure (some bytes) else matchIds ahash w n ids

/-- `for (n = 0; result.is_vm.empty() && n != bios_space_length; n++)`, over the offsets
    `ns`, from `is_vm`. -/
def vmScan (ahash : List UInt8 → UInt64) (w : Window) (isVm : List UInt8) :
    List Nat → Except Nat (List UInt8)
  | [] => pure isVm
  | n :: ns =>
    if isVm.isEmpty then do
      let m ← matchIds ahash w n (vmIds ahash)
      vmScan ahash w (m.getD isVm) ns
    else pure isVm

/-! ## The anchor scan -/

/-- What the scan uses of an SMBIOS entry-point structure, which `src/` takes from
    `ia32::smbios`: its anchor, its size, and the offset of its `ep_length` byte, which lies
    inside it. -/
structure EpLayout where
  anchor : List UInt8
  size : Nat
  lengthOffset : Nat
  lengthInside : lengthOffset < size

/-- `entry_points`: each anchor with the physical range it is searched in. -/
def entryPoints : List (List UInt8 × Nat × Nat) :=
  [(ascii "_SM3_", 0xF0000, 0xFFFFF), (ascii "_SM_", 0xF0000, 0xFFFFF)]

/-- `for (n = low; n <= high - 0x10; n += 0x10)`: the slots of the range. -/
def anchorSlots (low high : Nat) : List Nat := List.range' low ((high - low) / 0x10) 0x10

/-- `!memcmp(&bios_space[i], anchor.data(), anchor.size())`, byte by byte up to the first
    difference. -/
def memcmpEq (w : Window) (i : Nat) : List UInt8 → Except Nat Bool
  | [] => pure true
  | a :: as => do
    if (← readByte w i) = a then memcmpEq w (i + 1) as else pure false

/-- An entry point that reaches `ia32::smbios::checksum(ep)`: its offset in the window, its
    layout, its `ep_length`, and, if the checksum holds, the bytes of the structure that
    `parse_smbios(ep->address, ep->total_length)` takes its arguments from. -/
structure EpCheck where
  off : Nat
  ep : EpLayout
  len : Nat
  parsed : Option (List UInt8)

/-- The checks on the entry point of layout `ep` at offset `off`: `std::next(ep)`, then
    `xstd::ptr_at(ep, ep->ep_length)`, against `&bios_space[bios_space_length]`. The verdict
    of `checksum`, which `src/` takes from `ia32::smbios`, is `checksum` of the `ep_length`
    bytes it sums. -/
def checkEntryPoint (checksum : List UInt8 → Bool) (w : Window) (ep : EpLayout) (off : Nat) :
    Except Nat (List EpCheck) :=
  if off + ep.size ≤ biosSpaceLength then do
    let len := (← readByte w (off + ep.lengthOffset)).toNat
    if off + len ≤ biosSpaceLength then do
      let bytes ← readRange w off len
      if checksum bytes then do
        let fields ← readRange w off ep.size
        pure [⟨off, ep, len, some fields⟩]
      else pure [⟨off, ep, len, none⟩]
    else pure []
  else pure []

/-- One slot `n` of an anchor: the `memcmp`, then the checks of the layout whose anchor it
    is, `anchor_v2`'s or `anchor_v3`'s. -/
def anchorSlot (checksum : List UInt8 → Bool) (w : Window) (v2 v3 : EpLayout) (anchor : List UInt8)
    (n : Nat) : Except Nat (List EpCheck) := do
  if ← memcmpEq w (n - biosSpaceBase) anchor then
    if anchor = v2.anchor then checkEntryPoint checksum w v2 (n - biosSpaceBase)
    else if anchor = v3.anchor then checkEntryPoint checksum w v3 (n - biosSpaceBase)
    else pure []
  else pure []

/-- The slots `ns` of one anchor, in turn. -/
def slotScan (checksum : List UInt8 → Bool) (w : Window) (v2 v3 : EpLayout) (anchor : List UInt8) :
    List Nat → Except Nat (List EpCheck)
  | [] => pure []
  | n :: ns => do
    let c ← anchorSlot checksum w v2 v3 anchor n
    let cs ← slotScan checksum w v2 v3 anchor ns
    pure (c ++ cs)

/-- The loop over `entry_points`. -/
def anchorScan (checksum : List UInt8 → Bool) (w : Window) (v2 v3 : EpLayout) :
    List (List UInt8 × Nat × Nat) → Except Nat (List EpCheck)
  | [] => pure []
  | (anchor, low, high) :: eps => do
    let c ← slotScan checksum w v2 v3 anchor (anchorSlots low high)
    let cs ← anchorScan checksum w v2 v3 eps
    pure (c ++ cs)

/-- The scans of `get_bios_identifiers` over the window: `is_vm`, and the entry points that
    reach `checksum`. -/
def scanBios (ahash : List UInt8 → UInt64) (checksum : List UInt8 → Bool) (v2 v3 : EpLayout)
    (w : Window) : Except Nat (List UInt8 × List EpCheck) := do
  let isVm ← vmScan ahash w [] (List.range biosSpaceLength)
  let checks ← anchorScan checksum w v2 v3 entryPoints
  pure (isVm, checks)

/-! ## Reads inside the window -/

theorem readByte_of_lt (w : Window) {i : Nat} (h : i < biosSpaceLength) :
    readByte w i = pure (w ⟨i, h⟩) :=
  dif_pos h

theorem readRange_ok (w : Window) : ∀ (i len : Nat), i + len ≤ biosSpaceLength →
    ∃ bs, readRange w i len = pure bs
  | _, 0, _ => ⟨[], rfl⟩
  | i, len + 1, h => by
    obtain ⟨bs, hbs⟩ := readRange_ok w (i + 1) len (by omega)
    exact ⟨_, by rw [readRange, readByte_of_lt w (by omega), pure_bind, hbs, pure_bind]⟩

theorem memcmpEq_ok (w : Window) : ∀ (i : Nat) (as : List UInt8), i + as.length ≤ biosSpaceLength →
    ∃ b, memcmpEq w i as = pure b
  | _, [], _ => ⟨true, rfl⟩
  | i, a :: as, h => by
    rw [List.length_cons] at h
    obtain ⟨b, hb⟩ := memcmpEq_ok w (i + 1) as (by omega)
    rw [memcmpEq, readByte_of_lt w (by omega), pure_bind]
    split
    · exact ⟨b, hb⟩
    · exact ⟨false, rfl⟩

/-! ## The VM-string scan -/

/-- At any offset, the loop over the ids reads only what fits in the window. -/
theorem matchIds_ok (ahash : List UInt8 → UInt64) (w : Window) (n : Nat) :
    ∀ ids, ∃ m, matchIds ahash w n ids = pure m
  | [] => ⟨none, rfl⟩
  | (len, hash) :: ids => by
    obtain ⟨m, hm⟩ := matchIds_ok ahash w n ids
    rw [matchIds]
    split
    · exact ⟨m, hm⟩
    · obtain ⟨bs, hbs⟩ := readRange_ok w n len (by omega)
      rw [hbs, pure_bind]
      split
      · exact ⟨_, rfl⟩
      · exact ⟨m, hm⟩

theorem vmScan_ok (ahash : List UInt8 → UInt64) (w : Window) :
    ∀ (isVm : List UInt8) (ns : List Nat), ∃ r, vmScan ahash w isVm ns = pure r
  | isVm, [] => ⟨isVm, rfl⟩
  | isVm, n :: ns => by
    rw [vmScan]
    split
    · obtain ⟨m, hm⟩ := matchIds_ok ahash w n (vmIds ahash)
      rw [hm, pure_bind]
      exact vmScan_ok ahash w _ ns
    · exact ⟨isVm, rfl⟩

/-! ## The anchor scan -/

/-- An entry point `checksum` is reached on lies inside the window, its `ep_length` is the
    window's byte at the field, and its `ep_length` bytes lie inside too. -/
def EpCheck.Inside (w : Window) (c : EpCheck) : Prop :=
  c.off + c.ep.size ≤ biosSpaceLength ∧ c.off + c.len ≤ biosSpaceLength ∧
    ∃ b, readByte w (c.off + c.ep.lengthOffset) = pure b ∧ c.len = b.toNat

/-- A part of the anchor scan that returns, every entry point it checked inside the window. -/
def Safe (w : Window) (x : Except Nat (List EpCheck)) : Prop :=
  ∃ cs, x = pure cs ∧ ∀ c ∈ cs, c.Inside w

section
variable {w : Window}

theorem safe_nil : Safe w (pure []) := ⟨[], rfl, by simp⟩

theorem Safe.append {x y : Except Nat (List EpCheck)} (hx : Safe w x) (hy : Safe w y) :
    Safe w (do let c ← x; let cs ← y; pure (c ++ cs)) := by
  obtain ⟨c, rfl, hc⟩ := hx
  obtain ⟨cs, rfl, hcs⟩ := hy
  exact ⟨c ++ cs, rfl, fun z hz => (List.mem_append.1 hz).elim (hc z) (hcs z)⟩

end

/-- The entry-point checks read the `ep_length` byte only inside a structure that fits, and
    reach `checksum` only when its `ep_length` bytes fit as well. -/
theorem checkEntryPoint_safe (checksum : List UInt8 → Bool) (w : Window) (ep : EpLayout) (off : Nat) :
    Safe w (checkEntryPoint checksum w ep off) := by
  unfold checkEntryPoint
  split
  case isFalse => exact safe_nil
  case isTrue hs =>
    have hl := ep.lengthInside
    rw [readByte_of_lt w (by omega), pure_bind]
    dsimp only
    split
    case isFalse => exact safe_nil
    case isTrue hlen =>
      have hin : EpCheck.Inside w ⟨off, ep, (w ⟨off + ep.lengthOffset, by omega⟩).toNat, none⟩ :=
        ⟨hs, hlen, _, readByte_of_lt w _, rfl⟩
      obtain ⟨bytes, hb⟩ := readRange_ok w off _ hlen
      rw [hb, pure_bind]
      split
      · obtain ⟨fields, hf⟩ := readRange_ok w off ep.size hs
        rw [hf, pure_bind]
        exact ⟨_, rfl, List.forall_mem_singleton.2 hin⟩
      · exact ⟨_, rfl, List.forall_mem_singleton.2 hin⟩

theorem anchorSlot_safe (checksum : List UInt8 → Bool) (w : Window) (v2 v3 : EpLayout)
    {anchor : List UInt8} {n : Nat} (h : n - biosSpaceBase + anchor.length ≤ biosSpaceLength) :
    Safe w (anchorSlot checksum w v2 v3 anchor n) := by
  obtain ⟨b, hb⟩ := memcmpEq_ok w _ anchor h
  unfold anchorSlot
  rw [hb, pure_bind]
  split
  · split
    · exact checkEntryPoint_safe checksum w v2 _
    · split
      · exact checkEntryPoint_safe checksum w v3 _
      · exact safe_nil
  · exact safe_nil

theorem slotScan_safe (checksum : List UInt8 → Bool) (w : Window) (v2 v3 : EpLayout) (anchor : List UInt8) :
    ∀ ns : List Nat, (∀ n ∈ ns, n - biosSpaceBase + anchor.length ≤ biosSpaceLength) →
      Safe w (slotScan checksum w v2 v3 anchor ns)
  | [], _ => safe_nil
  | n :: ns, h =>
    (anchorSlot_safe checksum w v2 v3 (h n (List.mem_cons_self n ns))).append
      (slotScan_safe checksum w v2 v3 anchor ns fun m hm => h m (List.mem_cons_of_mem n hm))

theorem anchorScan_safe (checksum : List UInt8 → Bool) (w : Window) (v2 v3 : EpLayout) :
    ∀ eps : List (List UInt8 × Nat × Nat),
      (∀ e ∈ eps, ∀ n ∈ anchorSlots e.2.1 e.2.2, n - biosSpaceBase + e.1.length ≤ biosSpaceLength) →
      Safe w (anchorScan checksum w v2 v3 eps)
  | [], _ => safe_nil
  | (anchor, _, _) :: eps, h =>
    (slotScan_safe checksum w v2 v3 anchor _ (h _ (List.mem_cons_self _ eps))).append
      (anchorScan_safe checksum w v2 v3 eps fun e he => h e (List.mem_cons_of_mem _ he))

/-- The slots are those of the loop: from `low` in steps of `0x10`, up to `high - 0x10`. -/
theorem mem_anchorSlots {low high n : Nat} :
    n ∈ anchorSlots low high ↔ low ≤ n ∧ n + 0x10 ≤ high ∧ (n - low) % 0x10 = 0 := by
  rw [anchorSlots, List.mem_range']
  constructor
  · rintro ⟨i, hi, rfl⟩
    omega
  · rintro ⟨hl, hh, hm⟩
    exact ⟨(n - low) / 0x10, by omega, by omega⟩

/-- Every anchor of `entry_points` fits in the window at every slot of its range, the last
    one included. -/
theorem entryPoints_fit :
    ∀ e ∈ entryPoints, ∀ n ∈ anchorSlots e.2.1 e.2.2, n - biosSpaceBase + e.1.length ≤ biosSpaceLength := by
  have hep : ∀ e ∈ entryPoints, e.1.length ≤ 5 ∧ e.2.2 = 0xFFFFF := by decide
  intro e he n hn
  have := (mem_anchorSlots.1 hn).2.1
  have := hep e he
  simp only [biosSpaceBase, biosSpaceLength]
  omega

/-- For every content of the BIOS window and every layout of the two entry-point structures,
    the scans read the window only inside it, and `checksum` and `parse_smbios` are reached
    only for an entry point that lies, with its `ep_length` bytes, inside the window. -/
theorem scanBios_in_window (ahash : List UInt8 → UInt64) (checksum : List UInt8 → Bool)
    (v2 v3 : EpLayout) (w : Window) :
    ∃ isVm checks, scanBios ahash checksum v2 v3 w = .ok (isVm, checks) ∧ ∀ c ∈ checks, c.Inside w := by
  obtain ⟨isVm, hv⟩ := vmScan_ok ahash w [] (List.range biosSpaceLength)
  obtain ⟨checks, hc, hin⟩ := anchorScan_safe checksum w v2 v3 entryPoints entryPoints_fit
  exact ⟨isVm, checks, by rw [scanBios, hv, pure_bind, hc, pure_bind]; rfl, hin⟩

end Bios

end HvDetect
