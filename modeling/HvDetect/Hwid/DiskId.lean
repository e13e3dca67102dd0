/-
  `hwid::get_disks` (`disk_id.cpp`): the NVMe and AHCI controllers of the PCI
  device list, identified in up to four rounds.

  * `PciConfig` is what `get_disks` reads of a device's configuration space;
    `NvmeProbe` and `AhciProbe` are what `nvme::identify` and `ahci::identify`
    find on one device in one round, and `DiskHw` gives them by round and
    device, with what `nt::read_pcid()` returns in each DPC;
  * `identifyDpc` is one `ntpp::call_dpc`, `identifyRound` the DPCs of one
    round (the NVMe devices first), `identifyRounds` the loop over the rounds
    and `getDisks` the whole function, which also counts the calls of
    `force_out_of_d3`;
  * `identifyRound_eq`: a round ORs the retry flags of the identify calls it
    makes into `retry`, never clearing it, and inserts what they found;
  * `getDisks_eq`: when no identify call faults, the first round decides the
    rest: with no retry asked `get_disks` stops after it, and otherwise it runs
    all four rounds whatever the later ones return, waking the disks after each
    of them, the last one included; the identifiers are the disks found in the
    rounds that ran, each once.
-/
import HvDetect.Hwid.Nvme
import HvDetect.Hwid.Ahci

namespace HvDetect

namespace DiskId

/-- A disk's model and serial number: what `disk_identifier::operator==` compares. -/
abbrev Disk := List UInt8 × List UInt8

/-- `identifiers.insert(id)` on the `std::unordered_set`: an identifier equal to one already
    there is not inserted. -/
def insertDisk (ids : List Disk) (d : Disk) : List Disk := if d ∈ ids then ids else ids ++ [d]

/-- The fields of a PCI device's configuration space that `get_disks` reads. -/
structure PciConfig where
  classCode : UInt8
  subClassCode : UInt8
  progIf : UInt8
  command : UInt16
deriving DecidableEq, Repr

def pciBaseClassStorage : UInt8 := 0x01

def pciSubClassStorageSata : UInt8 := 0x06

def pciSubClassStorageNvme : UInt8 := 0x08

/-- The filter of `nvme_devices`. -/
def isNvme (c : PciConfig) : Bool :=
  c.classCode == pciBaseClassStorage && c.subClassCode == pciSubClassStorageNvme

/-- The filter of `ahci_devices`: SATA storage with programming interface 1 (AHCI). -/
def isAhci (c : PciConfig) : Bool :=
  c.classCode == pciBaseClassStorage && c.subClassCode == pciSubClassStorageSata && c.progIf == 1

/-- `(device.config.command & 6) != 6`: memory space or bus mastering is off. -/
def asleep (c : PciConfig) : Bool := c.command &&& 6 != 6

/-- What `nvme::identify` finds on a device. -/
structure NvmeProbe where
  controller : Nvme.Controller
  aqcMem : Nat → Nvme.CompletionEntry
  aqsMem : Nat → Nvme.SubmissionEntry
  device : Nvme.Device
  idSpace : UInt64

/-- `nvme::identify(identifiers, device)`: whether to retry, and the disk it inserts. -/
def NvmeProbe.identify (p : NvmeProbe) : Except Nvme.QueueFault (Bool × List Disk) :=
  (Nvme.identify p.controller p.aqcMem p.aqsMem p.device p.idSpace).map
    fun o => (o.retry, o.disk.toList)

/-- What `ahci::identify` finds on a device. -/
structure AhciProbe where
  layout : Ahci.Layout
  env : Ahci.Env
  hba : Ahci.Hba

/-- `ahci::identify(identifiers, device)`: whether to retry, and the disks it inserts. -/
def AhciProbe.identify (p : AhciProbe) : Bool × List Disk :=
  (Ahci.identify p.layout p.env p.hba).2

/-- The machine `get_disks` runs on: by round and by position in `nvme_devices` or
    `ahci_devices`, what identify finds, and whether `nt::read_pcid()` is `0` in the DPC of
    each call of a round, the NVMe devices numbered first. -/
structure DiskHw where
  pcidZero : Nat → Nat → Bool
  nvme : Nat → Nat → NvmeProbe
  ahci : Nat → Nat → AhciProbe

section Rounds
variable {ε : Type}

/-- One `ntpp::call_dpc`: `if (nt::read_pcid() == 0) retry |= identify(identifiers, device)`,
    where identify returns whether to retry and the disks it inserted, or faults. -/
def identifyDpc (pcidZero : Bool) (r : Except ε (Bool × List Disk)) (st : Bool × List Disk) :
    Except ε (Bool × List Disk) :=
  if pcidZero then r.map fun r => (st.1 || r.1, r.2.foldl insertDisk st.2) else pure st

/-- The DPCs of one round over `retry` and `identifiers`. -/
def identifyRound (calls : List (Bool × Except ε (Bool × List Disk))) (st : Bool × List Disk) :
    Except ε (Bool × List Disk) :=
  calls.foldlM (fun st c => identifyDpc c.1 c.2 st) st

/-- `for (n = 0; n != 4; n++) { ...; if (!retry) break; force_out_of_d3(); }` from round `n`
    with `k` rounds left: the identifiers, and the calls of `force_out_of_d3` so far. -/
def identifyRounds (calls : Nat → List (Bool × Except ε (Bool × List Disk))) :
    Nat → Nat → Bool × List Disk → Nat → Except ε (List Disk × Nat)
  | 0, _, st, forces => pure (st.2, forces)
  | k + 1, n, st, forces => do
    let st ← identifyRound (calls n) st
    if st.1 then identifyRounds calls k (n + 1) st (forces + 1) else pure (st.2, forces)

end Rounds

/-- The DPCs of round `n` over `nvmes` NVMe and `ahcis` AHCI devices. -/
def roundCalls (hw : DiskHw) (nvmes ahcis n : Nat) :
    List (Bool × Except Nvme.QueueFault (Bool × List Disk)) :=
  (List.range nvmes).map (fun i => (hw.pcidZero n i, (hw.nvme n i).identify)) ++
    (List.range ahcis).map fun i => (hw.pcidZero n (nvmes + i), pure (hw.ahci n i).identify)

/-- `hwid::get_disks()`: the identifiers, and how often `force_out_of_d3` ran. -/
def getDisks (hw : DiskHw) (devices : List PciConfig) : Except Nvme.QueueFault (List Disk × Nat) :=
  let nvmeDevices := devices.filter isNvme
  let ahciDevices := devices.filter isAhci
  let inSleep := nvmeDevices.any asleep || ahciDevices.any asleep
  identifyRounds (roundCalls hw nvmeDevices.length ahciDevices.length) 4 0 (false, [])
    (if inSleep then 1 else 0)

/-! ## The identifiers -/

theorem mem_insertDisk {ids : List Disk} {d e : Disk} : e ∈ insertDisk ids d ↔ e ∈ ids ∨ e = d := by
  unfold insertDisk
  split <;> simp_all [or_iff_left_of_imp]

theorem nodup_insertDisk {ids : List Disk} (h : ids.Nodup) (d : Disk) : (insertDisk ids d).Nodup := by
  unfold insertDisk
  split
  · exact h
  · exact h.append (List.nodup_singleton d) (by simpa)

/-- Inserting a list of disks gives the disks of both, each once. -/
theorem foldl_insertDisk (ds : List Disk) : ∀ {ids : List Disk}, ids.Nodup →
    (ds.foldl insertDisk ids).Nodup ∧ ∀ e, e ∈ ds.foldl insertDisk ids ↔ e ∈ ids ∨ e ∈ ds := by
  induction ds with
  | nil => simp
  | cons d ds ih =>
    intro ids h
    obtain ⟨hn, hm⟩ := ih (nodup_insertDisk h d)
    refine ⟨hn, fun e => ?_⟩
    rw [List.foldl_cons, hm, mem_insertDisk, List.mem_cons]
    tauto

/-! ## The rounds -/

section Spec
variable {ε : Type}

/-- What a DPC's identify returned, `(false, [])` if it faulted. -/
def okResult : Except ε (Bool × List Disk) → Bool × List Disk
  | .ok r => r
  | .error _ => (false, [])

/-- The disks the identify calls of a round found, in order. -/
def found (calls : List (Bool × Except ε (Bool × List Disk))) : List Disk :=
  calls.flatMap fun c => if c.1 then (okResult c.2).2 else []

/-- Whether an identify call of a round asked for a retry. -/
def asksRetry (calls : List (Bool × Except ε (Bool × List Disk))) : Bool :=
  calls.any fun c => c.1 && (okResult c.2).1

/-- No identify call of a round faults. -/
def NoFault (calls : List (Bool × Except ε (Bool × List Disk))) : Prop :=
  ∀ c ∈ calls, c.1 = true → ∃ r, c.2 = .ok r

theorem identifyDpc_eq {b : Bool} {r : Except ε (Bool × List Disk)} (st : Bool × List Disk)
    (h : b = true → ∃ r', r = .ok r') :
    identifyDpc b r st = pure (st.1 || (b && (okResult r).1),
      (if b then (okResult r).2 else []).foldl insertDisk st.2) := by
  cases b
  · simp [identifyDpc]
  · obtain ⟨r', rfl⟩ := h rfl
    rfl

/-- A round with no fault ORs the retry flags of its calls into `retry`, never clearing it,
    and inserts the disks they found. -/
theorem identifyRound_eq : ∀ {calls : List (Bool × Except ε (Bool × List Disk))}
    {st : Bool × List Disk}, NoFault calls →
      identifyRound calls st = pure (st.1 || asksRetry calls, (found calls).foldl insertDisk st.2)
  | [], st, _ => by simp [identifyRound, found, asksRetry]
  | c :: calls, st, h => by
    rw [identifyRound, List.foldlM_cons, identifyDpc_eq st (h c (List.mem_cons_self _ _)),
      pure_bind, ← identifyRound, identifyRound_eq fun c' hc' => h c' (List.mem_cons_of_mem _ hc')]
    simp [found, asksRetry, Bool.or_assoc, List.foldl_append]

/-- Once `retry` is set, every round left runs, whatever it returns, each followed by a call of
    `force_out_of_d3`. -/
theorem identifyRounds_of_retry {calls : Nat → List (Bool × Except ε (Bool × List Disk))} :
    ∀ {k n : Nat} {st : Bool × List Disk} {forces : Nat},
      (∀ m, n ≤ m → m < n + k → NoFault (calls m)) → st.1 = true →
        identifyRounds calls k n st forces =
          pure (((List.range' n k).flatMap fun m => found (calls m)).foldl insertDisk st.2,
            forces + k)
  | 0, _, _, _, _, _ => rfl
  | k + 1, n, st, forces, h, hr => by
    rw [identifyRounds, identifyRound_eq (h n le_rfl (by omega)), pure_bind]
    dsimp only
    rw [hr, Bool.true_or, if_pos rfl, identifyRounds_of_retry (fun m h₁ h₂ => h m (by omega) (by omega))
      rfl, List.range'_succ, List.flatMap_cons, List.foldl_append,
      Nat.add_right_comm forces 1 k]
    rfl

/-- The four rounds from an empty set: the first one, then either nothing more or all three
    others. -/
theorem identifyRounds_four {calls : Nat → List (Bool × Except ε (Bool × List Disk))}
    (h : ∀ m < 4, NoFault (calls m)) (forces : Nat) :
    identifyRounds calls 4 0 (false, []) forces =
      pure (((List.range (if asksRetry (calls 0) then 4 else 1)).flatMap fun m => found (calls m)).foldl
          insertDisk [], forces + if asksRetry (calls 0) then 4 else 0) := by
  rw [identifyRounds, identifyRound_eq (h 0 (by omega)), pure_bind]
  dsimp only
  rw [Bool.false_or]
  cases hr : asksRetry (calls 0)
  · rw [if_neg Bool.false_ne_true, if_neg Bool.false_ne_true, if_neg Bool.false_ne_true,
      show List.range 1 = [0] from rfl, List.flatMap_cons, List.flatMap_nil, List.append_nil]
    rfl
  · rw [if_pos rfl, if_pos rfl, if_pos rfl, identifyRounds_of_retry (fun m _ h₂ => h m (by omega)) rfl,
      show List.range 4 = 0 :: List.range' 1 3 from rfl, List.flatMap_cons, List.foldl_append]

end Spec

/-- The DPCs of a round fault only where an NVMe identify does. -/
theorem noFault_roundCalls {hw : DiskHw} {nvmes ahcis n : Nat}
    (h : ∀ i < nvmes, hw.pcidZero n i = true → ∃ r, (hw.nvme n i).identify = .ok r) :
    NoFault (roundCalls hw nvmes ahcis n) := by
  intro c hc hp
  simp only [roundCalls, List.mem_append, List.mem_map, List.mem_range] at hc
  rcases hc with ⟨i, hi, rfl⟩ | ⟨i, -, rfl⟩
  · exact h i hi hp
  · exact ⟨_, rfl⟩

/-- For every PCI device list and every machine on which no NVMe identify faults, the first
    round decides what `get_disks` does: with no retry asked it stops there, and otherwise it
    runs all four rounds, whatever the later three return, calling `force_out_of_d3` after
    each, the last one included. The identifiers are the disks found in the rounds that ran,
    each once. -/
theorem getDisks_eq {hw : DiskHw} {devices : List PciConfig}
    (h : ∀ n < 4, ∀ i < (devices.filter isNvme).length, hw.pcidZero n i = true →
      ∃ r, (hw.nvme n i).identify = .ok r) :
    let calls := roundCalls hw (devices.filter isNvme).length (devices.filter isAhci).length
    let inSleep := (devices.filter isNvme).any asleep || (devices.filter isAhci).any asleep
    ∃ ids, getDisks hw devices =
        pure (ids, (if inSleep then 1 else 0) + if asksRetry (calls 0) then 4 else 0) ∧
      ids.Nodup ∧
      ∀ d, d ∈ ids ↔ ∃ n < (if asksRetry (calls 0) then 4 else 1), d ∈ found (calls n) := by
  intro calls inSleep
  refine ⟨_, identifyRounds_four (fun m hm => noFault_roundCalls (h m hm)) _, ?_⟩
  obtain ⟨hn, hm⟩ := foldl_insertDisk ((List.range (if asksRetry (calls 0) then 4 else 1)).flatMap
    fun m => found (calls m)) List.nodup_nil
  exact ⟨hn, fun d => by simp [hm]⟩

/-- A machine whose NVMe controllers have no BAR set, so that every `nvme::identify` asks for a
    retry, and whose AHCI HBAs are absent. -/
def unsetHw : DiskHw where
  pcidZero _ _ := true
  nvme _ _ := ⟨⟨0, false, false, 0, 0, 0, 0, false, false⟩, fun _ => ⟨0, false⟩, fun _ => ⟨0, 0, 0⟩,
    ⟨false, false, fun _ => 0⟩, 0⟩
  ahci _ _ := ⟨⟨1, 5, 0⟩, ⟨fun _ => false, fun _ => false, fun _ => [], fun _ => []⟩,
    ⟨0, false, false, 0, 0, 0, fun _ => ⟨0, 0, 0, 0, 0⟩⟩⟩

/-- An NVMe controller with memory space and bus mastering on. -/
def awakeNvme : PciConfig := ⟨0x01, 0x08, 0x02, 0x0006⟩

theorem getDisks_eq_unset :
    (∀ n < 4, ∀ i < ([awakeNvme].filter isNvme).length, unsetHw.pcidZero n i = true →
      ∃ r, (unsetHw.nvme n i).identify = .ok r) ∧
    let calls := roundCalls unsetHw ([awakeNvme].filter isNvme).length ([awakeNvme].filter isAhci).length
    let inSleep := ([awakeNvme].filter isNvme).any asleep || ([awakeNvme].filter isAhci).any asleep
    ∃ ids, getDisks unsetHw [awakeNvme] =
        pure (ids, (if inSleep then 1 else 0) + if asksRetry (calls 0) then 4 else 0) ∧
      ids.Nodup ∧
      ∀ d, d ∈ ids ↔ ∃ n < (if asksRetry (calls 0) then 4 else 1), d ∈ found (calls n) :=
  have h : ∀ n < 4, ∀ i < ([awakeNvme].filter isNvme).length, unsetHw.pcidZero n i = true →
      ∃ r, (unsetHw.nvme n i).identify = .ok r := fun _ _ _ _ _ => ⟨_, rfl⟩
  ⟨h, getDisks_eq h⟩

end DiskId

end HvDetect
