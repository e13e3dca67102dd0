/-
  `ahci::identify` (`hwid/ahci.hpp`): one ATA IDENTIFY on every implemented
  port of an AHCI controller, through a free command slot.

  * `Hba` is what `identify` reads of the HBA, `Port` the registers of one
    port; `Env` is the rest of the machine: whether a command list maps, and
    what the drive does with the command;
  * the code's effect on the HBA is the list of its writes in order
    (`HbaWrite`): a command header of a port's command list, a bit set in
    `PxCI` to issue, and the bit cleared again after a timeout;
  * `lsb` is `xstd::lsb`, `identifyPort` the lambda run for each implemented
    port, `identify` the whole function, whose writes are those of its ports
    in turn (`identify_writes`);
  * `identifyPort_writes`: a port that gets as far as issuing has its header
    written in slot `0` and its command issued in the first free slot, which
    `lsb_free_slot` shows is clear in `PxSACT | PxCI`; so the header written
    is a busy slot's whenever bit `0` is set there
    (`identify_header_of_busy_port` on every controller, and
    `identify_header_of_busy_slot` on one).
-/
import Mathlib.Data.List.Range
import Mathlib.Data.UInt

namespace HvDetect

namespace Ahci

/-- The fields of an `hba_command_header` that `identify` sets after zeroing it. -/
structure CommandHeader where
  commandTableBase : UInt64
  fisLength : Nat
  write : Bool
  lenPrdt : Nat
deriving DecidableEq, Repr

/-- The registers of a port that `identify` reads. -/
structure Port where
  signature : UInt32
  commandListLo : UInt32
  commandListHi : UInt32
  sataActive : UInt32
  commandIssue : UInt32

/-- What `identify` reads of the controller: `abar`, whether the HBA maps, whether every
    dword of its first `0x400` bytes reads `0xFFFFFFFF`, `global_host_control`,
    `host_capabilities`, `ports_implemented` and `ports[bit]`. -/
structure Hba where
  abar : UInt32
  mapped : Bool
  probeAllOnes : Bool
  globalHostControl : UInt32
  hostCapabilities : UInt32
  portsImplemented : UInt32
  ports : Nat → Port

/-- The constants `identify` takes from outside `src/`: `alignof(hba_command_list)`,
    `sizeof(fis_h2d) / 4` and the physical address of `id->table`. -/
structure Layout where
  listAlign : Nat
  fisDwords : Nat
  tableBase : UInt64

/-- The rest of the machine, per port: whether its command list maps, whether the drive
    clears the issued bit within 100 ms, and the model and serial number it returns. -/
structure Env where
  listMapped : Nat → Bool
  completes : Nat → Bool
  model : Nat → List UInt8
  serial : Nat → List UInt8

/-- A write of `identify` to the HBA or a command list. -/
inductive HbaWrite
  /-- `commands[slot]` of port `port`'s command list is zeroed and set to `h`. -/
  | header (port slot : Nat) (h : CommandHeader)
  /-- `port->command_issue |= flag` -/
  | issue (port : Nat) (flag : UInt32)
  /-- `port->command_issue &= ~flag` -/
  | withdraw (port : Nat) (flag : UInt32)
deriving DecidableEq, Repr

/-- `command_list`: `command_list_lo | uint64_t(command_list_hi) << 32`. -/
def Port.commandList (p : Port) : UInt64 := p.commandListLo.toUInt64 ||| (p.commandListHi.toUInt64 <<< 32)

/-- `xstd::lsb(x)`: the index of the lowest set bit, `-1` (`none`) for `0`. -/
def lsb (x : UInt32) : Option Nat := (List.range 32).find? fun b => x.toNat.testBit b

/-- The header `identify` prepares: the command table of `id`, the FIS length, a read,
    one PRDT entry. -/
def identifyHeader (l : Layout) : CommandHeader := ⟨l.tableBase, l.fisDwords, false, 1⟩

/-- The checks before the ports, any of which makes `identify` return `true`: `abar` is
    `0` or all ones, the HBA does not map, the probe reads all ones, or AHCI mode or 64-bit
    addressing is off. -/
def Hba.rejected (h : Hba) : Prop :=
  h.abar = 0 ∨ h.abar = 0xFFFFFFFF ∨ h.mapped = false ∨ h.probeAllOnes = true ∨
    h.globalHostControl >>> 31 = 0 ∨ h.hostCapabilities >>> 31 = 0

instance (h : Hba) : Decidable h.rejected := inferInstanceAs (Decidable (_ ∨ _))

/-- The ports `xstd::bit_enum` visits: the set bits of `ports_implemented`, lowest first. -/
def Hba.implemented (h : Hba) : List Nat := (List.range 32).filter fun b => h.portsImplemented.toNat.testBit b

/-- The lambda `bit_enum` runs on port `bit`: its writes, whether it sets `fail`, and the
    identifier it inserts into `result`. -/
def identifyPort (l : Layout) (env : Env) (bit : Nat) (port : Port) :
    List HbaWrite × Bool × Option (List UInt8 × List UInt8) :=
  if port.signature = 0xFFFFFFFF then ([], false, none) else
  match lsb (~~~(port.sataActive ||| port.commandIssue)) with
  | none => ([], true, none)
  | some slot =>
    if port.commandList = 0 ∨ port.commandList.toNat % l.listAlign ≠ 0 then ([], true, none)
    else if env.listMapped bit = false then ([], true, none)
    else
      let flag : UInt32 := 1 <<< slot.toUInt32
      let issued := [.header bit 0 (identifyHeader l), .issue bit flag]
      if env.completes bit = false then (issued ++ [.withdraw bit flag], false, none)
      else (issued, false,
        if env.model bit ≠ [] ∧ env.serial bit ≠ [] then some (env.model bit, env.serial bit) else none)

/-- `ahci::identify(result, device)`: its writes, its return value (`fail`, or `true` to
    retry before the ports), and the identifiers it inserts. -/
def identify (l : Layout) (env : Env) (h : Hba) :
    List HbaWrite × Bool × List (List UInt8 × List UInt8) :=
  if h.rejected then ([], true, [])
  else
    (h.implemented.foldl
      (fun r bit =>
        let p := identifyPort l env bit (h.ports bit)
        (r.1 ++ p.1, r.2.1 || p.2.1, r.2.2 ++ p.2.2.toList)) ([], false, []))

/-! ## The slot -/

/-- `lsb` finds the lowest set bit. -/
theorem lsb_spec {x : UInt32} {s : Nat} (h : lsb x = some s) :
    s < 32 ∧ x.toNat.testBit s = true ∧ ∀ j < s, x.toNat.testBit j = false := by
  obtain ⟨hs, i, hi, rfl, hmin⟩ := List.find?_eq_some_iff_getElem.1 h
  simp only [List.getElem_range, List.length_range] at hi hmin hs ⊢
  exact ⟨hi, hs, fun j hj => by simpa using hmin j hj⟩

/-- A bit below 32 is set in `~y` exactly when it is clear in `y`. -/
theorem testBit_complement (y : UInt32) {s : Nat} (hs : s < 32) :
    (~~~y).toNat.testBit s = !y.toNat.testBit s := by
  show (~~~y.toBitVec).toNat.testBit s = !y.toBitVec.toNat.testBit s
  rw [BitVec.testBit_toNat, BitVec.testBit_toNat, BitVec.getLsbD_not]
  simp [hs]

/-- The slot `identify` issues is clear in `PxSACT | PxCI`, and it is `0` only if bit `0`
    is clear there. -/
theorem lsb_free_slot {y : UInt32} {s : Nat} (h : lsb (~~~y) = some s) :
    y.toNat.testBit s = false ∧ (y.toNat.testBit 0 = true → s ≠ 0) := by
  obtain ⟨hs, hbit, -⟩ := lsb_spec h
  rw [testBit_complement y hs] at hbit
  refine ⟨by simpa using hbit, fun h0 hs0 => ?_⟩
  subst hs0
  simp [h0] at hbit

/-! ## The writes of a port -/

/-- A port that gets as far as issuing gets the header written in slot `0` and the command
    issued in the first free slot, withdrawn again if the drive does not answer. -/
theorem identifyPort_writes {l : Layout} {env : Env} {bit : Nat} {port : Port} {slot : Nat}
    (hsig : port.signature ≠ 0xFFFFFFFF)
    (hslot : lsb (~~~(port.sataActive ||| port.commandIssue)) = some slot)
    (hlist : port.commandList ≠ 0 ∧ port.commandList.toNat % l.listAlign = 0)
    (hmap : env.listMapped bit = true) :
    (identifyPort l env bit port).1 = [.header bit 0 (identifyHeader l), .issue bit (1 <<< slot.toUInt32)] ++
      if env.completes bit then [] else [.withdraw bit (1 <<< slot.toUInt32)] := by
  unfold identifyPort
  rw [if_neg hsig, hslot]
  dsimp only
  rw [if_neg (by rintro (h | h) <;> simp_all), if_neg (by simp [hmap])]
  cases env.completes bit <;> rfl

/-- Every header a port's `identify` writes is `commands[0]`. -/
theorem identifyPort_header_slot {l : Layout} {env : Env} {bit : Nat} {port : Port} {b s : Nat}
    {hd : CommandHeader} (h : HbaWrite.header b s hd ∈ (identifyPort l env bit port).1) : s = 0 := by
  unfold identifyPort at h
  split at h
  · cases h
  split at h
  · cases h
  split_ifs at h <;> simp_all

/-! ## The writes of `identify` -/

/-- Past its checks, `identify` makes the writes of each implemented port in turn. -/
theorem identify_writes (l : Layout) (env : Env) {h : Hba} (hok : ¬ h.rejected) :
    (identify l env h).1 = (h.implemented.map fun b => (identifyPort l env b (h.ports b)).1).flatten := by
  rw [identify, if_neg hok]
  suffices ∀ (bits : List Nat) (r : List HbaWrite × Bool × List (List UInt8 × List UInt8)),
      (bits.foldl (fun r bit => let p := identifyPort l env bit (h.ports bit)
        (r.1 ++ p.1, r.2.1 || p.2.1, r.2.2 ++ p.2.2.toList)) r).1 =
        r.1 ++ (bits.map fun b => (identifyPort l env b (h.ports b)).1).flatten from
    this _ _
  intro bits
  induction bits with
  | nil => simp
  | cons b bits ih => intro r; simp [ih]

/-- A controller with one implemented port, whose command slot `0` is busy (`PxCI = 1`). -/
def busySlotHba : Hba :=
  ⟨0xFEBF0000, true, false, 0x80000000, 0x80000000, 1, fun _ => ⟨0x101, 0x10000, 0, 0, 1⟩⟩

/-- On `busySlotHba`, `identify` overwrites the header of the busy slot `0` and issues slot
    `1`, whose header it never wrote. -/
theorem identify_header_of_busy_slot (fisDwords : Nat) (tableBase : UInt64) (completes : Nat → Bool)
    (model serial : Nat → List UInt8) :
    (identify ⟨1024, fisDwords, tableBase⟩ ⟨fun _ => true, completes, model, serial⟩ busySlotHba).1 =
      [.header 0 0 ⟨tableBase, fisDwords, false, 1⟩, .issue 0 2] ++
        if completes 0 then [] else [.withdraw 0 2] := by
  have hports : busySlotHba.implemented = [0] := by decide
  rw [identify_writes _ _ (by decide), hports, List.map_singleton, List.flatten_singleton,
    @identifyPort_writes _ _ 0 (busySlotHba.ports 0) 1 (by decide) (by decide)
      ⟨by decide, by show _ % 1024 = 0; decide⟩ rfl,
    show (1 : UInt32) <<< (1 : Nat).toUInt32 = 2 from rfl]
  rfl

/-- **The busy slot's header.** For every controller past the checks and every implemented
    port that gets as far as issuing, with bit `0` set in `PxSACT | PxCI`: `identify` writes
    the header of the busy slot `0` and issues the first free slot, which is not `0`, and it
    writes the header of that slot on no port. -/
theorem identify_header_of_busy_port {l : Layout} {env : Env} {h : Hba} {bit slot : Nat}
    (hok : ¬ h.rejected) (hbit : bit ∈ h.implemented) (hsig : (h.ports bit).signature ≠ 0xFFFFFFFF)
    (hslot : lsb (~~~((h.ports bit).sataActive ||| (h.ports bit).commandIssue)) = some slot)
    (hlist : (h.ports bit).commandList ≠ 0 ∧ (h.ports bit).commandList.toNat % l.listAlign = 0)
    (hmap : env.listMapped bit = true)
    (hbusy : ((h.ports bit).sataActive ||| (h.ports bit).commandIssue).toNat.testBit 0 = true) :
    HbaWrite.header bit 0 (identifyHeader l) ∈ (identify l env h).1 ∧
      HbaWrite.issue bit (1 <<< slot.toUInt32) ∈ (identify l env h).1 ∧ slot ≠ 0 ∧
      ∀ b hd, HbaWrite.header b slot hd ∉ (identify l env h).1 := by
  have hs := (lsb_free_slot hslot).2 hbusy
  have hport : ∀ w ∈ (identifyPort l env bit (h.ports bit)).1, w ∈ (identify l env h).1 :=
    fun w hw => by
      rw [identify_writes l env hok, List.mem_flatten]
      exact ⟨_, List.mem_map.2 ⟨bit, hbit, rfl⟩, hw⟩
  rw [identifyPort_writes hsig hslot hlist hmap] at hport
  refine ⟨hport _ (by simp), hport _ (by simp), hs, fun b hd hw => hs ?_⟩
  rw [identify_writes l env hok, List.mem_flatten] at hw
  obtain ⟨_, hl, hw⟩ := hw
  obtain ⟨b', -, rfl⟩ := List.mem_map.1 hl
  exact identifyPort_header_slot hw

/-- On `busySlotHba`, port `0` has slot `0` busy and slot `1` free. -/
theorem identify_header_of_busy_port_one_port :
    (¬ busySlotHba.rejected ∧ 0 ∈ busySlotHba.implemented ∧
      (busySlotHba.ports 0).signature ≠ 0xFFFFFFFF ∧
      lsb (~~~((busySlotHba.ports 0).sataActive ||| (busySlotHba.ports 0).commandIssue)) = some 1 ∧
      ((busySlotHba.ports 0).commandList ≠ 0 ∧ (busySlotHba.ports 0).commandList.toNat % 1024 = 0) ∧
      ((busySlotHba.ports 0).sataActive ||| (busySlotHba.ports 0).commandIssue).toNat.testBit 0 =
        true) ∧
    HbaWrite.header 0 0 ⟨0x1000, 5, false, 1⟩ ∈
        (identify ⟨1024, 5, 0x1000⟩ ⟨fun _ => true, fun _ => true, fun _ => [], fun _ => []⟩
          busySlotHba).1 ∧
      ∀ b hd, HbaWrite.header b 1 hd ∉
        (identify ⟨1024, 5, 0x1000⟩ ⟨fun _ => true, fun _ => true, fun _ => [], fun _ => []⟩
          busySlotHba).1 := by
  have hok : ¬ busySlotHba.rejected := by decide
  have hbit : 0 ∈ busySlotHba.implemented := by decide
  have hslot : lsb (~~~((busySlotHba.ports 0).sataActive ||| (busySlotHba.ports 0).commandIssue)) =
      some 1 := by decide
  have hlist : (busySlotHba.ports 0).commandList ≠ 0 ∧
      (busySlotHba.ports 0).commandList.toNat % 1024 = 0 := ⟨by decide, by decide⟩
  have hbusy : ((busySlotHba.ports 0).sataActive ||| (busySlotHba.ports 0).commandIssue).toNat.testBit
      0 = true := by decide
  obtain ⟨h0, -, -, h1⟩ := @identify_header_of_busy_port ⟨1024, 5, 0x1000⟩
    ⟨fun _ => true, fun _ => true, fun _ => [], fun _ => []⟩ busySlotHba 0 1 hok hbit (by decide)
    hslot hlist rfl hbusy
  exact ⟨⟨hok, hbit, by decide, hslot, hlist, hbusy⟩, h0, h1⟩

end Ahci

end HvDetect
