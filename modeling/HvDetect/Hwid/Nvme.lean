/-
  `nvme::identify` (`hwid/nvme.hpp`): one Identify command sent through the
  admin queues the OS driver left behind.

  * `Controller` is what `identify` reads of the PCI configuration space and
    of `bar_registers`; the admin queues are `map_physical`'s `L` entries of
    the memory at their bases (`mapQueue`), read through `readAqc` and written
    through `writeAqs`, which fail with the index when it is not below `L`;
  * `flipScan` is the phase-flip scan, `queueIndex` the lambda `queue_index`,
    and `handshake` the body from the scan to the restored doorbells, whose
    doorbell writes it returns in order;
  * `handshake_of_flip`: when some entry's phase differs from `aqc[0]`'s, every
    access is in range and the writes are the guessed tail and head plus one
    (and plus two on the retry path), then the two restored values;
    `doorbells_lt_of_firstReply` bounds them below `L` when the first wait
    succeeds;
  * `handshake_of_no_flip`: with all phases equal, `flip_pos = 0` and
    `aqc[flip_pos - 1]` reads index `2^64 - 1`; `identify_doorbells` reduces
    `identify` past its checks to the handshake, and through it and the two
    lemmas above `identify_out_of_range` shows this and the retry path's
    `L + 1` on a queue of two entries.
-/
import Mathlib.Data.List.Range
import Mathlib.Data.UInt

namespace HvDetect

namespace Nvme

/-- The fields of a `completion_entry` that `identify` reads. -/
structure CompletionEntry where
  submitHead : UInt16
  phase : Bool
deriving DecidableEq, Repr, Inhabited

/-- The fields of a `submission_entry` that `identify` sets. -/
structure SubmissionEntry where
  opcode : UInt8
  dataPointer : UInt64
  commandInfo : UInt32
deriving DecidableEq, Repr

/-- An access to an admin queue at an index not below its length. -/
inductive QueueFault
  | aqcRead (i : Nat)
  | aqsWrite (i : Nat)
deriving DecidableEq, Repr

/-- The admin doorbells: SQ 0 tail and CQ 0 head. -/
inductive Doorbell
  | sqTail
  | cqHead
deriving DecidableEq, Repr

/-- What `identify` reads of the device: `mbar`, whether the BAR maps, whether every
    dword of `bar_registers` reads `0xFFFFFFFF`, `cc_config`, `cc_status`, the admin
    queue sizes, and whether the queues and the doorbells map. -/
structure Controller where
  mbar : UInt64
  barMapped : Bool
  probeAllOnes : Bool
  ccConfig : UInt32
  ccStatus : UInt32
  aqSubmitSize : Nat
  aqCompleteSize : Nat
  queuesMapped : Bool
  doorbellsMapped : Bool

/-- What the controller does while `identify` waits: whether `id_space[4]` turns non-zero
    within the first and within the second 100 ms, and the bytes of `id_space` then. -/
structure Device where
  firstReply : Bool
  secondReply : Bool
  identity : Nat → UInt8

/-- `map_physical<T[]>(base, sizeof(T) * len)`: the `len` entries of the memory at `base`. -/
def mapQueue {α : Type} (mem : Nat → α) (len : Nat) : List α := (List.range len).map mem

/-- `aqc[i]`. -/
def readAqc (aqc : List CompletionEntry) (i : Nat) : Except QueueFault CompletionEntry :=
  match aqc[i]? with
  | some e => pure e
  | none => throw (.aqcRead i)

/-- `aqs[i] = e`. -/
def writeAqs (aqs : List SubmissionEntry) (i : Nat) (e : SubmissionEntry) :
    Except QueueFault (List SubmissionEntry) :=
  if i < aqs.length then pure (aqs.set i e) else throw (.aqsWrite i)

/-- `fill_command_queue(e)`: `aqs[i] = e` for the indices `is`. -/
def fillCommandQueue (e : SubmissionEntry) :
    List SubmissionEntry → List Nat → Except QueueFault (List SubmissionEntry)
  | aqs, [] => pure aqs
  | aqs, i :: is => do fillCommandQueue e (← writeAqs aqs i e) is

/-- The phase-flip scan over `n = 1, ..., aqc_len - 1`: the first `n` whose entry's phase
    differs from `zp_phase`, else `flip_pos` as initialised, `0`. -/
def flipScan (aqc : List CompletionEntry) (zp : Bool) : List Nat → Except QueueFault Nat
  | [] => pure 0
  | n :: ns => do
    let e ← readAqc aqc n
    if e.phase != zp then pure n else flipScan aqc zp ns

/-- `queue_index(x)`: `x == aqc_len ? 0 : x`, with `x` converted to `uint32_t`. -/
def queueIndex (len x : Nat) : UInt32 := if x % 2 ^ 32 = len then 0 else UInt32.ofNat x

/-- The Identify command: opcode 6, the physical address of `id_space`, CNS 1. -/
def idCommand (idSpace : UInt64) : SubmissionEntry := ⟨6, idSpace, 1⟩

/-- `{ .opcode = 0x18 }`. -/
def nopCommand : SubmissionEntry := ⟨0x18, 0, 0⟩

/-- The doorbell writes for the guessed SQ tail `s` and CQ head `c`: the command issued
    and acknowledged, again on the retry path if the first wait failed, then both
    restored. -/
def doorbellWrites (len s c : Nat) (firstReply : Bool) : List (Doorbell × UInt32) :=
  [(.sqTail, queueIndex len (s + 1)), (.cqHead, queueIndex len (c + 1))] ++
    (if firstReply then [] else [(.sqTail, queueIndex len (s + 2)), (.cqHead, queueIndex len (c + 2))]) ++
    [(.sqTail, queueIndex len s), (.cqHead, queueIndex len c)]

/-- From the phase-flip scan to the restored doorbells, on queues of `len = aqc_len =
    aqs_len` entries: the doorbell writes, `id_complete`, and the submission queue left
    filled with nops. The controller's writes to the queues are not modelled; `wrce` is
    read for its index only. -/
def handshake (len : Nat) (aqc : List CompletionEntry) (aqs : List SubmissionEntry)
    (dev : Device) (idSpace : UInt64) :
    Except QueueFault (List (Doorbell × UInt32) × Bool × List SubmissionEntry) := do
  let zp ← readAqc aqc 0
  let flipPos ← flipScan aqc zp.phase (List.range' 1 (len - 1))
  let prevCHead := flipPos
  let prevSTail := (← readAqc aqc ((flipPos + 2 ^ 64 - 1) % 2 ^ 64)).submitHead.toNat
  let aqs ← fillCommandQueue (idCommand idSpace) aqs (List.range len)
  let aqs ← fillCommandQueue nopCommand aqs (List.range len)
  let _ ← readAqc aqc (if prevCHead ≠ 0 then prevCHead - 1 else (len + 2 ^ 64 - 1) % 2 ^ 64)
  pure (doorbellWrites len prevSTail prevCHead dev.firstReply, dev.firstReply || dev.secondReply, aqs)

/-- The serial and model numbers with trailing spaces and NULs removed. -/
def trimTrailing (s : List UInt8) : List UInt8 :=
  (s.reverse.dropWhile fun b => b == 0x20 || b == 0).reverse

/-- What `identify` returns: whether to retry, the doorbell writes in order, and the model
    and serial number it inserts into `result`, if any. -/
structure Outcome where
  retry : Bool
  doorbells : List (Doorbell × UInt32)
  disk : Option (List UInt8 × List UInt8)

/-- `nvme::identify(result, device)`. -/
def identify (c : Controller) (aqcMem : Nat → CompletionEntry) (aqsMem : Nat → SubmissionEntry)
    (dev : Device) (idSpace : UInt64) : Except QueueFault Outcome :=
  if c.mbar.toUInt32 = 0 ∨ c.mbar.toUInt32 = 0xFFFFFFFF ∨ c.barMapped = false ∨
      c.probeAllOnes = true ∨ c.ccConfig &&& 1 = 0 ∨ c.ccStatus &&& 1 = 0 then
    .ok ⟨true, [], none⟩
  else if c.aqSubmitSize ≠ c.aqCompleteSize ∨ c.queuesMapped = false ∨
      c.doorbellsMapped = false then
    .ok ⟨false, [], none⟩
  else
    (handshake c.aqCompleteSize (mapQueue aqcMem c.aqCompleteSize)
      (mapQueue aqsMem c.aqSubmitSize) dev idSpace).map fun (writes, complete, _) =>
      if complete then
        ⟨false, writes, some (trimTrailing ((List.range 40).map fun i => dev.identity (24 + i)),
          trimTrailing ((List.range 20).map fun i => dev.identity (4 + i)))⟩
      else ⟨true, writes, none⟩

/-! ## Accesses in range -/

theorem readAqc_of_lt {aqc : List CompletionEntry} {i : Nat} (h : i < aqc.length) :
    readAqc aqc i = pure (aqc.getD i default) := by
  simp [readAqc, List.getElem?_eq_getElem h]

theorem readAqc_of_le {aqc : List CompletionEntry} {i : Nat} (h : aqc.length ≤ i) :
    readAqc aqc i = throw (.aqcRead i) := by
  simp [readAqc, List.getElem?_eq_none h]

/-- Writes at indices below the length keep it. -/
theorem fillCommandQueue_ok (e : SubmissionEntry) : ∀ (aqs : List SubmissionEntry) (is : List Nat),
    (∀ i ∈ is, i < aqs.length) → ∃ aqs', fillCommandQueue e aqs is = pure aqs' ∧ aqs'.length = aqs.length
  | aqs, [], _ => ⟨aqs, rfl, rfl⟩
  | aqs, i :: is, h => by
    have hi := h i (List.mem_cons_self _ _)
    obtain ⟨aqs', h', hl⟩ := fillCommandQueue_ok e (aqs.set i e) is
      (by simpa using fun j hj => h j (List.mem_cons_of_mem _ hj))
    exact ⟨aqs', by simpa [fillCommandQueue, writeAqs, hi] using h', by simpa using hl⟩

/-- The scan returns the first index of `ns` whose phase differs from `zp`, or `0`. -/
theorem flipScan_eq (aqc : List CompletionEntry) (zp : Bool) : ∀ ns : List Nat,
    (∀ n ∈ ns, n < aqc.length) →
      flipScan aqc zp ns = pure ((ns.find? fun n => (aqc.getD n default).phase != zp).getD 0)
  | [], _ => rfl
  | n :: ns, h => by
    rw [flipScan, readAqc_of_lt (h n (List.mem_cons_self _ _)), pure_bind, List.find?_cons]
    cases (aqc.getD n default).phase != zp
    · exact flipScan_eq aqc zp ns fun m hm => h m (List.mem_cons_of_mem _ hm)
    · rfl

/-- `queue_index(x)` lies in `[0, L)` for every `x ≤ L`. -/
theorem queueIndex_lt {len x : Nat} (hx : x ≤ len) (hlen : 0 < len) : (queueIndex len x).toNat < len := by
  unfold queueIndex
  split
  · simpa using hlen
  · rename_i h
    show x % 2 ^ 32 < len
    rcases Nat.lt_or_ge x (2 ^ 32) with hs | hs
    · rw [Nat.mod_eq_of_lt hs] at h ⊢; omega
    · have := Nat.mod_lt x (Nat.two_pow_pos 32); omega

/-- On the first-try path every doorbell value lies in `[0, L)`. -/
theorem doorbells_lt_of_firstReply {len s c : Nat} (hs : s < len) (hc : c < len) :
    ∀ w ∈ doorbellWrites len s c true, w.2.toNat < len := by
  simp only [doorbellWrites, if_true, List.append_nil, List.mem_append, List.mem_cons,
    List.mem_singleton, List.not_mem_nil, or_false]
  rintro w ((rfl | rfl) | rfl | rfl) <;> exact queueIndex_lt (by omega) (by omega)

/-- The retry path writes `s + 2` and `c + 2`, which for `s = L - 1` or `c = L - 1` is
    `L + 1`: `queue_index` maps only `L` back to `0`. -/
theorem doorbellWrites_retry (len s c : Nat) :
    (.sqTail, queueIndex len (s + 2)) ∈ doorbellWrites len s c false ∧
      (.cqHead, queueIndex len (c + 2)) ∈ doorbellWrites len s c false := by
  simp [doorbellWrites]

/-! ## The handshake -/

section
variable {len : Nat} {aqc : List CompletionEntry} {aqs : List SubmissionEntry} (dev : Device)
  (idSpace : UInt64) (hlen : 0 < len) (hlen' : len < 2 ^ 64) (hc : aqc.length = len)
  (hs : aqs.length = len)
include hlen hlen' hc hs

/-- When the scan finds a flip at `f`, every access is in range and the doorbells get
    `doorbellWrites` of the guessed tail `aqc[f - 1].submit_head` and head `f`. -/
theorem handshake_of_flip {f : Nat}
    (hf : (List.range' 1 (len - 1)).find? (fun n => (aqc.getD n default).phase !=
      (aqc.getD 0 default).phase) = some f) :
    ∃ aqs', handshake len aqc aqs dev idSpace =
      .ok (doorbellWrites len (aqc.getD (f - 1) default).submitHead.toNat f dev.firstReply,
        dev.firstReply || dev.secondReply, aqs') := by
  have hmem := List.mem_of_find?_eq_some hf
  rw [List.mem_range'_1] at hmem
  have hrange : ∀ n ∈ List.range' 1 (len - 1), n < aqc.length := fun n hn => by
    rw [List.mem_range'_1] at hn; omega
  obtain ⟨aqs₁, h₁, hl₁⟩ := fillCommandQueue_ok (idCommand idSpace) aqs (List.range len)
    (by simp [hs])
  obtain ⟨aqs₂, h₂, -⟩ := fillCommandQueue_ok nopCommand aqs₁ (List.range len)
    (by simp [hl₁, hs])
  refine ⟨aqs₂, ?_⟩
  simp only [handshake, readAqc_of_lt (show 0 < aqc.length by omega), pure_bind,
    flipScan_eq aqc _ _ hrange, hf, Option.getD_some, show (f + 2 ^ 64 - 1) % 2 ^ 64 = f - 1 by omega,
    readAqc_of_lt (show f - 1 < aqc.length by omega), h₁, h₂, if_pos (show f ≠ 0 by omega)]
  rfl

/-- With every phase equal to `aqc[0]`'s, `flip_pos` stays `0` and `aqc[flip_pos - 1]`
    reads index `2^64 - 1`, past the queue. -/
theorem handshake_of_no_flip
    (hp : ∀ n ∈ List.range' 1 (len - 1), (aqc.getD n default).phase = (aqc.getD 0 default).phase) :
    handshake len aqc aqs dev idSpace = .error (.aqcRead (2 ^ 64 - 1)) := by
  have hrange : ∀ n ∈ List.range' 1 (len - 1), n < aqc.length := fun n hn => by
    rw [List.mem_range'_1] at hn; omega
  have hf : (List.range' 1 (len - 1)).find? (fun n => (aqc.getD n default).phase !=
      (aqc.getD 0 default).phase) = none :=
    List.find?_eq_none.2 fun n hn => by rw [hp n hn]; simp
  simp only [handshake, readAqc_of_lt (show 0 < aqc.length by omega), pure_bind,
    flipScan_eq aqc _ _ hrange, hf, Option.getD_none, readAqc_of_le (show aqc.length ≤ (0 + 2 ^ 64 - 1) % 2 ^ 64 by omega)]
  rfl

end

/-- Past its checks, `identify` runs the handshake on the mapped queues and returns its
    doorbell writes, or its fault. -/
theorem identify_doorbells {c : Controller} (aqcMem : Nat → CompletionEntry)
    (aqsMem : Nat → SubmissionEntry) (dev : Device) (idSpace : UInt64)
    (hc : ¬ (c.mbar.toUInt32 = 0 ∨ c.mbar.toUInt32 = 0xFFFFFFFF ∨ c.barMapped = false ∨
      c.probeAllOnes = true ∨ c.ccConfig &&& 1 = 0 ∨ c.ccStatus &&& 1 = 0))
    (hq : ¬ (c.aqSubmitSize ≠ c.aqCompleteSize ∨ c.queuesMapped = false ∨
      c.doorbellsMapped = false)) :
    (identify c aqcMem aqsMem dev idSpace).map Outcome.doorbells =
      (handshake c.aqCompleteSize (mapQueue aqcMem c.aqCompleteSize)
        (mapQueue aqsMem c.aqSubmitSize) dev idSpace).map (·.1) := by
  rw [identify, if_neg hc, if_neg hq]
  rcases handshake c.aqCompleteSize _ _ dev idSpace with _ | ⟨w, _ | _, _⟩ <;> rfl

/-- Two out-of-range accesses of `identify` on an admitted queue of two entries: with both
    phases equal it reads `aqc[2^64 - 1]`; with the flip at `1`, `aqc[0].submit_head = 1`
    and no reply, the retry path writes `3` to both doorbells. -/
theorem identify_out_of_range (aqsMem : Nat → SubmissionEntry) (dev : Device) (idSpace : UInt64) :
    identify ⟨0x1000, true, false, 1, 1, 2, 2, true, true⟩ (fun _ => ⟨1, false⟩) aqsMem dev
        idSpace = .error (.aqcRead (2 ^ 64 - 1)) ∧
      (identify ⟨0x1000, true, false, 1, 1, 2, 2, true, true⟩ (fun i => ⟨1, i == 1⟩) aqsMem
        ⟨false, false, dev.identity⟩ idSpace).map Outcome.doorbells =
        .ok [(.sqTail, 0), (.cqHead, 0), (.sqTail, 3), (.cqHead, 3), (.sqTail, 1), (.cqHead, 1)] := by
  have hc : ¬ ((0x1000 : UInt64).toUInt32 = 0 ∨ (0x1000 : UInt64).toUInt32 = 0xFFFFFFFF ∨
      true = false ∨ false = true ∨ (1 : UInt32) &&& 1 = 0 ∨ (1 : UInt32) &&& 1 = 0) := by decide
  have hq : ¬ (2 ≠ 2 ∨ true = false ∨ true = false) := by decide
  refine ⟨?_, ?_⟩
  · have h := identify_doorbells (c := ⟨0x1000, true, false, 1, 1, 2, 2, true, true⟩)
      (fun _ => ⟨1, false⟩) aqsMem dev idSpace hc hq
    dsimp only at h
    rw [@handshake_of_no_flip 2 (mapQueue (fun _ => ⟨1, false⟩) 2) (mapQueue aqsMem 2) dev idSpace
      (by decide) (by decide) rfl rfl (by decide)] at h
    revert h
    cases identify ⟨0x1000, true, false, 1, 1, 2, 2, true, true⟩ (fun _ => ⟨1, false⟩) aqsMem dev
      idSpace with
    | error e => intro h; cases h; rfl
    | ok o => intro h; cases h
  · obtain ⟨aqs', h⟩ := @handshake_of_flip 2 (mapQueue (fun i => ⟨1, i == 1⟩) 2) (mapQueue aqsMem 2)
      ⟨false, false, dev.identity⟩ idSpace (by decide) (by decide) rfl rfl 1 (by decide)
    have hd := identify_doorbells (c := ⟨0x1000, true, false, 1, 1, 2, 2, true, true⟩)
      (fun i => ⟨1, i == 1⟩) aqsMem ⟨false, false, dev.identity⟩ idSpace hc hq
    dsimp only at hd
    rw [hd, h]
    rfl

end Nvme

end HvDetect
