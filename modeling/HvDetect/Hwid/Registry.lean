/-
  `reg2json` (`hwid.cpp`): a registry value as the CBOR instance `hwid`
  reports it.

  * `RegValue` is what `ntpp::query_key_value` returns: the type, `data_length`
    and the bytes of `data`; `readWchar` reads its wide characters, failing at
    or past `data_length / 2`, and `back()` on an empty vector is a fault too;
  * `findNul` is `std::find(data, data_end, 0)`, `splitItems` the REG_MULTI_SZ
    loop and `multiSz` its branch, `reg2json` the lambda once the key and the
    value are found;
  * `nulItems` and `multiSzSpec` say what the REG_MULTI_SZ branch is for: the
    items of the data that each end at a NUL or at `data_end`, one trailing
    empty item dropped;
  * `splitItems_spec`: the loop returns `nulItems` of what is left from its
    position, reading only below `data_end`; so from two bytes of data on the
    branch is `multiSzSpec` (`reg2json_multiSz`), and below two bytes the loop
    never runs and `list.back()` is called on the empty vector
    (`reg2json_back_on_empty`).
-/
import Mathlib.Data.List.Basic
import Mathlib.Data.UInt

namespace HvDetect

namespace Registry

/-- `REG_SZ` -/
def regSz : Nat := 1

/-- `REG_DWORD` -/
def regDword : Nat := 4

/-- `REG_DWORD_BIG_ENDIAN` -/
def regDwordBigEndian : Nat := 5

/-- `REG_MULTI_SZ` -/
def regMultiSz : Nat := 7

/-- `REG_QWORD` -/
def regQword : Nat := 11

/-- A value `ntpp::query_key_value` returns: its type, `data_length`, and the bytes from
    `data` on. -/
structure RegValue where
  type : Nat
  dataLength : Nat
  data : Nat → UInt8

/-- A read of a wide character at or past `data_end`, or `back()` on an empty vector. -/
inductive RegFault
  | wchar (i : Nat)
  | backOnEmpty
deriving DecidableEq, Repr

/-- The `cbor::instance`s `reg2json` returns. -/
inductive Cbor
  | null
  | uint (n : UInt64)
  | str (s : List UInt16)
  | strs (items : List (List UInt16))
  | bytes (b : List UInt8)
deriving DecidableEq, Repr

/-- The wide character `i` of `data`, from its two bytes, low byte first. -/
def wcharAt (v : RegValue) (i : Nat) : UInt16 :=
  (v.data (2 * i)).toUInt16 ||| ((v.data (2 * i + 1)).toUInt16 <<< 8)

/-- `data[i]` as a `wchar_t*`, below `data_end = data + data_length / 2`. -/
def readWchar (v : RegValue) (i : Nat) : Except RegFault UInt16 :=
  if i < v.dataLength / 2 then pure (wcharAt v i) else throw (.wchar i)

/-- The `len` wide characters from `i`, as a `std::wstring{ data, item_end }` copies them. -/
def readWchars (v : RegValue) (i : Nat) : Nat → Except RegFault (List UInt16)
  | 0 => pure []
  | len + 1 => do
    let c ← readWchar v i
    let cs ← readWchars v (i + 1) len
    pure (c :: cs)

/-- `xstd::ref_at<T>(&val->data)`: the `len` bytes from `data` on, low byte first, whatever
    `data_length` says. -/
def refAt (v : RegValue) (len : Nat) : List UInt8 := (List.range len).map v.data

/-- The value of bytes, low byte first. -/
def leValue (bs : List UInt8) : Nat := bs.foldr (fun b acc => b.toNat + 256 * acc) 0

/-- `std::find(data + pos, data_end, 0)` over the `k` wide characters left: the position of
    the first NUL, or `data_end`. -/
def findNul (v : RegValue) (pos : Nat) : Nat → Except RegFault Nat
  | 0 => pure pos
  | k + 1 => do
    if (← readWchar v pos) = 0 then pure pos else findNul v (pos + 1) k

/-- `while (data < data_end)`, with `data` at wide character `pos`: each turn pushes the
    item up to the next NUL and moves past it. `fuel` bounds the turns; each moves `pos` on,
    so `data_end` of them are enough (`splitItems_spec`). -/
def splitItems (v : RegValue) (dataEnd : Nat) :
    Nat → Nat → List (List UInt16) → Except RegFault (List (List UInt16))
  | 0, _, list => pure list
  | fuel + 1, pos, list =>
    if pos < dataEnd then do
      let itemEnd ← findNul v pos (dataEnd - pos)
      let item ← readWchars v pos (itemEnd - pos)
      splitItems v dataEnd fuel (itemEnd + 1) (list ++ [item])
    else pure list

/-- The REG_MULTI_SZ branch: the loop, `list.back()` and `pop_back()`, then one string, an
    empty string, or the list. -/
def multiSz (v : RegValue) : Except RegFault Cbor := do
  let list ← splitItems v (v.dataLength / 2) (v.dataLength / 2) 0 []
  let list ← match list.getLast? with
    | none => throw .backOnEmpty
    | some last => pure (if last.isEmpty then list.dropLast else list)
  pure (match list with
    | [item] => .str item
    | [] => .str []
    | list => .strs list)

/-- `reg2json(key, value)` once `ntpp::open_key` and `ntpp::query_key_value` are done: `none`
    when either fails. -/
def reg2json : Option RegValue → Except RegFault Cbor
  | none => pure .null
  | some v =>
    if v.type = regQword then pure (.uint (UInt64.ofNat (leValue (refAt v 8))))
    else if v.type = regDword then pure (.uint (UInt64.ofNat (leValue (refAt v 4))))
    else if v.type = regDwordBigEndian then pure (.uint (UInt64.ofNat (leValue (refAt v 4).reverse)))
    else if v.type = regSz then do
      let itemEnd ← findNul v 0 (v.dataLength / 2)
      pure (.str (← readWchars v 0 itemEnd))
    else if v.type = regMultiSz then multiSz v
    else pure (.bytes (refAt v v.dataLength))

/-! ## What the REG_MULTI_SZ branch is for -/

/-- The items of a run of wide characters, each ending at a NUL or at the end of the run:
    the pieces between NULs, without the empty piece after a final NUL. -/
def nulItems (ws : List UInt16) : List (List UInt16) :=
  let pieces := ws.splitOn 0
  if pieces.getLast? = some [] then pieces.dropLast else pieces

/-- The items with one trailing empty item dropped: one string if one item remains, an
    empty string if none, and the list otherwise. -/
def multiSzSpec (ws : List UInt16) : Cbor :=
  let items := nulItems ws
  let items := if items.getLast? = some [] then items.dropLast else items
  match items with
  | [item] => .str item
  | [] => .str []
  | items => .strs items

/-- The wide characters below `data_end`. -/
def wchars (v : RegValue) : List UInt16 := (List.range (v.dataLength / 2)).map (wcharAt v)

/-! ## Reads below `data_end` -/

section
variable {v : RegValue}

theorem length_wchars : (wchars v).length = v.dataLength / 2 := by
  simp [wchars]

theorem readWchar_of_lt {i : Nat} (h : i < v.dataLength / 2) : readWchar v i = pure (wcharAt v i) :=
  if_pos h

/-- From `pos` on, the wide characters below `data_end` are the one at `pos`, then those
    after it. -/
theorem drop_wchars {pos : Nat} (h : pos < v.dataLength / 2) :
    (wchars v).drop pos = wcharAt v pos :: (wchars v).drop (pos + 1) := by
  rw [List.drop_eq_getElem_cons (by rwa [length_wchars])]
  simp [wchars]

theorem drop_wchars_of_le {pos : Nat} (h : v.dataLength / 2 ≤ pos) : (wchars v).drop pos = [] :=
  List.drop_eq_nil_of_le (by rwa [length_wchars])

theorem readWchars_eq : ∀ {pos len : Nat}, pos + len ≤ v.dataLength / 2 →
    readWchars v pos len = pure (((wchars v).drop pos).take len)
  | _, 0, _ => rfl
  | pos, len + 1, h => by
    rw [readWchars, readWchar_of_lt (by omega), pure_bind, readWchars_eq (by omega), pure_bind,
      @drop_wchars v pos (by omega), List.take_succ_cons]

/-- What lies from `pos` on, split after an item: the item's and the rest's lengths make up
    what is left, and the rest starts where the item ends. -/
theorem drop_wchars_append {pos : Nat} {item rest : List UInt16} (hd : (wchars v).drop pos = item ++ rest) :
    item.length + rest.length = v.dataLength / 2 - pos ∧ (wchars v).drop (pos + item.length) = rest := by
  refine ⟨by rw [← List.length_append, ← hd, List.length_drop, length_wchars], ?_⟩
  rw [← List.drop_drop, hd, List.drop_left]

/-- `std::find` stops at the first NUL or at `data_end`: from `pos` on lies an item free of
    NULs, then a NUL or nothing. -/
theorem findNul_spec : ∀ (k pos : Nat), pos + k = v.dataLength / 2 →
    ∃ item rest, findNul v pos k = pure (pos + item.length) ∧ (∀ c ∈ item, c ≠ 0) ∧
      (wchars v).drop pos = item ++ rest ∧ (rest = [] ∨ ∃ tail, rest = 0 :: tail)
  | 0, pos, h => ⟨[], [], rfl, by simp, drop_wchars_of_le (by omega), .inl rfl⟩
  | k + 1, pos, h => by
    rw [findNul, readWchar_of_lt (by omega), pure_bind, drop_wchars (by omega)]
    by_cases hc : wcharAt v pos = 0
    · rw [if_pos hc, hc]
      exact ⟨[], _, rfl, by simp, rfl, .inr ⟨_, rfl⟩⟩
    · rw [if_neg hc]
      obtain ⟨item, rest, hf, hi, hd, hrest⟩ := findNul_spec k (pos + 1) (by omega)
      exact ⟨wcharAt v pos :: item, rest, by rw [hf, List.length_cons]; ac_rfl,
        List.forall_mem_cons.2 ⟨hc, hi⟩, by rw [hd, List.cons_append], hrest⟩

end

/-! ## The items -/

theorem nulItems_nil : nulItems [] = [] := rfl

theorem nulItems_append {item : List UInt16} (h : ∀ c ∈ item, c ≠ 0) (tail : List UInt16) :
    nulItems (item ++ 0 :: tail) = item :: nulItems tail := by
  unfold nulItems
  rw [show (item ++ 0 :: tail).splitOn 0 = item :: tail.splitOn 0 from
    List.splitOnP_first _ item (by simpa using h) 0 (by simp) tail]
  obtain ⟨p, ps, hps⟩ := List.exists_cons_of_ne_nil (List.splitOnP_ne_nil (· == (0 : UInt16)) tail)
  rw [show tail.splitOn 0 = p :: ps from hps]
  dsimp only
  rw [List.getLast?_cons_cons, List.dropLast_cons₂]
  split_ifs <;> rfl

theorem nulItems_of_forall_ne {item : List UInt16} (h : ∀ c ∈ item, c ≠ 0) (hne : item ≠ []) :
    nulItems item = [item] := by
  unfold nulItems
  rw [show item.splitOn 0 = [item] from List.splitOnP_eq_single _ _ (by simpa using h)]
  simp [hne]

/-! ## The loop -/

section
variable {v : RegValue}

/-- The loop from wide character `pos`, with fuel for every character left, appends the
    items of what is left, reading only below `data_end`. -/
theorem splitItems_spec : ∀ (fuel pos : Nat) (list : List (List UInt16)), v.dataLength / 2 - pos ≤ fuel →
    splitItems v (v.dataLength / 2) fuel pos list = pure (list ++ nulItems ((wchars v).drop pos))
  | 0, pos, list, h => by
    rw [drop_wchars_of_le (by omega), nulItems_nil, List.append_nil]
    rfl
  | fuel + 1, pos, list, h => by
    rw [splitItems]
    split
    case isFalse hp =>
      rw [drop_wchars_of_le (by omega), nulItems_nil, List.append_nil]
    case isTrue hp =>
      obtain ⟨item, rest, hf, hi, hd, hrest⟩ := @findNul_spec v (v.dataLength / 2 - pos) pos (by omega)
      obtain ⟨hlen, hdrop⟩ := drop_wchars_append hd
      rw [hf, pure_bind, Nat.add_sub_cancel_left, readWchars_eq (by omega), pure_bind, hd,
        List.take_left, splitItems_spec fuel _ _ (by omega), List.append_assoc, List.singleton_append,
        ← List.drop_drop, hdrop]
      rcases hrest with rfl | ⟨tail, rfl⟩
      · rw [List.append_nil, nulItems_of_forall_ne hi (List.ne_nil_of_length_pos (by simp at hlen; omega))]
        rfl
      · rw [nulItems_append hi]
        rfl

/-- Below a non-empty `data_end` there is at least one item. -/
theorem nulItems_wchars_ne_nil (h : 0 < v.dataLength / 2) : nulItems (wchars v) ≠ [] := by
  obtain ⟨item, rest, -, hi, hd, hrest⟩ := @findNul_spec v (v.dataLength / 2) 0 (by omega)
  obtain ⟨hlen, -⟩ := drop_wchars_append hd
  rw [← List.drop_zero (wchars v), hd]
  rcases hrest with rfl | ⟨tail, rfl⟩
  · rw [List.append_nil, nulItems_of_forall_ne hi (List.ne_nil_of_length_pos (by simp at hlen; omega))]
    simp
  · rw [nulItems_append hi]
    simp

theorem multiSz_of_pos (h : 0 < v.dataLength / 2) : multiSz v = pure (multiSzSpec (wchars v)) := by
  unfold multiSz multiSzSpec
  rw [splitItems_spec _ 0 [] (by omega), List.drop_zero, List.nil_append, pure_bind]
  obtain ⟨last, hlast⟩ : ∃ last, (nulItems (wchars v)).getLast? = some last :=
    ⟨_, List.getLast?_eq_getLast _ (nulItems_wchars_ne_nil h)⟩
  simp only [hlast]
  cases last <;> rfl

end

/-- From two bytes of data on, the REG_MULTI_SZ branch reads only the wide characters below
    `data_length / 2` and returns their items, one trailing empty item dropped. -/
theorem reg2json_multiSz {v : RegValue} (ht : v.type = regMultiSz) (h : 2 ≤ v.dataLength) :
    reg2json (some v) = pure (multiSzSpec (wchars v)) := by
  simp only [reg2json, ht, regMultiSz, regQword, regDword, regDwordBigEndian, regSz]
  exact multiSz_of_pos (by omega)

-- `a NUL b NUL NUL`: two items, the empty one after the last NUL popped.
example : reg2json (some ⟨regMultiSz, 10, fun i => if i = 0 then 0x61 else if i = 4 then 0x62 else 0⟩) =
    pure (.strs [[0x61], [0x62]]) := rfl

/-- Below two bytes of data, whatever they hold, the loop never runs and `list.back()` is
    called on the empty vector. -/
theorem reg2json_back_on_empty (data : Nat → UInt8) {dataLength : Nat} (h : dataLength < 2) :
    reg2json (some ⟨regMultiSz, dataLength, data⟩) = throw .backOnEmpty := by
  have hn : dataLength / 2 = 0 := by omega
  simp only [reg2json, multiSz, hn, regMultiSz, regQword, regDword, regDwordBigEndian, regSz]
  rfl

theorem reg2json_back_on_empty_one_byte :
    (1 : Nat) < 2 ∧ reg2json (some ⟨regMultiSz, 1, fun _ => 0x41⟩) = throw .backOnEmpty :=
  ⟨by decide, reg2json_back_on_empty _ (by decide)⟩

end Registry

end HvDetect
