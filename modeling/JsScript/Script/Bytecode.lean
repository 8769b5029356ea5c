/-
# Program counters into the bytecode of a `JSScript`

`src/src/js/vm/JSScript.h`, lines 1740-1783 (`code`, `length`, `codeEnd`, `containsPC`,
`pcToOffset`, `offsetToPC`), 2358-2360 (`main`) and 2468-2527 (`numNotes`, `notes`, `natoms`,
`atoms`, `getAtom` and the assertion of the `pc` forms of `getAtom`, `getObject` and `getScope`).

A script's bytecode is the code region of its `SharedScriptData` (`SharedScriptData.Layout`),
and a program counter is a pointer into it: `containsPC(pc)` compares `pc` with `code()` and
`codeEnd()` as unsigned 64-bit pointers, `pcToOffset` subtracts `code()` and `offsetToPC` adds it
back.  The block in memory (`ScriptDataAt`) lies inside the address space, so none of these
sums wraps.  Then the program counters a script contains are exactly `code()` plus an offset
below `length()`, `pcToOffset` and `offsetToPC` are inverse bijections between the two, and
the byte at a contained `pc` is the byte of the code region at `pcToOffset(pc)`
(`pcToOffset_offsetToPC`).  The `pc` forms of `getAtom`, `getObject` and `getScope` assert only
`containsPC(pc) && containsPC(pc + 4)`; as the code is contiguous, that is exactly that the
opcode and all four bytes of its `uint32_t` operand are bytecode (`containsOperand_iff`).
`getAtom(index)` asserts `index < natoms()` and returns the address of an atom slot, which lies
in the atom region (`getAtom_eq_ok_iff`).
-/

import JsScript.Script.Data

namespace JsScript

namespace ScriptDataAt

variable (d : ScriptDataAt)

/-- `*p`, for an address `p` inside the payload of `d`. -/
def load (p : uintptr_t) : Option uint8_t :=
  if BitVec.ule d.data p then d.block.data[p.toNat - d.data.toNat]? else none

/-- The code region, and the address one past it, lie inside the address space. -/
theorem codeEnd_lt : d.data.toNat + d.block.code.toNat + d.block.codeLength.toNat < 2 ^ 64 := by
  have h := d.fits
  rw [d.block.dataLength_toNat, d.block.notes_toNat] at h
  omega

theorem codeLength_lt : d.block.codeLength.toNat < 2 ^ 32 := d.block.codeLength.isLt

/-- The byte at offset `o` of the code region is the byte the code region holds there. -/
theorem load_code {o : size_t} (ho : o.toNat < d.block.codeLength.toNat) :
    d.load (d.data + d.block.code + o) = d.block.codeBytes[o.toNat]? := by
  have h := d.codeEnd_lt
  have h1 : (d.data + d.block.code).toNat = d.data.toNat + d.block.code.toNat :=
    BitVec.toNat_add_of_lt (by omega)
  have hp : (d.data + d.block.code + o).toNat = d.data.toNat + d.block.code.toNat + o.toNat := by
    rw [BitVec.toNat_add_of_lt (by omega), h1]
  have hle : BitVec.ule d.data (d.data + d.block.code + o) = true := by
    simp only [BitVec.ule, hp, decide_eq_true_eq]; omega
  rw [load, if_pos hle, hp, SharedScriptData.codeBytes, SharedScriptData.region,
    List.getElem?_take, if_pos ho, List.getElem?_drop, SharedScriptData.data]
  congr 1
  omega

end ScriptDataAt

namespace JSScript

variable (s : JSScript)

/-- `MOZ_ASSERT(scriptData_)`, then a read through `scriptData_`. -/
def readScriptData {α : Type} (f : ScriptDataAt → α) : Except Fault α :=
  match s.scriptData_ with
  | some d => pure (f d)
  | none => throw (.assertion "scriptData_")

/-- `code()`: `nullptr` until the script has its data. -/
def code : uintptr_t :=
  match s.scriptData_ with
  | some d => d.data + d.block.code
  | none => 0

/-- `isUncompleted()`. -/
def isUncompleted : Bool := s.code == 0

/-- `length()`. -/
def length : Except Fault size_t := s.readScriptData fun d => d.block.codeLength.setWidth 64

/-- `numNotes()`. -/
def numNotes : Except Fault uint32_t := s.readScriptData fun d => d.block.numNotes

/-- `notes()`. -/
def notes : Except Fault uintptr_t := s.readScriptData fun d => d.data + d.block.notes

/-- `natoms()`. -/
def natoms : Except Fault size_t := s.readScriptData fun d => d.block.natoms.setWidth 64

/-- `atoms()`. -/
def atoms : Except Fault uintptr_t :=
  s.readScriptData fun d => match d.block.atoms with
    | some off => d.data + off
    | none => 0

/-- `codeEnd()`. -/
def codeEnd : Except Fault uintptr_t := do
  let len ← s.length
  pure (s.code + len)

/-- `containsPC(pc)`: `pc >= code() && pc < codeEnd()`, on unsigned pointers. -/
def containsPC (pc : uintptr_t) : Except Fault Bool := do
  let codeEnd ← s.codeEnd
  pure (BitVec.ule s.code pc && BitVec.ult pc codeEnd)

/-- `pcToOffset(pc)`. -/
def pcToOffset (pc : uintptr_t) : Except Fault size_t := do
  mozAssert (← s.containsPC pc) "containsPC(pc)"
  pure (pc - s.code)

/-- `offsetToPC(offset)`. -/
def offsetToPC (offset : size_t) : Except Fault uintptr_t := do
  mozAssert (BitVec.ult offset (← s.length)) "offset < length()"
  pure (s.code + offset)

/-- `mainOffset()`. -/
def mainOffset : size_t := s.mainOffset_.setWidth 64

/-- `main()`. -/
def main : uintptr_t := s.code + s.mainOffset

/-- `containsPC(pc) && containsPC(pc + sizeof(uint32_t))`, the assertion in front of the `pc`
forms of `getAtom`, `getObject` and `getScope`. -/
def containsOperand (pc : uintptr_t) : Except Fault Bool := do
  if ← s.containsPC pc then s.containsPC (pc + 4) else pure false

/-- `getAtom(index)`: the address of the atom slot. -/
def getAtom (index : size_t) : Except Fault uintptr_t := do
  mozAssert (BitVec.ult index (← s.natoms)) "index < natoms()"
  pure ((← s.atoms) + index * BitVec.ofNat 64 sizeofGCPtrAtom)

/-! ### Reads through `scriptData_` -/

variable {s} {d : ScriptDataAt}

theorem readScriptData_of_eq (hd : s.scriptData_ = some d) {α : Type} (f : ScriptDataAt → α) :
    s.readScriptData f = pure (f d) := by
  simp only [readScriptData, hd]

theorem code_of_eq (hd : s.scriptData_ = some d) : s.code = d.data + d.block.code := by
  simp only [code, hd]

/-- `code()` is the address of the code region, which fits in the address space. -/
theorem code_toNat (hd : s.scriptData_ = some d) :
    s.code.toNat = d.data.toNat + d.block.code.toNat := by
  have h := d.codeEnd_lt
  rw [code_of_eq hd, BitVec.toNat_add_of_lt (by omega)]

theorem length_of_eq (hd : s.scriptData_ = some d) :
    s.length = pure (d.block.codeLength.setWidth 64) := readScriptData_of_eq hd _

/-- **`containsPC(pc)`** holds exactly for the addresses of the code region. -/
theorem containsPC_eq (hd : s.scriptData_ = some d) (pc : uintptr_t) :
    s.containsPC pc = pure (decide (s.code.toNat ≤ pc.toNat ∧
      pc.toNat < s.code.toNat + d.block.codeLength.toNat)) := by
  have h := d.codeEnd_lt
  have hc := code_toNat hd
  have hend : (s.code + d.block.codeLength.setWidth 64).toNat =
      s.code.toNat + d.block.codeLength.toNat := by
    bv_omega
  simp only [containsPC, codeEnd, length_of_eq hd, pure_bind, BitVec.ule, BitVec.ult, hend,
    Bool.decide_and]

theorem containsPC_eq_true_iff (hd : s.scriptData_ = some d) (pc : uintptr_t) :
    s.containsPC pc = .ok true ↔
      s.code.toNat ≤ pc.toNat ∧ pc.toNat < s.code.toNat + d.block.codeLength.toNat := by
  rw [containsPC_eq hd, pure_eq_ok, decide_eq_true_iff]

theorem offsetToPC_eq_ok_iff (hd : s.scriptData_ = some d) {o pc : size_t} :
    s.offsetToPC o = .ok pc ↔ o.toNat < d.block.codeLength.toNat ∧ s.code + o = pc := by
  have := d.codeLength_lt
  simp only [offsetToPC, length_of_eq hd, pure_bind, mozAssert_bind_eq_ok, pure_eq_ok,
    BitVec.ult, decide_eq_true_eq, BitVec.toNat_setWidth,
    Nat.mod_eq_of_lt (show d.block.codeLength.toNat < 2 ^ 64 by omega)]

theorem pcToOffset_eq_ok_iff (hd : s.scriptData_ = some d) {pc o : size_t} :
    s.pcToOffset pc = .ok o ↔ s.containsPC pc = .ok true ∧ pc - s.code = o := by
  rw [containsPC_eq_true_iff hd]
  simp only [pcToOffset, containsPC_eq hd, pure_bind, mozAssert_bind_eq_ok, pure_eq_ok,
    decide_eq_true_eq]

/-- **Program counters are offsets into the bytecode.**  For a script with its data, the
program counters `containsPC` accepts are exactly `code()` plus an offset below `length()`;
`offsetToPC` and `pcToOffset` pass their assertions on those and undo each other; and the byte
at such a program counter is the byte of the code region of the `SharedScriptData` at its
offset. -/
theorem pcToOffset_offsetToPC (hd : s.scriptData_ = some d) :
    (∀ pc, s.containsPC pc = .ok true ↔
      ∃ o : size_t, o.toNat < d.block.codeLength.toNat ∧ s.code + o = pc) ∧
    (∀ o pc, s.offsetToPC o = .ok pc → s.containsPC pc = .ok true ∧ s.pcToOffset pc = .ok o) ∧
    (∀ pc, s.containsPC pc = .ok true → ∃ o, s.pcToOffset pc = .ok o ∧ s.offsetToPC o = .ok pc ∧
      d.load pc = d.block.codeBytes[o.toNat]?) := by
  have h := d.codeEnd_lt
  have hc := code_toNat hd
  have hinv : ∀ o : size_t, o.toNat < d.block.codeLength.toNat →
      s.containsPC (s.code + o) = .ok true ∧ s.code + o - s.code = o := fun o ho =>
    ⟨(containsPC_eq_true_iff hd _).2 (by rw [BitVec.toNat_add_of_lt (by omega)]; omega),
      by rw [BitVec.add_comm, BitVec.add_sub_cancel]⟩
  have hsub : ∀ pc, s.containsPC pc = .ok true →
      (pc - s.code).toNat < d.block.codeLength.toNat ∧ s.code + (pc - s.code) = pc := by
    intro pc hpc
    have := (containsPC_eq_true_iff hd pc).1 hpc
    exact ⟨by rw [BitVec.toNat_sub_of_le (by simpa [BitVec.le_def] using this.1)]; omega,
      by rw [BitVec.add_comm, BitVec.sub_add_cancel]⟩
  refine ⟨fun pc => ⟨fun hpc => ⟨_, hsub pc hpc⟩, ?_⟩, fun o pc hop => ?_, fun pc hpc => ?_⟩
  · rintro ⟨o, ho, rfl⟩
    exact (hinv o ho).1
  · obtain ⟨ho, rfl⟩ := (offsetToPC_eq_ok_iff hd).1 hop
    exact ⟨(hinv o ho).1, (pcToOffset_eq_ok_iff hd).2 (hinv o ho)⟩
  · obtain ⟨ho, hpc'⟩ := hsub pc hpc
    refine ⟨_, (pcToOffset_eq_ok_iff hd).2 ⟨hpc, rfl⟩, (offsetToPC_eq_ok_iff hd).2 ⟨ho, hpc'⟩, ?_⟩
    rw [← d.load_code ho, ← code_of_eq hd, hpc']

/-- A script whose block at `0x1000` holds one atom, three bytes of code and one of notes. -/
theorem pcToOffset_offsetToPC_small :
    let d : ScriptDataAt := ⟨0x1000, ⟨1, 1, 3, 1, List.replicate 12 0, by decide⟩, by decide⟩
    let s : JSScript := { (default : JSScript) with scriptData_ := some d }
    s.scriptData_ = some d ∧
    (∀ pc, s.containsPC pc = .ok true ↔
      ∃ o : size_t, o.toNat < d.block.codeLength.toNat ∧ s.code + o = pc) ∧
    (∀ o pc, s.offsetToPC o = .ok pc → s.containsPC pc = .ok true ∧ s.pcToOffset pc = .ok o) ∧
    (∀ pc, s.containsPC pc = .ok true → ∃ o, s.pcToOffset pc = .ok o ∧ s.offsetToPC o = .ok pc ∧
      d.load pc = d.block.codeBytes[o.toNat]?) := by
  intro d s
  exact ⟨rfl, pcToOffset_offsetToPC (s := s) (d := d) rfl⟩

/-- `main()` is a program counter of the script exactly when `mainOffset_` is below
`length()`. -/
theorem containsPC_main (hd : s.scriptData_ = some d) :
    s.containsPC s.main = .ok true ↔ s.mainOffset_.toNat < d.block.codeLength.toNat := by
  have h := d.codeEnd_lt
  have hc := code_toNat hd
  rw [containsPC_eq_true_iff hd, main, mainOffset]
  bv_omega

theorem containsOperand_eq_true_iff (hd : s.scriptData_ = some d) (pc : uintptr_t) :
    s.containsOperand pc = .ok true ↔
      s.containsPC pc = .ok true ∧ s.containsPC (pc + 4) = .ok true := by
  rw [containsPC_eq_true_iff hd, containsPC_eq_true_iff hd]
  by_cases hpc : s.code.toNat ≤ pc.toNat ∧ pc.toNat < s.code.toNat + d.block.codeLength.toNat
  · simp only [containsOperand, containsPC_eq hd, pure_bind, hpc, decide_True, if_true, true_and,
      pure_eq_ok, decide_eq_true_iff]
  · simp only [containsOperand, containsPC_eq hd, pure_bind, hpc, decide_False, false_and,
      iff_false]
    rintro ⟨⟩

/-- **The operand check covers the whole operand.**  `getAtom(pc)`, `getObject(pc)` and
`getScope(pc)` assert only that `pc` and `pc + 4` are program counters of the script; that holds
exactly when the opcode at `pc` and every byte of its `uint32_t` operand are bytecode, since the
code region is contiguous and does not wrap around the address space. -/
theorem containsOperand_iff (hd : s.scriptData_ = some d) (pc : uintptr_t) :
    s.containsOperand pc = .ok true ↔
      ∀ i : Nat, i ≤ 4 → s.containsPC (pc + BitVec.ofNat 64 i) = .ok true := by
  have h := d.codeEnd_lt
  have hc := code_toNat hd
  have hlen := d.codeLength_lt
  rw [containsOperand_eq_true_iff hd]
  constructor
  · rintro ⟨h0, h4⟩ i hi
    rw [containsPC_eq_true_iff hd] at h0 h4 ⊢
    bv_omega
  · intro hall
    exact ⟨by simpa using hall 0 (Nat.zero_le _), hall 4 (Nat.le_refl _)⟩

/-- The same script: an instruction at its first byte, with a four-byte operand, would overrun
its three bytes of code. -/
theorem containsOperand_iff_small :
    let d : ScriptDataAt := ⟨0x1000, ⟨1, 1, 3, 1, List.replicate 12 0, by decide⟩, by decide⟩
    let s : JSScript := { (default : JSScript) with scriptData_ := some d }
    s.scriptData_ = some d ∧ (s.containsOperand 0x1008 = .ok true ↔
      ∀ i : Nat, i ≤ 4 → s.containsPC (0x1008 + BitVec.ofNat 64 i) = .ok true) := by
  intro d s
  exact ⟨rfl, containsOperand_iff (s := s) (d := d) rfl 0x1008⟩

/-- `getAtom(index)` passes its assertion exactly for the atoms of the script, and returns the
address of a slot of the atom region, which ends where the code begins. -/
theorem getAtom_eq_ok_iff (hd : s.scriptData_ = some d) {index a : size_t} :
    s.getAtom index = .ok a ↔ index.toNat < d.block.natoms.toNat ∧
      a.toNat = d.data.toNat + index.toNat * sizeofGCPtrAtom := by
  have h := d.codeEnd_lt
  have hcode := d.block.code_toNat
  simp only [getAtom, natoms, atoms, readScriptData_of_eq hd, pure_bind, mozAssert_bind_eq_ok,
    pure_eq_ok, BitVec.ult, decide_eq_true_eq, BitVec.toNat_setWidth]
  have hn32 := d.block.natoms.isLt
  rw [Nat.mod_eq_of_lt (by omega)]
  by_cases hn : d.block.natoms_ = 0
  · have : d.block.natoms.toNat = 0 := by simp [SharedScriptData.natoms, hn]
    simp only [this, Nat.not_lt_zero, false_and]
  · simp only [SharedScriptData.atoms, hn, if_false, sizeofGCPtrAtom] at hcode ⊢
    refine and_congr_right fun hi => ?_
    have hmul : (index * BitVec.ofNat 64 8).toNat = index.toNat * 8 := by
      rw [BitVec.toNat_mul, BitVec.toNat_ofNat]; omega
    rw [show d.data + 0 = d.data from BitVec.add_zero _, BitVec.toNat_eq,
      BitVec.toNat_add_of_lt (by rw [hmul]; omega), hmul, eq_comm]

end JSScript

end JsScript
