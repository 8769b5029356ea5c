/-
# `SharedScriptData`: one payload, three regions

`SharedScriptData` (`js/vm/JSScript.h`, lines 1280-1346) is a header of three `uint32_t`
lengths followed by one payload: `natoms_` atoms of `sizeof(GCPtrAtom)` bytes, then
`codeLength_` bytes of bytecode, then `noteLength_` bytes of source notes.  `dataLength()` is
their sum in `size_t`; `atoms()`, `code()` and `notes()` point into the payload at `0`,
`natoms_ * sizeof(GCPtrAtom)` and `natoms_ * sizeof(GCPtrAtom) + codeLength_`.

The payload is a list of bytes whose length is `dataLength()`, which the structure carries:
`SharedScriptData::new_` (in `JSScript.cpp`) allocates exactly that much after the header.
`dataLength()` never wraps on a 64-bit `size_t`, whatever the three `uint32_t` lengths
(`dataLength_toNat`), and the three regions lie end to end and cover the payload
(`SharedScriptData.regions`).

The block is also counted: `incRefCount()` and `decRefCount()` are those of `ScriptSource`
without a destructor, the block being released by `js_free`.
-/

import JsScript.Basic

namespace JsScript

/-- `sizeof(GCPtrAtom)`: one pointer on the 64-bit targets. -/
def sizeofGCPtrAtom : Nat := 8

/-- `dataLength()` from the three lengths of a header, each widened to `size_t`. -/
def dataLengthOf (natoms codeLength noteLength : uint32_t) : size_t :=
  natoms.setWidth 64 * BitVec.ofNat 64 sizeofGCPtrAtom + codeLength.setWidth 64 +
    noteLength.setWidth 64

/-- **`dataLength()` does not wrap.** -/
theorem dataLengthOf_toNat (natoms codeLength noteLength : uint32_t) :
    (dataLengthOf natoms codeLength noteLength).toNat =
      natoms.toNat * sizeofGCPtrAtom + codeLength.toNat + noteLength.toNat := by
  simp only [dataLengthOf, sizeofGCPtrAtom]; bv_omega

/-- `SharedScriptData`: its header and the payload after it. -/
structure SharedScriptData where
  refCount_ : uint32_t
  natoms_ : uint32_t
  codeLength_ : uint32_t
  noteLength_ : uint32_t
  /-- The bytes from `data_` on. -/
  payload : List uint8_t
  payload_length : payload.length = (dataLengthOf natoms_ codeLength_ noteLength_).toNat
  deriving DecidableEq, Repr

namespace SharedScriptData

variable (d : SharedScriptData)

/-- `natoms()`. -/
def natoms : uint32_t := d.natoms_

/-- `codeLength()`. -/
def codeLength : uint32_t := d.codeLength_

/-- `numNotes()`. -/
def numNotes : uint32_t := d.noteLength_

/-- `dataLength()`. -/
def dataLength : size_t := dataLengthOf d.natoms_ d.codeLength_ d.noteLength_

/-- `data()`: the payload. -/
def data : List uint8_t := d.payload

/-- `atoms()`: `nullptr` without atoms, else the offset of the atoms in the payload. -/
def atoms : Option size_t := if d.natoms_ = 0 then none else some 0

/-- `code()`: the offset of the bytecode in the payload. -/
def code : size_t := d.natoms_.setWidth 64 * BitVec.ofNat 64 sizeofGCPtrAtom

/-- `notes()`: the offset of the source notes in the payload. -/
def notes : size_t :=
  d.natoms_.setWidth 64 * BitVec.ofNat 64 sizeofGCPtrAtom + d.codeLength_.setWidth 64

/-- The `len` bytes of the payload from offset `off`. -/
def region (off len : Nat) : List uint8_t := (d.payload.drop off).take len

/-- The atoms `atoms()` addresses, as bytes. -/
def atomBytes : List uint8_t := d.region 0 (d.natoms.toNat * sizeofGCPtrAtom)

/-- The bytecode `code()` addresses. -/
def codeBytes : List uint8_t := d.region d.code.toNat d.codeLength.toNat

/-- The source notes `notes()` addresses. -/
def noteBytes : List uint8_t := d.region d.notes.toNat d.numNotes.toNat

theorem code_toNat : d.code.toNat = d.natoms.toNat * sizeofGCPtrAtom := by
  simp only [code, natoms, sizeofGCPtrAtom]; bv_omega

theorem notes_toNat : d.notes.toNat = d.code.toNat + d.codeLength.toNat := by
  simp only [notes, code, natoms, codeLength, sizeofGCPtrAtom]; bv_omega

theorem dataLength_toNat : d.dataLength.toNat = d.notes.toNat + d.numNotes.toNat := by
  rw [notes_toNat, code_toNat, dataLength, dataLengthOf_toNat]; rfl

theorem data_length : d.data.length = d.dataLength.toNat := d.payload_length

/-- The three regions of the payload, as `atoms()`, `code()` and `notes()` address them. -/
structure Regions : Prop where
  code_eq : d.code.toNat = d.natoms.toNat * sizeofGCPtrAtom
  notes_eq : d.notes.toNat = d.code.toNat + d.codeLength.toNat
  dataLength_eq : d.dataLength.toNat = d.notes.toNat + d.numNotes.toNat
  atomBytes_length : d.atomBytes.length = d.natoms.toNat * sizeofGCPtrAtom
  codeBytes_length : d.codeBytes.length = d.codeLength.toNat
  noteBytes_length : d.noteBytes.length = d.numNotes.toNat
  cover : d.atomBytes ++ d.codeBytes ++ d.noteBytes = d.data

/-- **The regions lie end to end and cover the payload.** -/
theorem regions : d.Regions := by
  have hlen := d.data_length
  rw [dataLength_toNat, notes_toNat, code_toNat] at hlen
  have hlen' : d.payload.length = d.natoms.toNat * sizeofGCPtrAtom + d.codeLength.toNat +
      d.numNotes.toNat := hlen
  refine ⟨d.code_toNat, d.notes_toNat, d.dataLength_toNat, ?_, ?_, ?_, ?_⟩
  · simp [atomBytes, region]; omega
  · simp [codeBytes, region, code_toNat]; omega
  · simp [noteBytes, region, notes_toNat, code_toNat]; omega
  · simp only [atomBytes, codeBytes, noteBytes, region, notes_toNat, code_toNat, data,
      List.drop_zero]
    rw [List.take_of_length_le
        (l := d.payload.drop (d.natoms.toNat * sizeofGCPtrAtom + d.codeLength.toNat))
        (by simp; omega), List.append_assoc,
      ← List.drop_drop, List.take_append_drop, List.take_append_drop]

/-- **Equal headers and payloads are equal regions.**  Two blocks with the same header have
the same payload exactly when their three regions are equal. -/
theorem data_eq_iff {a b : SharedScriptData} (hn : a.natoms = b.natoms)
    (hc : a.codeLength = b.codeLength) (hm : a.numNotes = b.numNotes) :
    a.data = b.data ↔ a.atomBytes = b.atomBytes ∧ a.codeBytes = b.codeBytes ∧
      a.noteBytes = b.noteBytes := by
  constructor
  · intro h
    have hcode : a.code = b.code := by simp only [code]; simp only [natoms] at hn; rw [hn]
    have hnotes : a.notes = b.notes := by
      simp only [notes]; simp only [natoms] at hn; simp only [codeLength] at hc; rw [hn, hc]
    simp only [atomBytes, codeBytes, noteBytes, region, data, hn, hc, hm, hcode, hnotes] at h ⊢
    simp [h]
  · rintro ⟨h1, h2, h3⟩
    rw [← a.regions.cover, ← b.regions.cover, h1, h2, h3]

/-- `incRefCount()`: `refCount_++`. -/
def incRefCount : SharedScriptData := { d with refCount_ := d.refCount_ + 1 }

/-- `decRefCount()`: `none` when `js_free(this)` has released the block. -/
def decRefCount : Except Fault (Option SharedScriptData) := do
  mozAssert (d.refCount_ != 0) "refCount_ != 0"
  let remain := d.refCount_ - 1
  if remain == 0 then
    pure none
  else
    pure (some { d with refCount_ := remain })

/-- **`decRefCount` on a counted block** releases it exactly at `refCount_ = 1`. -/
theorem decRefCount_of_ne_zero {d : SharedScriptData} (h : d.refCount_ ≠ 0) :
    d.decRefCount = .ok (if d.refCount_ = 1 then none else some { d with refCount_ := d.refCount_ - 1 }) := by
  have hsub : (d.refCount_ - 1 == 0) = decide (d.refCount_ = 1) := by
    rw [Bool.eq_iff_iff, beq_iff_eq, decide_eq_true_iff]; bv_omega
  have hne : (d.refCount_ != 0) = true := by simpa using h
  simp only [decRefCount, hne, mozAssert_true, hsub]
  by_cases h1 : d.refCount_ = 1
  · simp only [h1, decide_True, if_true]; rfl
  · simp only [h1, decide_False, if_false]; rfl

end SharedScriptData

/-- A `SharedScriptData` in memory: `data()`, the address of its payload, and the block.  The
payload, and the address one past its end, lie inside the address space. -/
structure ScriptDataAt where
  data : uintptr_t
  block : SharedScriptData
  fits : data.toNat + block.dataLength.toNat < 2 ^ 64
  deriving DecidableEq, Repr

end JsScript
