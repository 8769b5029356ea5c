/-
# The `JSScript` record and the headers of its trailing data

`src/src/js/vm/JSScript.h`, lines 148-195 (the array headers), 1405-1435 and 1450 (the pointer
members of `JSScript` and `mainOffset_`), 1520-1545 and 1560-1670 (`ArrayKind` and the bit-fields that the model reads)
and 2371-2431 (`hasArray`, `setHasArray`, the `OFF` chain of offsets and the raw accessors).

The `data` block of a script starts with the headers of its side tables: always a
`ScopeArray`, then a `ConstArray`, an `ObjectArray`, a `TryNoteArray` and a `ScopeNoteArray`
when the matching bit of `hasArrayBits_` is set, then a `YieldAndAwaitOffsetArray` when the
script is a generator or an async function.  The source computes each offset with the `OFF`
macro, as the offset before it plus the size of the header before it when that header is
present.  Every header is a pointer and a `uint32_t` length, 16 bytes on a 64-bit target.

The layout the chain is meant to produce is the one of prefix sums of header sizes: the
present headers one after another, in declaration order, with no gap (`packedOffset`).
`offset_toNat` shows that the `OFF` chain computes it; hence two present headers never share a
byte (`header_disjoint`), the raw accessors return exactly the present headers
(`raw_eq_ok_iff`), and `setHasArray k` leaves every header up to `k` in place and moves each
later one by one header when `k` was absent (`offset_setHasArray`).
-/

import JsScript.SharedScriptData.Layout

namespace JsScript

/-- `JSScript::ArrayKind`: the optional arrays whose presence `hasArrayBits_` records. -/
inductive ArrayKind
  | CONSTS
  | OBJECTS
  | TRYNOTES
  | SCOPENOTES
  deriving DecidableEq, Repr

/-- The value of the enumerator. -/
def ArrayKind.toNat : ArrayKind → Nat
  | .CONSTS => 0
  | .OBJECTS => 1
  | .TRYNOTES => 2
  | .SCOPENOTES => 3

/-- `ARRAY_KIND_BITS`, the enumerator after the last kind. -/
def ARRAY_KIND_BITS : Nat := 4

theorem ArrayKind.toNat_lt (k : ArrayKind) : k.toNat < ARRAY_KIND_BITS := by
  cases k <;> decide

/-! ### The headers -/

/-- The headers at the start of `data`, in the order the source lays them out. -/
inductive DataArray
  | scopes
  | consts
  | objects
  | trynotes
  | scopeNotes
  | yieldAndAwaitOffsets
  deriving DecidableEq, Repr

/-- `sizeof` of each header type: a pointer `vector` and a `uint32_t` length, padded to the
pointer's alignment. -/
def DataArray.sizeof : DataArray → size_t
  | .scopes => 16
  | .consts => 16
  | .objects => 16
  | .trynotes => 16
  | .scopeNotes => 16
  | .yieldAndAwaitOffsets => 16

/-- The array that an `ArrayKind` bit announces. -/
def ArrayKind.array : ArrayKind → DataArray
  | .CONSTS => .consts
  | .OBJECTS => .objects
  | .TRYNOTES => .trynotes
  | .SCOPENOTES => .scopeNotes

/-- All headers in layout order. -/
def DataArray.all : List DataArray :=
  [.scopes, .consts, .objects, .trynotes, .scopeNotes, .yieldAndAwaitOffsets]

/-- The place of a header in `DataArray.all`. -/
def DataArray.rank : DataArray → Nat
  | .scopes => 0
  | .consts => 1
  | .objects => 2
  | .trynotes => 3
  | .scopeNotes => 4
  | .yieldAndAwaitOffsets => 5

theorem DataArray.getElem?_all_rank (a : DataArray) : DataArray.all[a.rank]? = some a := by
  cases a <;> rfl

theorem DataArray.rank_injective {a b : DataArray} (h : a.rank = b.rank) : a = b :=
  Option.some.inj ((DataArray.getElem?_all_rank a).symm.trans (h ▸ DataArray.getElem?_all_rank b))

/-- `all` lists each header at its rank and nothing past the last one. -/
theorem DataArray.getElem?_all_eq_some {n : Nat} {b : DataArray} :
    DataArray.all[n]? = some b ↔ b.rank = n := by
  refine ⟨fun h => List.getElem?_inj ?_ (by decide) ((getElem?_all_rank b).trans h.symm), ?_⟩
  · cases b <;> decide
  · rintro rfl
    exact getElem?_all_rank b

@[simp] theorem DataArray.sizeof_toNat (a : DataArray) : a.sizeof.toNat = 16 := by
  cases a <;> rfl

theorem ArrayKind.rank_array_lt (kind : ArrayKind) : kind.array.rank < 5 := by
  cases kind <;> decide

/-- The fields of `JSScript` that the modelled members read and write.  The bit-fields of
`bitFields_` are flattened into the record. -/
structure JSScript where
  /-- The shared bytecode block, where it lies in memory; `none` is `nullptr`. -/
  scriptData_ : Option ScriptDataAt
  /-- Pointer to the variable-length data array. -/
  data : uintptr_t
  types_ : uintptr_t
  ion : uintptr_t
  baseline : uintptr_t
  lazyScript : uintptr_t
  /-- Offset of the main entry point from `code()`. -/
  mainOffset_ : uint32_t
  /-- `uint8_t hasArrayBits_ : ARRAY_KIND_BITS`. -/
  hasArrayBits_ : BitVec ARRAY_KIND_BITS
  selfHosted_ : Bool
  hasRunOnce_ : Bool
  isActiveEval_ : Bool
  isCachedEval_ : Bool
  doNotRelazify_ : Bool
  hasInnerFunctions_ : Bool
  isDefaultClassConstructor_ : Bool
  isGenerator_ : Bool
  isAsync_ : Bool
  deriving DecidableEq, Repr, Inhabited

namespace JSScript

variable (s : JSScript)

/-- `isGenerator()`. -/
def isGenerator : Bool := s.isGenerator_

/-- `isAsync()`. -/
def isAsync : Bool := s.isAsync_

/-- `hasArray(kind)`: the bit test `hasArrayBits_ & (1 << kind)`, in `int`. -/
def hasArray (kind : ArrayKind) : Bool :=
  (s.hasArrayBits_.setWidth 32 &&& (1 : BitVec 32) <<< kind.toNat) != 0

/-- `setHasArray(kind)`: `hasArrayBits_ |= (1 << kind)`, the `int` result stored back into the
four-bit field. -/
def setHasArray (kind : ArrayKind) : JSScript :=
  { s with hasArrayBits_ := (s.hasArrayBits_.setWidth 32 ||| (1 : BitVec 32) <<< kind.toNat).setWidth 4 }

/-- `hasConsts()`. -/
def hasConsts : Bool := s.hasArray .CONSTS

/-- `hasObjects()`. -/
def hasObjects : Bool := s.hasArray .OBJECTS

/-- `hasTrynotes()`. -/
def hasTrynotes : Bool := s.hasArray .TRYNOTES

/-- `hasScopeNotes()`. -/
def hasScopeNotes : Bool := s.hasArray .SCOPENOTES

/-- `hasYieldAndAwaitOffsets()`. -/
def hasYieldAndAwaitOffsets : Bool := s.isGenerator || s.isAsync

/-- The `int` mask test reads bit `kind` of the field. -/
theorem hasArray_eq_getLsbD (kind : ArrayKind) :
    s.hasArray kind = s.hasArrayBits_.getLsbD kind.toNat := by
  have hk := kind.toNat_lt
  have hk32 : kind.toNat < 32 := by unfold ARRAY_KIND_BITS at hk; omega
  have hzero : (s.hasArrayBits_.setWidth 32 &&& (1 : BitVec 32) <<< kind.toNat) = 0 ↔
      s.hasArrayBits_.getLsbD kind.toNat = false := by
    constructor
    · intro h
      simpa [BitVec.getLsbD_and, BitVec.getLsbD_shiftLeft, BitVec.getLsbD_setWidth, hk, hk32]
        using congrArg (fun v => v.getLsbD kind.toNat) h
    · intro h
      apply BitVec.eq_of_getLsbD_eq
      intro i
      simp only [BitVec.getLsbD_and, BitVec.getLsbD_shiftLeft, BitVec.getLsbD_setWidth,
        BitVec.getLsbD_zero, BitVec.getLsbD_one]
      by_cases hik : i.val = kind.toNat
      · simp [← hik] at h ⊢; simp [h]
      · simp [hik]; intro _ _; omega
  by_cases h : s.hasArrayBits_.getLsbD kind.toNat <;> simp_all [hasArray]

/-- **`setHasArray(kind)` sets the bit of `kind` and no other.**  The `int` value is truncated
to the field's four bits, which lose nothing since every kind is below `ARRAY_KIND_BITS`. -/
@[simp] theorem hasArray_setHasArray (kind k : ArrayKind) :
    (s.setHasArray kind).hasArray k = (k == kind || s.hasArray k) := by
  have hk := kind.toNat_lt
  unfold ARRAY_KIND_BITS at hk
  have hj := k.toNat_lt
  unfold ARRAY_KIND_BITS at hj
  have hbit : ∀ j < 4, ((s.hasArrayBits_.setWidth 32 ||| (1 : BitVec 32) <<< kind.toNat).setWidth 4).getLsbD j =
      (j == kind.toNat || s.hasArrayBits_.getLsbD j) := by
    intro j hj
    simp only [BitVec.getLsbD_setWidth, BitVec.getLsbD_or, BitVec.getLsbD_shiftLeft, BitVec.getLsbD_one]
    by_cases hjk : j = kind.toNat
    · subst hjk; simp [hk, show kind.toNat < 32 by omega]
    · have : ¬ j - kind.toNat = 0 ∨ j < kind.toNat := by omega
      simp [hj, hjk, show j < 32 by omega]
      rcases this with h | h <;> simp [h, hjk]
  have hinj : (k.toNat == kind.toNat) = (k == kind) := by
    cases k <;> cases kind <;> rfl
  rw [hasArray_eq_getLsbD, hasArray_eq_getLsbD, setHasArray, hbit _ hj, hinj]

/-! ### The `OFF` chain -/

/-- The `OFF(fooOff, hasFoo, t)` macro: `fooOff() + (hasFoo() ? sizeof(t) : 0)`. -/
def OFF (fooOff : size_t) (hasFoo : Bool) (t : size_t) : size_t :=
  fooOff + (if hasFoo then t else 0)

/-- `scopesOffset()`. -/
def scopesOffset (_ : JSScript) : size_t := 0

/-- `constsOffset()`. -/
def constsOffset : size_t := s.scopesOffset + DataArray.sizeof .scopes

/-- `objectsOffset()`. -/
def objectsOffset : size_t := OFF s.constsOffset s.hasConsts (DataArray.sizeof .consts)

/-- `trynotesOffset()`. -/
def trynotesOffset : size_t := OFF s.objectsOffset s.hasObjects (DataArray.sizeof .objects)

/-- `scopeNotesOffset()`. -/
def scopeNotesOffset : size_t := OFF s.trynotesOffset s.hasTrynotes (DataArray.sizeof .trynotes)

/-- `yieldAndAwaitOffsetsOffset()`. -/
def yieldAndAwaitOffsetsOffset : size_t :=
  OFF s.scopeNotesOffset s.hasScopeNotes (DataArray.sizeof .scopeNotes)

/-- Whether the header is in `data`: the scopes always are. -/
def present : DataArray → Bool
  | .scopes => true
  | .consts => s.hasConsts
  | .objects => s.hasObjects
  | .trynotes => s.hasTrynotes
  | .scopeNotes => s.hasScopeNotes
  | .yieldAndAwaitOffsets => s.hasYieldAndAwaitOffsets

/-- The member that computes each header's offset. -/
def offset : DataArray → size_t
  | .scopes => s.scopesOffset
  | .consts => s.constsOffset
  | .objects => s.objectsOffset
  | .trynotes => s.trynotesOffset
  | .scopeNotes => s.scopeNotesOffset
  | .yieldAndAwaitOffsets => s.yieldAndAwaitOffsetsOffset

/-! ### The abstract layout -/

/-- The bytes taken by the present headers among the first `n` of the layout. -/
def prefixBytes (n : Nat) : Nat :=
  (((DataArray.all.take n).filter s.present).map fun a => a.sizeof.toNat).foldr (· + ·) 0

/-- The layout the `OFF` chain is meant to produce: each header right after the present
headers before it. -/
def packedOffset (a : DataArray) : Nat := s.prefixBytes a.rank

theorem foldr_sizeof (l : List DataArray) :
    (l.map fun a => a.sizeof.toNat).foldr (· + ·) 0 = l.length * 16 := by
  induction l with
  | nil => rfl
  | cons a l ih =>
    rw [List.map_cons, List.foldr_cons, ih, DataArray.sizeof_toNat, List.length_cons]
    omega

theorem prefixBytes_eq (n : Nat) :
    s.prefixBytes n = ((DataArray.all.take n).filter s.present).length * 16 :=
  foldr_sizeof _

theorem prefixBytes_le (n : Nat) : s.prefixBytes n ≤ 96 := by
  have : ((DataArray.all.take n).filter s.present).length ≤ 6 :=
    Nat.le_trans (List.length_filter_le _ _) (List.length_take_le' n DataArray.all)
  rw [prefixBytes_eq]
  omega

/-- The header at place `n` adds its size when it is present. -/
theorem prefixBytes_succ (n : Nat) :
    s.prefixBytes (n + 1) =
      s.prefixBytes n + ((DataArray.all[n]?.toList.filter s.present).length * 16) := by
  simp [prefixBytes_eq, List.take_succ, Nat.add_mul]

theorem OFF_toNat {x t : size_t} (b : Bool) (h : x.toNat + t.toNat < 2 ^ 64) :
    (OFF x b t).toNat = x.toNat + if b then t.toNat else 0 := by
  cases b
  · simp [OFF]
  · simpa [OFF, BitVec.toNat_add] using Nat.mod_eq_of_lt h

/-- One link of the chain: `OFF` after header `b` lands where the packed layout puts the next. -/
theorem OFF_offset_toNat (b : DataArray) (h : (s.offset b).toNat = s.prefixBytes b.rank) :
    (OFF (s.offset b) (s.present b) b.sizeof).toNat = s.prefixBytes (b.rank + 1) := by
  have hle := s.prefixBytes_le b.rank
  rw [OFF_toNat _ (by rw [h, DataArray.sizeof_toNat]; omega), h, prefixBytes_succ,
    DataArray.getElem?_all_rank]
  by_cases hb : s.present b <;> simp [hb]

/-- **The `OFF` chain packs the present headers in order.** -/
theorem offset_toNat (a : DataArray) : (s.offset a).toNat = s.packedOffset a := by
  have h₀ : (s.offset .scopes).toNat = s.prefixBytes 0 := rfl
  have h₁ : (s.offset .consts).toNat = s.prefixBytes 1 := s.OFF_offset_toNat .scopes h₀
  have h₂ : (s.offset .objects).toNat = s.prefixBytes 2 := s.OFF_offset_toNat .consts h₁
  have h₃ : (s.offset .trynotes).toNat = s.prefixBytes 3 := s.OFF_offset_toNat .objects h₂
  have h₄ : (s.offset .scopeNotes).toNat = s.prefixBytes 4 := s.OFF_offset_toNat .trynotes h₃
  have h₅ : (s.offset .yieldAndAwaitOffsets).toNat = s.prefixBytes 5 := s.OFF_offset_toNat .scopeNotes h₄
  cases a
  exacts [h₀, h₁, h₂, h₃, h₄, h₅]

/-- A present header ends at or before the bytes of any longer prefix. -/
theorem prefixBytes_add_le {a : DataArray} {n : Nat} (han : a.rank < n) (ha : s.present a) :
    s.prefixBytes a.rank + a.sizeof.toNat ≤ s.prefixBytes n := by
  have hsucc : s.prefixBytes (a.rank + 1) = s.prefixBytes a.rank + a.sizeof.toNat := by
    simp [prefixBytes_succ, DataArray.getElem?_all_rank, ha]
  have hmono : s.prefixBytes (a.rank + 1) ≤ s.prefixBytes n := by
    obtain ⟨d, rfl⟩ : ∃ d, n = a.rank + 1 + d := ⟨n - (a.rank + 1), by omega⟩
    rw [prefixBytes_eq, prefixBytes_eq, List.take_add _ (a.rank + 1) d, List.filter_append,
      List.length_append]
    omega
  omega

/-- **Two present headers never share a byte.** -/
theorem header_disjoint {a b : DataArray} (hab : a ≠ b) (ha : s.present a) (hb : s.present b) :
    (s.offset a).toNat + a.sizeof.toNat ≤ (s.offset b).toNat ∨
      (s.offset b).toNat + b.sizeof.toNat ≤ (s.offset a).toNat := by
  simp only [offset_toNat, packedOffset]
  rcases Nat.lt_or_gt_of_ne (fun h => hab (DataArray.rank_injective h)) with h | h
  · exact .inl (s.prefixBytes_add_le h ha)
  · exact .inr (s.prefixBytes_add_le h hb)

/-! ### The raw accessors -/

/-- The raw accessors `constsRaw()` … `yieldAndAwaitOffsetsRaw()`: assert that the header is
present, then return its address in `data`. -/
def arrayRaw (has : Bool) (expr : String) (off : size_t) : Except Fault uintptr_t := do
  mozAssert has expr
  pure (s.data + off)

/-- `constsRaw()`. -/
def constsRaw : Except Fault uintptr_t := s.arrayRaw s.hasConsts "hasConsts()" s.constsOffset

/-- `objectsRaw()`. -/
def objectsRaw : Except Fault uintptr_t := s.arrayRaw s.hasObjects "hasObjects()" s.objectsOffset

/-- `scopesRaw()`: every script has its scopes, and the accessor asserts nothing. -/
def scopesRaw : uintptr_t := s.data + s.scopesOffset

/-- `trynotesRaw()`. -/
def trynotesRaw : Except Fault uintptr_t :=
  s.arrayRaw s.hasTrynotes "hasTrynotes()" s.trynotesOffset

/-- `scopeNotesRaw()`. -/
def scopeNotesRaw : Except Fault uintptr_t :=
  s.arrayRaw s.hasScopeNotes "hasScopeNotes()" s.scopeNotesOffset

/-- `yieldAndAwaitOffsetsRaw()`. -/
def yieldAndAwaitOffsetsRaw : Except Fault uintptr_t :=
  s.arrayRaw s.hasYieldAndAwaitOffsets "hasYieldAndAwaitOffsets()" s.yieldAndAwaitOffsetsOffset

/-- The raw accessor of each header. -/
def raw : DataArray → Except Fault uintptr_t
  | .scopes => pure s.scopesRaw
  | .consts => s.constsRaw
  | .objects => s.objectsRaw
  | .trynotes => s.trynotesRaw
  | .scopeNotes => s.scopeNotesRaw
  | .yieldAndAwaitOffsets => s.yieldAndAwaitOffsetsRaw

theorem arrayRaw_eq (has : Bool) (expr : String) (off : size_t) :
    s.arrayRaw has expr off = if has then .ok (s.data + off) else .error (.assertion expr) := by
  cases has <;> rfl

/-- **A raw accessor returns a header's address exactly when the header is present**, and the
address is `data` plus the header's packed offset. -/
theorem raw_eq_ok_iff (a : DataArray) (p : uintptr_t) :
    s.raw a = .ok p ↔ s.present a ∧ p = s.data + s.offset a := by
  cases a
  case scopes => exact ⟨fun h => ⟨rfl, (Except.ok.inj h).symm⟩, fun h => h.2 ▸ rfl⟩
  all_goals
    simp only [raw, constsRaw, objectsRaw, trynotesRaw, scopeNotesRaw, yieldAndAwaitOffsetsRaw,
      arrayRaw_eq, present, offset]
    split <;> simp [*, eq_comm]

/-- **The headers of `data` are packed**: each offset is the bytes of the present headers
before it, so it depends only on the presence bits of the arrays before it; two present headers
share no byte; and a raw accessor returns exactly the present headers. -/
theorem trailingHeaders_packed :
    (∀ a, (s.offset a).toNat = s.packedOffset a) ∧
    (∀ a b, a ≠ b → s.present a → s.present b →
      (s.offset a).toNat + a.sizeof.toNat ≤ (s.offset b).toNat ∨
        (s.offset b).toNat + b.sizeof.toNat ≤ (s.offset a).toNat) ∧
    (∀ a p, s.raw a = .ok p ↔ s.present a ∧ p = s.data + s.offset a) :=
  ⟨s.offset_toNat, fun _ _ hab ha hb => s.header_disjoint hab ha hb, s.raw_eq_ok_iff⟩

/-! ### Setting a presence bit -/

theorem present_array (kind : ArrayKind) : s.present kind.array = s.hasArray kind := by
  cases kind <;> rfl

@[simp] theorem present_setHasArray (kind : ArrayKind) (a : DataArray) :
    (s.setHasArray kind).present a = (a == kind.array || s.present a) := by
  cases a <;> cases kind <;>
    simp only [present, hasConsts, hasObjects, hasTrynotes, hasScopeNotes, hasArray_setHasArray,
      ArrayKind.array] <;> rfl

theorem prefixBytes_setHasArray (kind : ArrayKind) (n : Nat) :
    (s.setHasArray kind).prefixBytes n =
      s.prefixBytes n + if kind.array.rank < n ∧ s.hasArray kind = false then 16 else 0 := by
  have hk := kind.rank_array_lt
  induction n with
  | zero => simp [prefixBytes_eq]
  | succ n ih =>
    rw [prefixBytes_succ, prefixBytes_succ, ih]
    cases h : DataArray.all[n]? with
    | none =>
      have : 6 ≤ n := List.getElem?_eq_none_iff.1 h
      simp [show kind.array.rank < n by omega, show kind.array.rank < n + 1 by omega]
    | some b =>
      have hb : b.rank = n := DataArray.getElem?_all_eq_some.1 h
      by_cases hbk : b = kind.array
      · subst hbk hb
        cases hp : s.hasArray kind <;> simp [List.filter, present_array, hp]
      · have hbeq : (b == kind.array) = false := by simpa using hbk
        have hlt : kind.array.rank < n + 1 ↔ kind.array.rank < n := by
          have : kind.array.rank ≠ n := fun h' => hbk (DataArray.rank_injective (hb.trans h'.symm))
          omega
        simp only [Option.toList_some, List.filter, present_setHasArray, hbeq, Bool.false_or, hlt]
        omega

/-- **`setHasArray(kind)` moves only the headers after `kind`**, each by one header when `kind`
was absent; every header up to `kind` keeps its offset. -/
theorem offset_setHasArray (kind : ArrayKind) (a : DataArray) :
    ((s.setHasArray kind).offset a).toNat =
      (s.offset a).toNat + if kind.array.rank < a.rank ∧ s.hasArray kind = false then 16 else 0 := by
  rw [offset_toNat, offset_toNat, packedOffset, packedOffset, prefixBytes_setHasArray]

end JSScript

end JsScript
