/-
# `uint32_t` bit-fields in a 64-bit word

`LazyScript::PackedView` (`js/vm/JSScript.h`, lines 2768-2804) is a run of `uint32_t`
bit-fields sharing a union with the `uint64_t` `packedFields_`.  The C++ compilers the engine is
built with on x86-64 lay such a run out in 32-bit allocation units, each filled from its low
bit up, and start a field that does not fit in what is left of the current unit at the next
one: `allocate` computes the bit offsets.  A field read through the union is the word's bits at
its offset (`loadField`); a store sets those bits and no other (`storeField`).

`allocate_le_of_lt` says a field ends before every later field begins, so fields never
overlap; `loadField_storeField_self` and `loadField_storeField_of_disjoint` say what a read
after a store sees.
-/

import JsScript.Basic

namespace JsScript

/-- The bit offsets of consecutive `uint32_t` bit-fields of widths `ws`, laid out from bit
`pos` in 32-bit allocation units. -/
def allocate : Nat → List Nat → List Nat
  | _, [] => []
  | pos, w :: ws =>
    let off := if pos % 32 + w ≤ 32 then pos else (pos / 32 + 1) * 32
    off :: allocate (off + w) ws

@[simp] theorem length_allocate (pos : Nat) (ws : List Nat) : (allocate pos ws).length = ws.length := by
  induction ws generalizing pos <;> simp [allocate, *]

theorem le_of_mem_allocate {pos off : Nat} {ws : List Nat} (h : off ∈ allocate pos ws) : pos ≤ off := by
  induction ws generalizing pos with
  | nil => simp [allocate] at h
  | cons w ws ih =>
    simp only [allocate, List.mem_cons] at h
    have hoff : pos ≤ if pos % 32 + w ≤ 32 then pos else (pos / 32 + 1) * 32 := by
      split_ifs <;> omega
    rcases h with rfl | h
    · exact hoff
    · have := ih h; omega

/-- **Bit-fields do not overlap.**  Each field ends before every later field begins. -/
theorem allocate_le_of_lt {pos : Nat} {ws : List Nat} {i j : Nat} (hij : i < j)
    (hj : j < ws.length) : (allocate pos ws).getD i 0 + ws.getD i 0 ≤ (allocate pos ws).getD j 0 := by
  induction ws generalizing pos i j with
  | nil => simp at hj
  | cons w ws ih =>
    obtain ⟨j, rfl⟩ : ∃ j', j = j' + 1 := ⟨j - 1, by omega⟩
    simp only [allocate, List.getD_cons_succ]
    cases i with
    | zero =>
      rw [List.getD_cons_zero, List.getD_cons_zero, List.getD_eq_getElem?_getD,
        List.getElem?_eq_getElem (by simp at hj ⊢; omega), Option.getD_some]
      exact le_of_mem_allocate (List.getElem_mem _)
    | succ i =>
      simp only [List.getD_cons_succ]
      exact ih (by omega) (by simpa using hj)

/-- The bit-field of `w` bits at bit `off` of `x`. -/
def loadField (off w : Nat) (x : uint64_t) : BitVec w := (x >>> off).setWidth w

/-- `x` with the bit-field of `w` bits at bit `off` set to `v`. -/
def storeField (off : Nat) {w : Nat} (v : BitVec w) (x : uint64_t) : uint64_t :=
  (x &&& ~~~((BitVec.allOnes w).setWidth 64 <<< off)) ||| (v.setWidth 64 <<< off)

theorem getLsbD_loadField (off w : Nat) (x : uint64_t) (j : Nat) :
    (loadField off w x).getLsbD j = (decide (j < w) && x.getLsbD (off + j)) := by
  simp [loadField]

/-- **A store writes its own bits and no other.** -/
theorem getLsbD_storeField {off w : Nat} (v : BitVec w) (x : uint64_t) (h : off + w ≤ 64)
    (i : Nat) :
    (storeField off v x).getLsbD i =
      if off ≤ i ∧ i < off + w then v.getLsbD (i - off) else x.getLsbD i := by
  simp only [storeField, BitVec.getLsbD_or, BitVec.getLsbD_and, BitVec.getLsbD_not,
    BitVec.getLsbD_shiftLeft, BitVec.getLsbD_setWidth, BitVec.getLsbD_allOnes]
  by_cases hi : i < 64
  · split_ifs with hin
    · have : i - off < w := by omega
      simp [hi, hin.1, this, show ¬ i < off by omega, show i - off < 64 by omega]
    · by_cases hoff : i < off
      · simp [hi, hoff]
      · have : ¬ i - off < w := by omega
        simp [hi, hoff, this, BitVec.getLsbD_ge v (i - off) (by omega)]
  · simp [hi, BitVec.getLsbD_ge x i (by omega), show ¬ (off ≤ i ∧ i < off + w) by omega]

theorem loadField_storeField_self {off w : Nat} (v : BitVec w) (x : uint64_t) (h : off + w ≤ 64) :
    loadField off w (storeField off v x) = v := by
  apply BitVec.eq_of_getLsbD_eq
  intro j
  rw [getLsbD_loadField, getLsbD_storeField v x h, if_pos ⟨by omega, by omega⟩,
    Nat.add_sub_cancel_left]
  simp

theorem loadField_storeField_of_disjoint {off w off' w' : Nat} (v : BitVec w') (x : uint64_t)
    (h' : off' + w' ≤ 64) (hd : off + w ≤ off' ∨ off' + w' ≤ off) :
    loadField off w (storeField off' v x) = loadField off w x := by
  apply BitVec.eq_of_getLsbD_eq
  intro j
  rw [getLsbD_loadField, getLsbD_loadField, getLsbD_storeField v x h',
    if_neg (by have := j.isLt; omega)]

end JsScript
