/-
# `ScriptSource` reference counts

`ScriptSource` (`js/vm/JSScript.h`, lines 535-536 and 704-714) counts its owners in the
`uint32_t` field `refs`: `incref()` increments it; `decref()` asserts it is not zero,
decrements it, and `js_delete`s the source when it reaches zero, running the destructor, which
asserts `refs == 0`.  The sources of a run live in a `SourceHeap`: each allocation at its
pointer (its index), with `SourceCell.freed` once `js_delete` has freed it.

`SourceHeap.Agrees heap c` says that the heap matches a count `c` of the references to each
source: a source in use has `refs = c`, and a source with a reference is in use.
`SourceHeap.transfer` is an `incref` followed by a `decref`, each optional, the order of
`ScriptSourceHolder::reset`; `SourceHeap.transfer_agrees` says once, for every caller, that
when the new reference keeps the count below `2^32` and the dropped one exists, it succeeds,
keeps the heap agreeing with the moved count, and frees exactly the sources whose count falls
from a positive value to zero.
-/

import JsScript.Basic

namespace JsScript

/-- The part of `ScriptSource` that its reference counting reads and writes. -/
structure ScriptSource where
  refs : uint32_t
  deriving DecidableEq, Repr

namespace ScriptSource

/-- `ScriptSource()`: `refs(0)`. -/
def create : ScriptSource := ⟨0⟩

/-- `~ScriptSource()`. -/
def destroy (ss : ScriptSource) : Except Fault Unit :=
  mozAssert (ss.refs == 0) "refs == 0"

/-- `incref()`: `refs++`. -/
def incref (ss : ScriptSource) : ScriptSource := ⟨ss.refs + 1⟩

/-- `decref()`: `none` when `js_delete(this)` has freed the source. -/
def decref (ss : ScriptSource) : Except Fault (Option ScriptSource) := do
  mozAssert (ss.refs != 0) "refs != 0"
  let refs := ss.refs - 1
  if refs == 0 then
    destroy ⟨refs⟩
    pure none
  else
    pure (some ⟨refs⟩)

theorem incref_refs_toNat {ss : ScriptSource} (h : ss.refs.toNat + 1 < 2 ^ 32) :
    ss.incref.refs.toNat = ss.refs.toNat + 1 := by
  simp only [incref]; bv_omega

/-- **`decref` on a counted source.**  It passes its assertion, and frees the source exactly
when `refs` is `1`, after which the destructor's `refs == 0` holds. -/
theorem decref_of_ne_zero {ss : ScriptSource} (h : ss.refs ≠ 0) :
    ss.decref = .ok (if ss.refs = 1 then none else some ⟨ss.refs - 1⟩) := by
  have hsub : (ss.refs - 1 == 0) = decide (ss.refs = 1) := by
    rw [Bool.eq_iff_iff, beq_iff_eq, decide_eq_true_iff]; bv_omega
  have hne : (ss.refs != 0) = true := by simpa using h
  simp only [decref, hne, mozAssert_true, hsub, destroy]
  by_cases h1 : ss.refs = 1
  · simp only [h1, decide_True, if_true]; rfl
  · simp only [h1, decide_False, if_false]; rfl

/-- **`decref` at zero fires its assertion.** -/
theorem decref_zero : (⟨0⟩ : ScriptSource).decref = .error (.assertion "refs != 0") := rfl

end ScriptSource

/-- One allocation of a `ScriptSource`. -/
inductive SourceCell
  | live (ss : ScriptSource)
  | freed
  deriving DecidableEq, Repr

/-- Every `ScriptSource` a run has allocated, at its pointer. -/
abbrev SourceHeap := List SourceCell

/-- The reference counts `c` after one reference to `acq` is taken and one to `rel` dropped. -/
def move (c : Nat → Nat) (acq rel : Option Nat) (q : Nat) : Nat :=
  c q + (if acq = some q then 1 else 0) - (if rel = some q then 1 else 0)

namespace SourceHeap

/-- `ss->incref()` through the pointer `p`. -/
def incref (heap : SourceHeap) (p : Nat) : Except Fault SourceHeap :=
  match heap[p]? with
  | some (.live ss) => pure (heap.set p (.live ss.incref))
  | _ => throw (.dangling p)

/-- `ss->decref()` through the pointer `p`. -/
def decref (heap : SourceHeap) (p : Nat) : Except Fault SourceHeap :=
  match heap[p]? with
  | some (.live ss) => do
      let ss' ← ss.decref
      pure (heap.set p (match ss' with | some ss' => .live ss' | none => .freed))
  | _ => throw (.dangling p)

/-- `if (acq) acq->incref(); if (rel) rel->decref();` -/
def transfer (heap : SourceHeap) (acq rel : Option Nat) : Except Fault SourceHeap :=
  (match acq with | some p => heap.incref p | none => pure heap) >>= fun heap =>
    match rel with | some p => heap.decref p | none => pure heap

/-- The heap matches the reference counts `c`. -/
structure Agrees (heap : SourceHeap) (c : Nat → Nat) : Prop where
  refs_eq : ∀ p ss, heap[p]? = some (.live ss) → ss.refs.toNat = c p
  live_of_pos : ∀ p, 0 < c p → ∃ ss, heap[p]? = some (.live ss)

variable {heap : SourceHeap} {c : Nat → Nat} {p : Nat}

/-- Writing the cell at `p` keeps the heap agreeing with counts that change only at `p`, when
the new cell agrees with the new count there. -/
theorem Agrees.set (h : heap.Agrees c) (hlt : p < heap.length) {cell : SourceCell}
    {c' : Nat → Nat} (hframe : ∀ q, p ≠ q → c' q = c q)
    (hrefs : ∀ ss, cell = .live ss → ss.refs.toNat = c' p) (hlive : 0 < c' p → ∃ ss, cell = .live ss) :
    Agrees (heap.set p cell) c' := by
  refine ⟨fun q ss hq => ?_, fun q hq => ?_⟩
  · by_cases hqp : p = q
    · subst hqp
      exact hrefs ss (Option.some.inj ((List.getElem?_set_self hlt).symm.trans hq))
    · rw [List.getElem?_set_ne hqp] at hq
      rw [hframe q hqp, h.refs_eq q ss hq]
  · by_cases hqp : p = q
    · subst hqp
      obtain ⟨ss, rfl⟩ := hlive hq
      exact ⟨ss, List.getElem?_set_self hlt⟩
    · rw [List.getElem?_set_ne hqp]
      exact h.live_of_pos q (hframe q hqp ▸ hq)

theorem incref_agrees (h : heap.Agrees c) (hp : ∃ ss, heap[p]? = some (.live ss))
    (hc : c p + 1 < 2 ^ 32) :
    ∃ heap' : SourceHeap, heap.incref p = .ok heap' ∧ heap'.Agrees (move c (some p) none) ∧
      ∀ q : Nat, heap'[q]? = some .freed ↔ heap[q]? = some .freed := by
  obtain ⟨ss, hss⟩ := hp
  have hlt : p < heap.length := (List.getElem?_eq_some_iff.1 hss).1
  have hrefs := h.refs_eq p ss hss
  refine ⟨_, by simp [incref, hss]; rfl, h.set hlt (fun q hqp => by simp [move, hqp]) ?_
    (fun _ => ⟨_, rfl⟩), fun q => ?_⟩
  · rintro _ ⟨⟩
    rw [ScriptSource.incref_refs_toNat (by omega)]
    simp [move, hrefs]
  · by_cases hqp : p = q
    · subst hqp; simp [List.getElem?_set_self hlt, hss]
    · rw [List.getElem?_set_ne hqp]

theorem decref_agrees (h : heap.Agrees c) (hc : 0 < c p) :
    ∃ heap' : SourceHeap, heap.decref p = .ok heap' ∧ heap'.Agrees (move c none (some p)) ∧
      ∀ q : Nat, heap'[q]? = some .freed ↔ heap[q]? = some .freed ∨ (q = p ∧ c p = 1) := by
  obtain ⟨ss, hss⟩ := h.live_of_pos p hc
  have hlt : p < heap.length := (List.getElem?_eq_some_iff.1 hss).1
  have hrefs := h.refs_eq p ss hss
  have hne : ss.refs ≠ 0 := fun h0 => by simp [h0] at hrefs; omega
  have hone : ss.refs = 1 ↔ c p = 1 := by
    rw [BitVec.toNat_eq, hrefs]; simp
  refine ⟨heap.set p (if ss.refs = 1 then .freed else .live ⟨ss.refs - 1⟩), ?_,
    h.set hlt (fun q hqp => by simp [move, hqp]) ?_ ?_, fun q => ?_⟩
  · simp only [decref, hss, ScriptSource.decref_of_ne_zero hne]
    split_ifs <;> rfl
  · intro ss' hss'
    split_ifs at hss' with h1
    cases hss'
    simp [move]
    bv_omega
  · intro hp
    rw [if_neg fun h1 => by simp [move, hone.1 h1] at hp]
    exact ⟨_, rfl⟩
  · by_cases hqp : p = q
    · subst hqp
      rw [List.getElem?_set_self hlt, hss, ← hone]
      split_ifs with h1
      · simp [h1]
      · simpa using h1
    · rw [List.getElem?_set_ne hqp]
      simp [Ne.symm hqp]

/-- **A new source is counted zero.**  `ScriptSource()` at the end of the heap keeps it agreeing
with the same counts, since nothing can yet refer to the new pointer. -/
theorem Agrees.append_create (h : heap.Agrees c) :
    (heap ++ [SourceCell.live ScriptSource.create]).Agrees c := by
  have hlen : c heap.length = 0 := by
    by_contra hne
    obtain ⟨ss, hss⟩ := h.live_of_pos _ (Nat.pos_of_ne_zero hne)
    rw [List.getElem?_eq_none (Nat.le_refl _)] at hss
    cases hss
  refine ⟨fun p ss hp => ?_, fun p hp => ?_⟩
  · rcases Nat.lt_or_ge p heap.length with hlt | hge
    · rw [List.getElem?_append_left hlt] at hp; exact h.refs_eq p ss hp
    · rw [List.getElem?_append_right hge] at hp
      obtain ⟨h0, hss⟩ := List.getElem?_eq_some_iff.1 hp
      obtain rfl : p = heap.length := by simp at h0; omega
      simp only [Nat.sub_self, List.getElem_singleton, SourceCell.live.injEq] at hss
      simp [← hss, ScriptSource.create, hlen]
  · obtain ⟨ss, hss⟩ := h.live_of_pos p hp
    exact ⟨ss, by rw [List.getElem?_append_left (List.getElem?_eq_some_iff.1 hss).1]; exact hss⟩

theorem move_none_none (c : Nat → Nat) : move c none none = c := by
  funext q; simp [move]

theorem move_acquire_release (c : Nat → Nat) (acq rel : Option Nat) :
    move (move c acq none) none rel = move c acq rel := by
  funext q; simp [move]

theorem le_move_none (c : Nat → Nat) (acq : Option Nat) (q : Nat) : c q ≤ move c acq none q := by
  simp [move]

theorem move_release_self (c : Nat → Nat) (acq : Option Nat) (q : Nat) :
    move c acq (some q) q = move c acq none q - 1 := by
  simp [move]

theorem move_release_ne (c : Nat → Nat) (acq : Option Nat) {q r : Nat} (h : q ≠ r) :
    move c acq (some r) q = move c acq none q := by
  simp [move, Ne.symm h]

/-- The `incref` half of `transfer`. -/
theorem acquire_agrees {acq : Option Nat} (h : heap.Agrees c)
    (hacq : ∀ p ∈ acq, (∃ ss, heap[p]? = some (.live ss)) ∧ c p + 1 < 2 ^ 32) :
    ∃ heap' : SourceHeap, (match acq with | some p => heap.incref p | none => pure heap) = .ok heap' ∧
      heap'.Agrees (move c acq none) ∧ ∀ q : Nat, heap'[q]? = some .freed ↔ heap[q]? = some .freed := by
  cases acq with
  | none => exact ⟨heap, rfl, by rwa [move_none_none], fun _ => Iff.rfl⟩
  | some p => exact incref_agrees h (hacq p rfl).1 (hacq p rfl).2

/-- **One reference taken, one dropped.**  `transfer` succeeds when the taken reference is to a
source in use and keeps its count below `2^32`, and the dropped one exists; the heap then agrees
with the moved counts, and a source is freed by it exactly when its count falls from a positive
value to zero. -/
theorem transfer_agrees {acq rel : Option Nat} (h : heap.Agrees c)
    (hacq : ∀ p ∈ acq, (∃ ss, heap[p]? = some (.live ss)) ∧ c p + 1 < 2 ^ 32)
    (hrel : ∀ p ∈ rel, 0 < c p) :
    ∃ heap' : SourceHeap, heap.transfer acq rel = .ok heap' ∧ heap'.Agrees (move c acq rel) ∧
      ∀ q : Nat, heap'[q]? = some .freed ↔
        heap[q]? = some .freed ∨ (0 < c q ∧ move c acq rel q = 0) := by
  obtain ⟨heap₁, h₁, hag₁, hfr₁⟩ := acquire_agrees h hacq
  cases rel with
  | none =>
    refine ⟨heap₁, by simp only [transfer, h₁]; rfl, hag₁, fun q => ?_⟩
    have := le_move_none c acq q
    rw [hfr₁]
    exact ⟨Or.inl, fun h => h.elim id fun ⟨hq, hz⟩ => by omega⟩
  | some r =>
    have hcr := hrel r rfl
    obtain ⟨heap', h', hag', hfr'⟩ :=
      decref_agrees hag₁ (Nat.lt_of_lt_of_le hcr (le_move_none c acq r))
    refine ⟨heap', by simp only [transfer, h₁]; exact h', move_acquire_release c acq (some r) ▸ hag',
      fun q => ?_⟩
    rw [hfr', hfr₁]
    have := le_move_none c acq q
    by_cases hqr : q = r
    · subst hqr
      rw [move_release_self]
      exact or_congr_right ⟨fun ⟨_, h1⟩ => ⟨hcr, by omega⟩, fun ⟨_, h0⟩ => ⟨rfl, by omega⟩⟩
    · rw [move_release_ne c acq hqr]
      exact or_congr_right ⟨fun ⟨hq, _⟩ => absurd hq hqr, fun ⟨hq, hz⟩ => by omega⟩

end SourceHeap

end JsScript
