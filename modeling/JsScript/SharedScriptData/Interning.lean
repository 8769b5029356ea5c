/-
# Interning `SharedScriptData` in the `ScriptDataTable`

`src/src/js/vm/JSScript.h`, lines 1278-1306 (the reference count of `SharedScriptData`) and
1351-1392 (`ScriptBytecodeHasher`, `ScriptDataTable`, `SweepScriptData`).

A script's emitter fills a fresh block, which the script holds with `refCount_ = 1`.  The
script then shares it: if the table holds a block that `ScriptBytecodeHasher::match`es it, the
script drops the fresh block and takes a reference to the one in the table; otherwise the fresh
block enters the table, which holds a reference of its own.  Finalizing a script drops its
reference, and a sweep drops the table's reference to every block no script holds any more,
which frees it.  The header declares the table, the hasher and the reference count; the code of
`shareScriptData`, `freeScriptData` and `SweepScriptData` is in `JSScript.cpp`, so a run here
(`DataWorld.step`) is modelled from the spec, over the code's `match`, `incRefCount` and
`decRefCount`.

Along every run (`DataWorld.Reachable.interned`): each block's `refCount_` is the number of
scripts holding it plus one while the table holds it, so `decRefCount` never meets zero and a
block is freed only when its last reference goes; every script's block is in the table, and two
scripts hold structurally equal bytecode exactly when they hold the same block; sharing gives
the new script a block structurally equal to the one its emitter filled; and every operation
callers may make runs without a fault.  No block leaks (`DataWorld.Reachable.sweep_collects`):
a block is in use exactly when a script or the table holds it, and after a sweep exactly when a
script holds it.  Along every run from a reachable world
(`DataWorld.Reachable.bytecode_stable`), a script keeps the block it holds, and the block its
bytecode, until the script is finalized: bytecode is attached once and never written again.
-/

import JsScript.SharedScriptData.Hasher
import Mathlib.Data.List.Nodup

namespace JsScript

/-- One allocation of a `SharedScriptData`. -/
inductive DataCell
  | live (d : SharedScriptData)
  | freed
  deriving DecidableEq, Repr

/-- The cell `decRefCount()` leaves: the block, or nothing once `js_free` released it. -/
def DataCell.ofDecRef : Option SharedScriptData → DataCell
  | some d => .live d
  | none => .freed

/-- Modelled from the spec: the blocks a run has allocated, at their pointers, the pointers in
the `ScriptDataTable`, and the `scriptData_` of each script made so far (`none` once
finalized). -/
structure DataWorld where
  heap : List DataCell
  table : List Nat
  scripts : List (Option Nat)
  deriving DecidableEq, Repr

/-- Modelled from the spec: what a run does with shared bytecode. -/
inductive DataOp
  /-- A new script shares the block its emitter filled (`shareScriptData`). -/
  | share (candidate : SharedScriptData)
  /-- The script `i` is finalized and drops its block (`freeScriptData`). -/
  | finalize (i : Nat)
  /-- `SweepScriptData`. -/
  | sweep
  deriving DecidableEq, Repr

namespace DataWorld

variable (w : DataWorld)

/-- Nothing allocated yet. -/
def init : DataWorld := ⟨[], [], []⟩

/-- The block at `p`, or a fault when it is not allocated or was freed. -/
def block (p : Nat) : Except Fault SharedScriptData :=
  match w.heap[p]? with
  | some (.live d) => pure d
  | _ => throw (.dangling p)

/-- `lookupForAdd(lookup)`: the entry of the table whose block `match`es the candidate. -/
def lookup (candidate : SharedScriptData) : Option Nat :=
  w.table.find? fun p => match w.heap[p]? with
    | some (.live d) => ScriptBytecodeHasher.match d ⟨candidate⟩ == some true
    | _ => false

/-- Modelled from the spec: `shareScriptData()` for a new script holding `candidate`.  On a hit
the script frees its own block and takes a reference to the table's; on a miss its block enters
the table, and being in the table counts as a reference. -/
def share (candidate : SharedScriptData) : Except Fault DataWorld :=
  match w.lookup candidate with
  | some p => do
    let c ← candidate.decRefCount
    let d ← w.block p
    pure { w with heap := (w.heap ++ [DataCell.ofDecRef c]).set p (.live d.incRefCount),
                  scripts := w.scripts ++ [some p] }
  | none =>
    pure ⟨w.heap ++ [.live candidate.incRefCount], w.table ++ [w.heap.length],
      w.scripts ++ [some w.heap.length]⟩

/-- Modelled from the spec: finalizing the script `i` drops its reference to its block. -/
def finalize (i : Nat) : Except Fault DataWorld :=
  match w.scripts[i]? with
  | some (some p) => do
    let d ← w.block p
    let d' ← d.decRefCount
    pure { w with heap := w.heap.set p (.ofDecRef d'), scripts := w.scripts.set i none }
  | _ => pure w

/-- Modelled from the spec: one entry of `SweepScriptData`.  A block only the table holds
leaves the table, which drops its reference. -/
def sweepEntry (p : Nat) : Except Fault DataWorld := do
  let d ← w.block p
  if d.refCount_ == 1 then
    let d' ← d.decRefCount
    pure { w with heap := w.heap.set p (.ofDecRef d'), table := w.table.erase p }
  else pure w

/-- Modelled from the spec: `SweepScriptData`, over every entry of the table. -/
def sweep : Except Fault DataWorld := w.table.foldlM sweepEntry w

/-- One operation. -/
def step : DataOp → Except Fault DataWorld
  | .share candidate => w.share candidate
  | .finalize i => w.finalize i
  | .sweep => w.sweep

/-- What callers promise: a fresh block held once, with room for one more reference to any
block; and only scripts that still hold their block are finalized. -/
def Admissible : DataOp → Prop
  | .share candidate => candidate.refCount_ = 1 ∧ w.scripts.length + 2 < 2 ^ 32
  | .finalize i => (w.scripts[i]?).join.isSome
  | .sweep => True

/-- The references the run holds to the block at `p`: its scripts' and the table's. -/
def count (p : Nat) : Nat := w.scripts.count (some p) + w.table.count p

end DataWorld

/-- What `match` compares of a block: its three lengths and its payload. -/
def SharedScriptData.bytecode (d : SharedScriptData) : uint32_t × uint32_t × uint32_t × List uint8_t :=
  (d.natoms, d.codeLength, d.numNotes, d.data)

/-- The bytecode of the block at `p`, if one is there. -/
def bytecodeAt (heap : List DataCell) (p : Nat) : Option (uint32_t × uint32_t × uint32_t × List uint8_t) :=
  match heap[p]? with
  | some (.live d) => some d.bytecode
  | _ => none

/-- The heap agrees with the counts `c`: a block is in use exactly when it is counted, and then
its `refCount_` is its count. -/
structure Counted (heap : List DataCell) (c : Nat → Nat) : Prop where
  refs_eq : ∀ p d, heap[p]? = some (.live d) → d.refCount_.toNat = c p
  live_of_pos : ∀ p, 0 < c p → ∃ d, heap[p]? = some (.live d)
  pos_of_live : ∀ p d, heap[p]? = some (.live d) → 0 < c p

namespace DataWorld

variable (w : DataWorld)

/-- The blocks the table or a script holds are allocated and counted, the table holds each
block once and holds every script's block, and it holds no two blocks that `match`. -/
structure Inv : Prop where
  counted : Counted w.heap w.count
  table_nodup : w.table.Nodup
  registered : ∀ p, some p ∈ w.scripts → p ∈ w.table
  distinct : ∀ p ∈ w.table, ∀ q ∈ w.table, bytecodeAt w.heap p = bytecodeAt w.heap q → p = q

/-- The worlds runs of admissible operations reach from `init`. -/
inductive Reachable : DataWorld → Prop
  | init : Reachable init
  | step {w w' : DataWorld} (op : DataOp) :
    Reachable w → w.Admissible op → w.step op = .ok w' → Reachable w'

end DataWorld

/-! ### The heap and its counts -/

namespace Counted

variable {heap : List DataCell} {c : Nat → Nat}

/-- Writing the cell at `p` keeps the heap agreeing with counts that change only at `p`, when
the new cell agrees with the new count there. -/
theorem set (h : Counted heap c) {p : Nat} (hlt : p < heap.length) {cell : DataCell}
    {c' : Nat → Nat} (hframe : ∀ q, p ≠ q → c' q = c q)
    (hrefs : ∀ d, cell = .live d → d.refCount_.toNat = c' p) (hpos : ∀ d, cell = .live d → 0 < c' p)
    (hlive : 0 < c' p → ∃ d, cell = .live d) :
    Counted (heap.set p cell) c' := by
  have hcell : ∀ q d, (heap.set p cell)[q]? = some (.live d) → d.refCount_.toNat = c' q ∧ 0 < c' q := by
    intro q d hq
    by_cases hqp : p = q
    · subst hqp
      have hc := Option.some.inj ((List.getElem?_set_self hlt).symm.trans hq)
      exact ⟨hrefs d hc, hpos d hc⟩
    · rw [List.getElem?_set_ne hqp] at hq
      rw [hframe q hqp]
      exact ⟨h.refs_eq q d hq, h.pos_of_live q d hq⟩
  refine ⟨fun q d hq => (hcell q d hq).1, fun q hq => ?_, fun q d hq => (hcell q d hq).2⟩
  by_cases hqp : p = q
  · subst hqp
    obtain ⟨d, rfl⟩ := hlive hq
    exact ⟨d, List.getElem?_set_self hlt⟩
  · rw [List.getElem?_set_ne hqp]
    exact h.live_of_pos q (hframe q hqp ▸ hq)

/-- A freed cell at the end changes nothing: no count reaches past the heap. -/
theorem append_freed (h : Counted heap c) : Counted (heap ++ [.freed]) c := by
  have hold : ∀ (q : Nat) d, (heap ++ [DataCell.freed])[q]? = some (DataCell.live d) →
      heap[q]? = some (DataCell.live d) := by
    intro q d hq
    rcases Nat.lt_or_ge q heap.length with hlt | hge
    · rwa [List.getElem?_append_left hlt] at hq
    · rw [List.getElem?_append_right hge] at hq
      exact absurd (List.getElem?_mem hq) (by simp)
  refine ⟨fun q d hq => h.refs_eq q d (hold q d hq), fun q hq => ?_,
    fun q d hq => h.pos_of_live q d (hold q d hq)⟩
  obtain ⟨d, hd⟩ := h.live_of_pos q hq
  exact ⟨d, by rw [List.getElem?_append_left (List.getElem?_eq_some_iff.1 hd).1, hd]⟩

/-- Nothing is counted past the heap. -/
theorem count_length (h : Counted heap c) : c heap.length = 0 := by
  by_contra hne
  obtain ⟨d, hd⟩ := h.live_of_pos _ (Nat.pos_of_ne_zero hne)
  rw [List.getElem?_eq_none (Nat.le_refl _)] at hd
  cases hd

end Counted

theorem set_append_length {α : Type} (l : List α) (a b : α) : (l ++ [a]).set l.length b = l ++ [b] := by
  induction l with
  | nil => rfl
  | cons x l ih => simp [ih]

namespace ScriptBytecodeHasher

/-- **`match` compares bytecode**: the three lengths and the payload, never the count. -/
theorem match_eq_some_true (a b : SharedScriptData) :
    «match» a ⟨b⟩ = some true ↔ a.bytecode = b.bytecode := by
  simp only [SharedScriptData.bytecode, Prod.mk.injEq]
  by_cases hn : a.natoms = b.natoms
  · by_cases hc : a.codeLength = b.codeLength
    · by_cases hm : a.numNotes = b.numNotes
      · simp [match_of_header hn hc hm, hn, hc, hm]
      · simp [«match», hn, hc, hm]
    · simp [«match», hn, hc]
  · simp [«match», hn]

end ScriptBytecodeHasher

namespace SharedScriptData

@[simp] theorem bytecode_incRefCount (d : SharedScriptData) : d.incRefCount.bytecode = d.bytecode :=
  rfl

/-- `decRefCount` on a block held more than once keeps the block, one count lower. -/
theorem decRefCount_of_two_le {d : SharedScriptData} (h : 2 ≤ d.refCount_.toNat) :
    ∃ d', d.decRefCount = .ok (some d') ∧ d'.bytecode = d.bytecode ∧
      d'.refCount_.toNat = d.refCount_.toNat - 1 := by
  have hne : d.refCount_ ≠ 0 := fun h0 => by simp [h0] at h
  have h1 : d.refCount_ ≠ 1 := fun h1 => by simp [h1] at h
  rw [decRefCount_of_ne_zero hne, if_neg h1]
  exact ⟨_, rfl, rfl, by simp only; bv_omega⟩

/-- `decRefCount` on a block held once frees it. -/
theorem decRefCount_of_one {d : SharedScriptData} (h : d.refCount_ = 1) : d.decRefCount = .ok none := by
  rw [decRefCount_of_ne_zero (by rw [h]; decide), if_pos h]

end SharedScriptData

namespace DataWorld

variable {w : DataWorld}

theorem block_of_live {p : Nat} {d : SharedScriptData} (h : w.heap[p]? = some (.live d)) :
    w.block p = pure d := by
  simp only [block, h]

theorem lookup_some {c : SharedScriptData} {p : Nat} (h : w.lookup c = some p) :
    p ∈ w.table ∧ ∃ d, w.heap[p]? = some (.live d) ∧ d.bytecode = c.bytecode := by
  refine ⟨List.mem_of_find?_eq_some h, ?_⟩
  have hp := List.find?_some h
  split at hp
  · next d hd => exact ⟨d, hd, (ScriptBytecodeHasher.match_eq_some_true d c).1 (by simpa using hp)⟩
  · cases hp

theorem lookup_none {c : SharedScriptData} (h : w.lookup c = none) :
    ∀ p ∈ w.table, bytecodeAt w.heap p ≠ some c.bytecode := by
  intro p hp hb
  have := List.find?_eq_none.1 h p hp
  unfold bytecodeAt at hb
  split at hb
  · next d hd =>
    rw [hd] at this
    simp only [beq_iff_eq, (ScriptBytecodeHasher.match_eq_some_true d c).2 (Option.some.inj hb),
      not_true_eq_false] at this
  · cases hb

/-! ### What the bytecode at each pointer is -/

theorem bytecodeAt_set_live {heap : List DataCell} {p : Nat} {d e : SharedScriptData}
    (hp : heap[p]? = some (.live d)) (he : e.bytecode = d.bytecode) :
    bytecodeAt (heap.set p (.live e)) = bytecodeAt heap := by
  funext q
  by_cases hqp : p = q
  · subst hqp
    simp only [bytecodeAt, List.getElem?_set_self (List.getElem?_eq_some_iff.1 hp).1, hp, he]
  · simp only [bytecodeAt, List.getElem?_set_ne hqp]

theorem bytecodeAt_append {heap : List DataCell} (cell : DataCell) {q : Nat} (hq : q < heap.length) :
    bytecodeAt (heap ++ [cell]) q = bytecodeAt heap q := by
  simp only [bytecodeAt, List.getElem?_append_left hq]

theorem bytecodeAt_append_freed (heap : List DataCell) :
    bytecodeAt (heap ++ [.freed]) = bytecodeAt heap := by
  funext q
  rcases Nat.lt_or_ge q heap.length with hlt | hge
  · exact bytecodeAt_append _ hlt
  · simp only [bytecodeAt, List.getElem?_eq_none hge]
    rw [List.getElem?_append_right hge]
    rcases Nat.eq_zero_or_pos (q - heap.length) with h0 | hpos
    · simp [h0]
    · simp [List.getElem?_eq_none (show [DataCell.freed].length ≤ q - heap.length by simpa)]

theorem lt_of_bytecodeAt {heap : List DataCell} {q : Nat} {b : uint32_t × uint32_t × uint32_t × List uint8_t}
    (h : bytecodeAt heap q = some b) : q < heap.length := by
  unfold bytecodeAt at h
  split at h
  · next hq => exact (List.getElem?_eq_some_iff.1 hq).1
  · cases h

theorem bytecodeAt_of_live {heap : List DataCell} {q : Nat} {d : SharedScriptData}
    (h : heap[q]? = some (.live d)) : bytecodeAt heap q = some d.bytecode := by
  simp only [bytecodeAt, h]

theorem count_le (hi : w.Inv) (p : Nat) : w.count p ≤ w.scripts.length + 1 := by
  have h1 := List.count_le_length (some p) w.scripts
  have h2 := List.nodup_iff_count_le_one.1 hi.table_nodup p
  unfold count; omega

/-- A block of the table is in use. -/
theorem Inv.live_of_mem (hi : w.Inv) {p : Nat} (hp : p ∈ w.table) :
    ∃ d, w.heap[p]? = some (.live d) :=
  hi.counted.live_of_pos p (Nat.lt_add_left _ (List.count_pos_iff.2 hp))

/-- **No block leaks**: a block is in use exactly when a script or the table holds it. -/
theorem Inv.live_iff (hi : w.Inv) (p : Nat) :
    (∃ d, w.heap[p]? = some (.live d)) ↔ some p ∈ w.scripts ∨ p ∈ w.table := by
  refine ⟨fun ⟨d, hd⟩ => ?_, fun h => hi.live_of_mem (h.elim (hi.registered p) id)⟩
  have hpos := hi.counted.pos_of_live p d hd
  by_contra hn
  rw [not_or] at hn
  rw [count, List.count_eq_zero_of_not_mem hn.1, List.count_eq_zero_of_not_mem hn.2] at hpos
  exact Nat.lt_irrefl 0 hpos

/-! ### One operation -/

/-- A fresh block whose bytecode the table already holds: the script frees it and shares the
table's block. -/
theorem Inv.share_hit (hi : w.Inv) {c : SharedScriptData} (hop : w.Admissible (.share c))
    {p : Nat} (hl : w.lookup c = some p) :
    ∃ w' d, w.share c = .ok w' ∧ w'.Inv ∧ w'.scripts = w.scripts ++ [some p] ∧
      w'.heap[p]? = some (.live d) ∧ d.bytecode = c.bytecode ∧
      bytecodeAt w'.heap = bytecodeAt w.heap := by
  obtain ⟨hc1, hlen⟩ := hop
  obtain ⟨hpt, d, hd, hbc⟩ := lookup_some hl
  have hlt : p < w.heap.length := (List.getElem?_eq_some_iff.1 hd).1
  have hd' : (w.heap ++ [DataCell.freed])[p]? = some (.live d) := by
    rw [List.getElem?_append_left hlt, hd]
  have hrefs := hi.counted.refs_eq p d hd
  have hcount := count_le hi p
  let w' : DataWorld := { w with heap := (w.heap ++ [DataCell.freed]).set p (.live d.incRefCount),
                                 scripts := w.scripts ++ [some p] }
  have hcnt : ∀ q, w'.count q = w.count q + if p = q then 1 else 0 := by
    intro q
    simp only [w', count, List.count_append, List.count_singleton, beq_iff_eq, Option.some.injEq]
    omega
  have hbytes : bytecodeAt w'.heap = bytecodeAt w.heap := by
    rw [bytecodeAt_set_live (e := d.incRefCount) hd' rfl, bytecodeAt_append_freed]
  refine ⟨w', d.incRefCount, ?_, ⟨?_, hi.table_nodup, fun q hq => ?_, hbytes ▸ hi.distinct⟩, rfl,
    List.getElem?_set_self (by simp; omega), hbc, hbytes⟩
  · simp only [share, hl, SharedScriptData.decRefCount_of_one hc1, block_of_live hd]
    rfl
  · refine hi.counted.append_freed.set (by simp; omega) (fun q hqp => by rw [hcnt, if_neg hqp, Nat.add_zero])
      (fun e he => ?_) (fun _ _ => by rw [hcnt, if_pos rfl]; omega) (fun _ => ⟨_, rfl⟩)
    cases he
    rw [hcnt, if_pos rfl, ← hrefs]
    simp only [SharedScriptData.incRefCount]
    bv_omega
  · rcases List.mem_append.1 hq with hq | hq
    · exact hi.registered q hq
    · obtain rfl : q = p := by simpa using hq
      exact hpt

/-- A fresh block whose bytecode the table does not hold: it enters the table. -/
theorem Inv.share_miss (hi : w.Inv) {c : SharedScriptData} (hop : w.Admissible (.share c))
    (hl : w.lookup c = none) :
    ∃ w', w.share c = .ok w' ∧ w'.Inv ∧ w'.scripts = w.scripts ++ [some w.heap.length] ∧
      w'.heap[w.heap.length]? = some (.live c.incRefCount) ∧ w'.heap = w.heap ++ [.live c.incRefCount] := by
  obtain ⟨hc1, -⟩ := hop
  have h0 : w.count w.heap.length = 0 := hi.counted.count_length
  have hnot : w.heap.length ∉ w.table := fun h =>
    absurd h0 (Nat.ne_of_gt (Nat.lt_add_left _ (List.count_pos_iff.2 h)))
  let w' : DataWorld := ⟨w.heap ++ [.live c.incRefCount], w.table ++ [w.heap.length],
    w.scripts ++ [some w.heap.length]⟩
  have hcnt : ∀ q, w'.count q = w.count q + if w.heap.length = q then 2 else 0 := by
    intro q
    simp only [w', count, List.count_append, List.count_singleton, beq_iff_eq, Option.some.injEq]
    split_ifs <;> omega
  have hbc : ∀ q ∈ w.table, bytecodeAt w'.heap q = bytecodeAt w.heap q := fun q hq =>
    bytecodeAt_append _ (List.getElem?_eq_some_iff.1 (hi.live_of_mem hq).choose_spec).1
  refine ⟨w', by simp only [share, hl]; rfl, ⟨?_, ?_, fun q hq => ?_, ?_⟩, rfl, by simp [w'], rfl⟩
  · show Counted (w.heap ++ [.live c.incRefCount]) w'.count
    rw [← set_append_length w.heap DataCell.freed]
    refine hi.counted.append_freed.set (by simp) (fun q hqp => by rw [hcnt, if_neg hqp, Nat.add_zero])
      (fun e he => ?_) (fun _ _ => by rw [hcnt, if_pos rfl]; omega) (fun _ => ⟨_, rfl⟩)
    cases he
    rw [hcnt, if_pos rfl, h0]
    simp only [SharedScriptData.incRefCount, hc1]
    rfl
  · exact hi.table_nodup.append (List.nodup_singleton _) (List.disjoint_singleton.2 hnot)
  · rcases List.mem_append.1 hq with hq | hq
    · exact List.mem_append_left _ (hi.registered q hq)
    · obtain rfl : q = w.heap.length := by simpa using hq
      exact List.mem_append_right _ (List.mem_singleton_self _)
  · intro q hq r hr heq
    have hnew : bytecodeAt w'.heap w.heap.length = some c.bytecode :=
      bytecodeAt_of_live (d := c.incRefCount) (by simp [w'])
    rcases List.mem_append.1 hq with hq | hq <;> rcases List.mem_append.1 hr with hr | hr
    · rw [hbc q hq, hbc r hr] at heq
      exact hi.distinct q hq r hr heq
    · obtain rfl : r = w.heap.length := by simpa using hr
      rw [hbc q hq, hnew] at heq
      exact absurd heq (lookup_none hl q hq)
    · obtain rfl : q = w.heap.length := by simpa using hq
      rw [hbc r hr, hnew] at heq
      exact absurd heq.symm (lookup_none hl r hr)
    · simp only [List.mem_singleton] at hq hr
      rw [hq, hr]

/-- Finalizing a script drops its reference; the table's reference keeps the block. -/
theorem Inv.finalize (hi : w.Inv) {i : Nat} (hop : w.Admissible (.finalize i)) :
    ∃ w', w.finalize i = .ok w' ∧ w'.Inv ∧ w'.scripts = w.scripts.set i none ∧
      bytecodeAt w'.heap = bytecodeAt w.heap := by
  obtain ⟨p, hp⟩ := Option.isSome_iff_exists.1 hop
  have hsp : w.scripts[i]? = some (some p) := Option.join_eq_some.1 hp
  have hmem : some p ∈ w.scripts := List.getElem?_mem hsp
  have hilt : i < w.scripts.length := (List.getElem?_eq_some_iff.1 hsp).1
  obtain ⟨d, hd⟩ := hi.live_of_mem (hi.registered p hmem)
  have hlt : p < w.heap.length := (List.getElem?_eq_some_iff.1 hd).1
  have htwo : 2 ≤ d.refCount_.toNat := by
    rw [hi.counted.refs_eq p d hd, count]
    have := List.count_pos_iff.2 hmem
    have := List.count_pos_iff.2 (hi.registered p hmem)
    omega
  obtain ⟨d', hdec, hbc, hrefs'⟩ := SharedScriptData.decRefCount_of_two_le htwo
  let w' : DataWorld := { w with heap := w.heap.set p (.live d'), scripts := w.scripts.set i none }
  have hcnt : ∀ q, w'.count q = w.count q - if p = q then 1 else 0 := by
    intro q
    have hle : (if p = q then 1 else 0) ≤ w.scripts.count (some q) := by
      split_ifs with h
      · subst h; exact List.count_pos_iff.2 hmem
      · exact Nat.zero_le _
    have hget : w.scripts[i] = some p := List.getElem_eq_iff.2 hsp
    show (w.scripts.set i none).count (some q) + w.table.count q = _
    rw [List.count_set _ _ _ _ hilt, hget]
    simp only [beq_iff_eq, Option.some.injEq, reduceCtorEq, if_false, Nat.add_zero, count]
    omega
  have hbytes : bytecodeAt w'.heap = bytecodeAt w.heap := bytecodeAt_set_live hd hbc
  refine ⟨w', ?_, ⟨?_, hi.table_nodup, fun q hq => ?_, hbytes ▸ hi.distinct⟩, rfl, hbytes⟩
  · simp only [DataWorld.finalize, hsp, block_of_live hd, pure_bind, hdec]
    rfl
  · refine hi.counted.set hlt (fun q hqp => by rw [hcnt, if_neg hqp, Nat.sub_zero]) (fun e he => ?_)
      (fun _ _ => by rw [hcnt, if_pos rfl, ← hi.counted.refs_eq p d hd]; omega) (fun _ => ⟨_, rfl⟩)
    cases he
    rw [hcnt, if_pos rfl, hrefs', hi.counted.refs_eq p d hd]
  · rcases List.mem_or_eq_of_mem_set hq with hq | hq
    · exact hi.registered q hq
    · cases hq

/-- One entry of a sweep: a block only the table holds leaves the table and is freed; every
other entry stays, and an entry that stays is held by a script. -/
theorem Inv.sweepEntry (hi : w.Inv) {p : Nat} (hp : p ∈ w.table) :
    ∃ w', w.sweepEntry p = .ok w' ∧ w'.Inv ∧ (∀ q ∈ w.table, q ≠ p → q ∈ w'.table) ∧
      (∀ q ∈ w'.table, q ∈ w.table ∧ (q = p → some p ∈ w.scripts)) ∧ w'.scripts = w.scripts ∧
      ∀ q, some q ∈ w.scripts → bytecodeAt w'.heap q = bytecodeAt w.heap q := by
  obtain ⟨d, hd⟩ := hi.live_of_mem hp
  have hrefs : d.refCount_.toNat = w.scripts.count (some p) + 1 := by
    rw [hi.counted.refs_eq p d hd, count, List.count_eq_one_of_mem hi.table_nodup hp]
  by_cases h1 : d.refCount_ = 1
  · have hlt : p < w.heap.length := (List.getElem?_eq_some_iff.1 hd).1
    have hnone : some p ∉ w.scripts := List.count_eq_zero.1 (by rw [h1] at hrefs; simpa using hrefs)
    let w' : DataWorld := { w with heap := w.heap.set p .freed, table := w.table.erase p }
    have hcnt : ∀ q, w'.count q = w.count q - if p = q then 1 else 0 := by
      intro q
      simp only [w', count, List.count_erase, beq_iff_eq]
      split_ifs with h
      · subst h; rw [List.count_eq_one_of_mem hi.table_nodup hp, List.count_eq_zero.2 hnone]
      · rfl
    have hgone : ∀ q ∈ w'.table, q ≠ p := fun q hq h => hi.table_nodup.not_mem_erase (h ▸ hq)
    refine ⟨w', ?_, ⟨?_, hi.table_nodup.erase p, fun q hq => ?_, ?_⟩,
      fun q hq hqp => (List.mem_erase_of_ne hqp).2 hq,
      fun q hq => ⟨List.mem_of_mem_erase hq, fun h => absurd h (hgone q hq)⟩, rfl, fun q hq => ?_⟩
    · simp only [DataWorld.sweepEntry, block_of_live hd, pure_bind, h1, beq_self_eq_true, if_true,
        SharedScriptData.decRefCount_of_one h1]
      rfl
    · refine hi.counted.set hlt (fun q hqp => by rw [hcnt, if_neg hqp, Nat.sub_zero])
        (fun e he => by cases he) (fun e he => by cases he) (fun h => ?_)
      rw [hcnt, if_pos rfl, hi.counted.refs_eq p d hd |>.symm, h1] at h
      exact absurd h (by decide)
    · exact (List.mem_erase_of_ne (fun (h : q = p) => hnone (h ▸ hq))).2 (hi.registered q hq)
    · intro q hq r hr heq
      simp only [w', bytecodeAt, List.getElem?_set_ne (Ne.symm (hgone q hq)),
        List.getElem?_set_ne (Ne.symm (hgone r hr))] at heq
      exact hi.distinct q (List.mem_of_mem_erase hq) r (List.mem_of_mem_erase hr) heq
    · have hqp : p ≠ q := fun h => hnone (h ▸ hq)
      simp only [w', bytecodeAt, List.getElem?_set_ne hqp]
  · have hheld : some p ∈ w.scripts :=
      List.count_pos_iff.1 (Nat.pos_of_ne_zero fun h0 => h1 (BitVec.toNat_eq.2 (by rw [hrefs, h0]; rfl)))
    refine ⟨w, ?_, hi, fun q hq _ => hq, fun q hq => ⟨hq, fun _ => hheld⟩, rfl, fun _ _ => rfl⟩
    simp only [DataWorld.sweepEntry, block_of_live hd, pure_bind, beq_iff_eq, h1, if_false]
    rfl

/-- A sweep over entries of the table, each once: the entries it leaves in the table and has
looked at are held by scripts. -/
theorem Inv.sweep_foldlM : ∀ (l : List Nat) {w : DataWorld}, w.Inv → l.Nodup → (∀ p ∈ l, p ∈ w.table) →
    ∃ w', l.foldlM DataWorld.sweepEntry w = .ok w' ∧ w'.Inv ∧ w'.scripts = w.scripts ∧
      (∀ q, some q ∈ w.scripts → bytecodeAt w'.heap q = bytecodeAt w.heap q) ∧
      ∀ q ∈ w'.table, q ∈ w.table ∧ (q ∈ l → some q ∈ w.scripts)
  | [], w, hi, _, _ => ⟨w, rfl, hi, rfl, fun _ _ => rfl, fun _ hq => ⟨hq, nofun⟩⟩
  | p :: l, _, hi, hnd, hmem => by
    obtain ⟨w₁, h₁, hi₁, hkeep, hkept, hs₁, hb₁⟩ := hi.sweepEntry (hmem p (List.mem_cons_self _ _))
    have hl : ∀ q ∈ l, q ∈ w₁.table := fun q hq =>
      hkeep q (hmem q (List.mem_cons_of_mem _ hq)) (fun h => (List.nodup_cons.1 hnd).1 (h ▸ hq))
    obtain ⟨w', h', hi', hs', hb', ht'⟩ := Inv.sweep_foldlM l hi₁ (List.nodup_cons.1 hnd).2 hl
    refine ⟨w', by rw [List.foldlM_cons, h₁]; exact h', hi', hs'.trans hs₁,
      fun q hq => (hb' q (hs₁ ▸ hq)).trans (hb₁ q hq), fun q hq => ?_⟩
    obtain ⟨hq₁, hql⟩ := ht' q hq
    obtain ⟨hq₀, hqp⟩ := hkept q hq₁
    refine ⟨hq₀, fun hq' => ?_⟩
    rcases List.mem_cons.1 hq' with rfl | hq'
    · exact hqp rfl
    · exact hs₁ ▸ hql hq'

theorem Inv.sweep (hi : w.Inv) : ∃ w', w.sweep = .ok w' ∧ w'.Inv ∧ w'.scripts = w.scripts ∧
    (∀ q, some q ∈ w.scripts → bytecodeAt w'.heap q = bytecodeAt w.heap q) ∧
    ∀ q ∈ w'.table, some q ∈ w.scripts := by
  obtain ⟨w', h, hi', hs, hb, ht⟩ := Inv.sweep_foldlM w.table hi hi.table_nodup fun _ h => h
  exact ⟨w', h, hi', hs, hb, fun q hq => (ht q hq).2 (ht q hq).1⟩

/-! ### Whole runs -/

theorem init_inv : init.Inv :=
  ⟨⟨fun _ _ h => by simp [init] at h, fun _ h => by simp [init, count] at h,
    fun _ _ h => by simp [init] at h⟩, List.nodup_nil, fun _ h => by simp [init] at h,
    fun _ h => by simp [init] at h⟩

/-- Every admissible operation runs and keeps the invariant. -/
theorem Inv.step (hi : w.Inv) {op : DataOp} (hop : w.Admissible op) :
    ∃ w', w.step op = .ok w' ∧ w'.Inv := by
  cases op with
  | share c =>
    cases hl : w.lookup c with
    | some p =>
      obtain ⟨w', -, h, hi', -⟩ := hi.share_hit hop hl
      exact ⟨w', h, hi'⟩
    | none =>
      obtain ⟨w', h, hi', -⟩ := hi.share_miss hop hl
      exact ⟨w', h, hi'⟩
  | finalize i =>
    obtain ⟨w', h, hi', -⟩ := hi.finalize hop
    exact ⟨w', h, hi'⟩
  | sweep =>
    obtain ⟨w', h, hi', -⟩ := hi.sweep
    exact ⟨w', h, hi'⟩

theorem Reachable.inv (hr : Reachable w) : w.Inv := by
  induction hr with
  | init => exact init_inv
  | step op _ hop hs ih =>
    obtain ⟨w', hs', hi'⟩ := ih.step hop
    rwa [Except.ok.inj (hs.symm.trans hs')]

/-- Sharing gives the new script a block with the bytecode its emitter filled. -/
theorem Inv.share_bytecode (hi : w.Inv) {c : SharedScriptData} (hop : w.Admissible (.share c)) :
    ∃ w' p d, w.step (.share c) = .ok w' ∧ w'.scripts = w.scripts ++ [some p] ∧
      w'.heap[p]? = some (.live d) ∧ d.bytecode = c.bytecode := by
  cases hl : w.lookup c with
  | some p =>
    obtain ⟨w', d, h, -, hs, hd, hbc, -⟩ := hi.share_hit hop hl
    exact ⟨w', p, d, h, hs, hd, hbc⟩
  | none =>
    obtain ⟨w', h, -, hs, hd, -⟩ := hi.share_miss hop hl
    exact ⟨w', _, _, h, hs, hd, rfl⟩

/-- **Interned bytecode is shared and counted.**  Along every run: a block's `refCount_` is the
number of scripts holding it plus one while the table holds it; every script's block is in use
and in the table; two scripts hold blocks that `match` exactly when they hold the same block;
sharing gives the new script a block that `match`es the one its emitter filled; and every
operation callers may make runs without a fault, so `decRefCount` never meets zero. -/
theorem Reachable.interned (hr : Reachable w) :
    (∀ p d, w.heap[p]? = some (.live d) →
      d.refCount_.toNat = w.scripts.count (some p) + if p ∈ w.table then 1 else 0) ∧
    (∀ p, some p ∈ w.scripts → p ∈ w.table ∧ ∃ d, w.heap[p]? = some (.live d)) ∧
    (∀ p q dp dq, some p ∈ w.scripts → some q ∈ w.scripts → w.heap[p]? = some (.live dp) →
      w.heap[q]? = some (.live dq) → (ScriptBytecodeHasher.match dp ⟨dq⟩ = some true ↔ p = q)) ∧
    (∀ c, w.Admissible (.share c) → ∃ w' p d, w.step (.share c) = .ok w' ∧
      w'.scripts = w.scripts ++ [some p] ∧ w'.heap[p]? = some (.live d) ∧
      ScriptBytecodeHasher.match d ⟨c⟩ = some true) ∧
    (∀ op, w.Admissible op → ∃ w', w.step op = .ok w') := by
  have hi := hr.inv
  refine ⟨fun p d hd => ?_, fun p hp => ⟨hi.registered p hp, hi.live_of_mem (hi.registered p hp)⟩,
    fun p q dp dq hp hq hdp hdq => ?_, fun c hop => ?_, fun op hop => (hi.step hop).imp fun _ h => h.1⟩
  · rw [hi.counted.refs_eq p d hd, count]
    split_ifs with hmem
    · rw [List.count_eq_one_of_mem hi.table_nodup hmem]
    · rw [List.count_eq_zero_of_not_mem hmem]
  · rw [ScriptBytecodeHasher.match_eq_some_true]
    constructor
    · intro heq
      refine hi.distinct p (hi.registered p hp) q (hi.registered q hq) ?_
      rw [bytecodeAt_of_live hdp, bytecodeAt_of_live hdq, heq]
    · rintro rfl
      rw [hdp, Option.some.injEq, DataCell.live.injEq] at hdq
      rw [hdq]
  · obtain ⟨w', p, d, h, hs, hd, hbc⟩ := hi.share_bytecode hop
    exact ⟨w', p, d, h, hs, hd, (ScriptBytecodeHasher.match_eq_some_true d c).2 hbc⟩

/-- Two scripts emit the same one byte of bytecode: the second shares the first one's block,
which both scripts and the table hold. -/
theorem interned_two_scripts :
    let c : SharedScriptData := ⟨1, 0, 1, 0, [0x99], rfl⟩
    let w : DataWorld := ⟨[.live c.incRefCount.incRefCount, .freed], [0], [some 0, some 0]⟩
    Reachable w ∧
    (∀ p d, w.heap[p]? = some (.live d) →
      d.refCount_.toNat = w.scripts.count (some p) + if p ∈ w.table then 1 else 0) ∧
    (∀ p, some p ∈ w.scripts → p ∈ w.table ∧ ∃ d, w.heap[p]? = some (.live d)) ∧
    (∀ p q dp dq, some p ∈ w.scripts → some q ∈ w.scripts → w.heap[p]? = some (.live dp) →
      w.heap[q]? = some (.live dq) → (ScriptBytecodeHasher.match dp ⟨dq⟩ = some true ↔ p = q)) ∧
    (∀ c, w.Admissible (.share c) → ∃ w' p d, w.step (.share c) = .ok w' ∧
      w'.scripts = w.scripts ++ [some p] ∧ w'.heap[p]? = some (.live d) ∧
      ScriptBytecodeHasher.match d ⟨c⟩ = some true) ∧
    (∀ op, w.Admissible op → ∃ w', w.step op = .ok w') :=
  have first : Reachable ⟨[.live (⟨1, 0, 1, 0, [0x99], rfl⟩ : SharedScriptData).incRefCount],
      [0], [some 0]⟩ :=
    .step (.share ⟨1, 0, 1, 0, [0x99], rfl⟩) .init ⟨rfl, by decide⟩ rfl
  have hr := Reachable.step (.share ⟨1, 0, 1, 0, [0x99], rfl⟩) first ⟨rfl, by decide⟩ rfl
  ⟨hr, Reachable.interned hr⟩

/-- **Sweeping collects exactly the blocks no script holds.**  Along every run a block is in use
exactly when a script or the table holds it, so none leaks; and `SweepScriptData` runs without a
fault, keeps every script, and leaves a block in use exactly when a script holds it: the blocks it
frees are those only the table held. -/
theorem Reachable.sweep_collects (hr : Reachable w) :
    (∀ p, (∃ d, w.heap[p]? = some (.live d)) ↔ some p ∈ w.scripts ∨ p ∈ w.table) ∧
    ∃ w', w.step .sweep = .ok w' ∧ w'.scripts = w.scripts ∧
      ∀ p, (∃ d, w'.heap[p]? = some (.live d)) ↔ some p ∈ w'.scripts := by
  have hi := hr.inv
  obtain ⟨w', h, hi', hs, -, ht⟩ := hi.sweep
  exact ⟨hi.live_iff, w', h, hs, fun p =>
    (hi'.live_iff p).trans ⟨fun hp => hp.elim id fun hp => hs ▸ ht p hp, .inl⟩⟩

/-- A script is made and finalized: only the table holds its block, which the sweep frees. -/
theorem sweep_collects_after_finalize :
    let w : DataWorld := ⟨[.live (⟨1, 0, 1, 0, [0x99], rfl⟩ : SharedScriptData)], [0], [none]⟩
    Reachable w ∧
    (∀ p, (∃ d, w.heap[p]? = some (.live d)) ↔ some p ∈ w.scripts ∨ p ∈ w.table) ∧
    ∃ w', w.step .sweep = .ok w' ∧ w'.scripts = w.scripts ∧
      ∀ p, (∃ d, w'.heap[p]? = some (.live d)) ↔ some p ∈ w'.scripts :=
  have hr : Reachable ⟨[.live (⟨1, 0, 1, 0, [0x99], rfl⟩ : SharedScriptData)], [0], [none]⟩ :=
    .step (.finalize 0) (.step (.share ⟨1, 0, 1, 0, [0x99], rfl⟩) .init ⟨rfl, by decide⟩ rfl) rfl rfl
  ⟨hr, Reachable.sweep_collects hr⟩

/-! ### What a script holds -/

/-- What a step leaves of the scripts: a finalized script stays finalized, and a script holding
a block keeps it, with the same bytecode, unless the step finalizes it. -/
structure Frame (w w' : DataWorld) : Prop where
  finalized : ∀ i : Nat, w.scripts[i]? = some none → w'.scripts[i]? = some none
  held : ∀ i p : Nat, w.scripts[i]? = some (some p) →
    (w'.scripts[i]? = some (some p) ∧ bytecodeAt w'.heap p = bytecodeAt w.heap p) ∨
      w'.scripts[i]? = some none

/-- A step that adds a script and keeps the bytecode of the blocks allocated before. -/
theorem Inv.frame_of_append (hi : w.Inv) {w' : DataWorld} {x : Option Nat}
    (hs : w'.scripts = w.scripts ++ [x])
    (hb : ∀ q < w.heap.length, bytecodeAt w'.heap q = bytecodeAt w.heap q) : Frame w w' := by
  have hget : ∀ i y, w.scripts[i]? = some y → w'.scripts[i]? = some y := fun i y h => by
    rw [hs, List.getElem?_append_left (List.getElem?_eq_some_iff.1 h).1, h]
  refine ⟨fun i h => hget i _ h, fun i p hp => .inl ⟨hget i _ hp, hb p ?_⟩⟩
  obtain ⟨d, hd⟩ := hi.live_of_mem (hi.registered p (List.getElem?_mem hp))
  exact (List.getElem?_eq_some_iff.1 hd).1

/-- **What one admissible step leaves of the scripts.** -/
theorem Inv.step_frame (hi : w.Inv) {op : DataOp} (hop : w.Admissible op) {w' : DataWorld}
    (h : w.step op = .ok w') : Frame w w' := by
  cases op with
  | share c =>
    cases hl : w.lookup c with
    | some p =>
      obtain ⟨w₁, -, h₁, -, hs, -, -, hbytes⟩ := hi.share_hit hop hl
      obtain rfl : w₁ = w' := Except.ok.inj (h₁.symm.trans h)
      exact hi.frame_of_append hs fun q _ => congrFun hbytes q
    | none =>
      obtain ⟨w₁, h₁, -, hs, -, hheap⟩ := hi.share_miss hop hl
      obtain rfl : w₁ = w' := Except.ok.inj (h₁.symm.trans h)
      exact hi.frame_of_append hs fun q hq => by rw [hheap]; exact bytecodeAt_append _ hq
  | finalize j =>
    obtain ⟨w₁, h₁, -, hs, hbytes⟩ := hi.finalize hop
    obtain rfl : w₁ = w' := Except.ok.inj (h₁.symm.trans h)
    have hget : ∀ i, j ≠ i → w₁.scripts[i]? = w.scripts[i]? := fun i hji => by
      rw [hs, List.getElem?_set_ne hji]
    have hself : ∀ y, w.scripts[j]? = some y → w₁.scripts[j]? = some none := fun y hy => by
      rw [hs, List.getElem?_set_self (List.getElem?_eq_some_iff.1 hy).1]
    refine ⟨fun i hn => ?_, fun i p hp => ?_⟩
    · by_cases hji : j = i
      · subst hji; exact hself _ hn
      · rw [hget i hji, hn]
    · by_cases hji : j = i
      · subst hji; exact .inr (hself _ hp)
      · exact .inl ⟨(hget i hji).trans hp, congrFun hbytes p⟩
  | sweep =>
    obtain ⟨w₁, h₁, -, hs, hbytes, -⟩ := hi.sweep
    obtain rfl : w₁ = w' := Except.ok.inj (h₁.symm.trans h)
    exact ⟨fun i hn => hs ▸ hn, fun i p hp =>
      .inl ⟨hs ▸ hp, hbytes p (List.getElem?_mem hp)⟩⟩

/-- Admissible runs from one world to another. -/
inductive Run : DataWorld → DataWorld → Prop
  | refl (w : DataWorld) : Run w w
  | step {w w₁ w' : DataWorld} (op : DataOp) :
    w.Admissible op → w.step op = .ok w₁ → Run w₁ w' → Run w w'

theorem Run.finalized {w' : DataWorld} (hr : Reachable w) (hrun : Run w w') {i : Nat}
    (hn : w.scripts[i]? = some none) : w'.scripts[i]? = some none := by
  induction hrun with
  | refl => exact hn
  | step op hop hs _ ih => exact ih (hr.step op hop hs) ((hr.inv.step_frame hop hs).finalized i hn)

/-- **Bytecode is attached once and never changes.**  Along every admissible run from a reachable
world, a script keeps the block it holds, and the block keeps its bytecode, until the script is
finalized; a finalized script stays finalized. -/
theorem Reachable.bytecode_stable {w' : DataWorld} (hr : Reachable w) (hrun : Run w w') {i p : Nat}
    {b : uint32_t × uint32_t × uint32_t × List uint8_t} (hp : w.scripts[i]? = some (some p))
    (hb : bytecodeAt w.heap p = some b) :
    (w'.scripts[i]? = some (some p) ∧ bytecodeAt w'.heap p = some b) ∨ w'.scripts[i]? = some none := by
  induction hrun with
  | refl => exact .inl ⟨hp, hb⟩
  | step op hop hs hrun ih =>
    rcases (hr.inv.step_frame hop hs).held i p hp with ⟨hp₁, hb₁⟩ | hn
    · exact ih (hr.step op hop hs) hp₁ (hb₁.trans hb)
    · exact .inr (hrun.finalized (hr.step op hop hs) hn)

/-- The first of two scripts with the same bytecode keeps its block while the second is made and
finalized and the table is swept. -/
theorem bytecode_stable_after_finalize :
    let c : SharedScriptData := ⟨1, 0, 1, 0, [0x99], rfl⟩
    let w : DataWorld := ⟨[.live c.incRefCount], [0], [some 0]⟩
    let w' : DataWorld := ⟨[.live c.incRefCount, .freed], [0], [some 0, none]⟩
    Reachable w ∧ Run w w' ∧ w.scripts[0]? = some (some 0) ∧ bytecodeAt w.heap 0 = some c.bytecode ∧
      ((w'.scripts[0]? = some (some 0) ∧ bytecodeAt w'.heap 0 = some c.bytecode) ∨
        w'.scripts[0]? = some none) :=
  have hr : Reachable ⟨[.live (⟨1, 0, 1, 0, [0x99], rfl⟩ : SharedScriptData).incRefCount], [0], [some 0]⟩ :=
    .step (.share ⟨1, 0, 1, 0, [0x99], rfl⟩) .init ⟨rfl, by decide⟩ rfl
  have hrun : Run ⟨[.live (⟨1, 0, 1, 0, [0x99], rfl⟩ : SharedScriptData).incRefCount], [0], [some 0]⟩
      ⟨[.live (⟨1, 0, 1, 0, [0x99], rfl⟩ : SharedScriptData).incRefCount, .freed], [0], [some 0, none]⟩ :=
    .step (.share ⟨1, 0, 1, 0, [0x99], rfl⟩) ⟨rfl, by decide⟩ rfl
      (.step (.finalize 1) rfl rfl (.step .sweep trivial rfl (.refl _)))
  ⟨hr, hrun, rfl, rfl, Reachable.bytecode_stable hr hrun rfl rfl⟩

end DataWorld

end JsScript
