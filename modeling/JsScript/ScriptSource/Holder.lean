/-
# `ScriptSourceHolder` and the sources it keeps alive

`ScriptSourceHolder` (`js/vm/JSScript.h`, lines 1157-1188) owns one reference to the
`ScriptSource` it holds: its constructor from a source `incref`s it, its destructor `decref`s
it, and `reset(newss)` `incref`s the new source before it `decref`s the old one, "just in case
ss == newss".  Other owners call `incref()` and `decref()` on sources directly.

A `World` is what a run has built: the heap of sources, every holder constructed so far
(`none` once destroyed), and, as ghost state the program does not keep, the direct `incref()`s
that their owners have not yet matched with a `decref()`.  `World.step` runs one operation as
the C++ runs it.  `World.Admissible` is what callers promise: they name sources in use and
holders not yet destroyed, `decref` only what they `incref`'d, and keep fewer than `2^32`
references to one source, counting the one that `reset` takes before it drops the old one.

Every operation is a `SourceHeap.transfer` of at most one reference (`World.step_eq`) that moves
`World.count` accordingly (`World.count_frame`), so `SourceHeap.transfer_agrees` gives the
invariant `World.Inv` and the law of frees for every step at once (`World.step_spec`).
-/

import JsScript.ScriptSource.Refcount

namespace JsScript

/-- `ScriptSourceHolder`: the source it holds, or `nullptr`. -/
structure ScriptSourceHolder where
  ss : Option Nat
  deriving DecidableEq, Repr

namespace ScriptSourceHolder

/-- `ScriptSourceHolder()`: `ss(nullptr)`. -/
def create : ScriptSourceHolder := ⟨none⟩

/-- `explicit ScriptSourceHolder(ScriptSource* ss)`. -/
def ofSource (heap : SourceHeap) (ss : Nat) : Except Fault (SourceHeap × ScriptSourceHolder) := do
  let heap ← heap.incref ss
  pure (heap, ⟨some ss⟩)

/-- `~ScriptSourceHolder()`. -/
def destroy (holder : ScriptSourceHolder) (heap : SourceHeap) : Except Fault SourceHeap :=
  match holder.ss with
  | some ss => heap.decref ss
  | none => pure heap

/-- `reset(newss)`: `incref` before `decref` just in case `ss == newss`. -/
def reset (holder : ScriptSourceHolder) (newss : Option Nat) (heap : SourceHeap) :
    Except Fault (SourceHeap × ScriptSourceHolder) := do
  let heap ← heap.transfer newss holder.ss
  pure (heap, ⟨newss⟩)

/-- `get()`. -/
def get (holder : ScriptSourceHolder) : Option Nat := holder.ss

end ScriptSourceHolder

/-- The sources and holders a run has built. -/
structure World where
  heap : SourceHeap
  /-- Every holder constructed so far, in construction order; `none` once destroyed. -/
  holders : List (Option ScriptSourceHolder)
  /-- Ghost: the direct `incref()`s, by owner and source, not yet matched by a `decref()`. -/
  borrows : List (Nat × Nat)
  deriving DecidableEq, Repr

/-- One operation of a run. -/
inductive Op
  /-- `js_new<ScriptSource>()`. -/
  | newSource
  /-- `ScriptSourceHolder()`. -/
  | holderCreate
  /-- `ScriptSourceHolder(ss)`. -/
  | holderOf (ss : Nat)
  /-- `reset(newss)` on the holder `h`. -/
  | reset (h : Nat) (newss : Option Nat)
  /-- `~ScriptSourceHolder()` on the holder `h`. -/
  | holderDestroy (h : Nat)
  /-- `ss->incref()` by the owner `o`. -/
  | incref (o ss : Nat)
  /-- `ss->decref()` by the owner `o`. -/
  | decref (o ss : Nat)
  deriving DecidableEq, Repr

namespace World

/-- Nothing allocated yet. -/
def init : World := ⟨[], [], []⟩

/-- The holder `h`, unless it was destroyed or never constructed. -/
def holder (w : World) (h : Nat) : Option ScriptSourceHolder := (w.holders[h]?).join

/-- One operation, run as the C++ runs it. -/
def step (w : World) : Op → Except Fault World
  | .newSource => pure { w with heap := w.heap ++ [.live .create] }
  | .holderCreate => pure { w with holders := w.holders ++ [some .create] }
  | .holderOf ss => do
      let (heap, holder) ← ScriptSourceHolder.ofSource w.heap ss
      pure { w with heap, holders := w.holders ++ [some holder] }
  | .reset h newss => do
      let some holder := w.holder h | throw (.dangling h)
      let (heap, holder) ← holder.reset newss w.heap
      pure { w with heap, holders := w.holders.set h (some holder) }
  | .holderDestroy h => do
      let some holder := w.holder h | throw (.dangling h)
      let heap ← holder.destroy w.heap
      pure { w with heap, holders := w.holders.set h none }
  | .incref o ss => do
      let heap ← w.heap.incref ss
      pure { w with heap, borrows := w.borrows ++ [(o, ss)] }
  | .decref o ss => do
      let heap ← w.heap.decref ss
      pure { w with heap, borrows := w.borrows.erase (o, ss) }

/-- The live holders whose `get()` is `ss`. -/
def holderCount (w : World) (ss : Nat) : Nat := w.holders.count (some ⟨some ss⟩)

/-- The direct `incref()`s of `ss` not yet matched by a `decref()`. -/
def borrowCount (w : World) (ss : Nat) : Nat := w.borrows.countP (·.2 == ss)

/-- The references the run holds to `ss`. -/
def count (w : World) (ss : Nat) : Nat := w.holderCount ss + w.borrowCount ss

/-- `ss` is allocated and not freed. -/
def live (w : World) (ss : Nat) : Bool :=
  match w.heap[ss]? with
  | some (.live _) => true
  | _ => false

theorem live_iff {w : World} {ss : Nat} : w.live ss = true ↔ ∃ s, w.heap[ss]? = some (.live s) := by
  unfold live; split <;> simp_all

/-- A caller may take a reference to `ss`: it is in use and stays below `2^32` references. -/
def CanAcquire (w : World) (ss : Nat) : Prop := w.live ss = true ∧ w.count ss + 1 < 2 ^ 32

instance (w : World) (ss : Nat) : Decidable (w.CanAcquire ss) :=
  inferInstanceAs (Decidable (_ ∧ _))

/-- What callers promise before an operation. -/
def Admissible (w : World) : Op → Prop
  | .newSource | .holderCreate => True
  | .holderOf ss | .incref _ ss => w.CanAcquire ss
  | .reset h none | .holderDestroy h => (w.holder h).isSome
  | .reset h (some ss) => (w.holder h).isSome ∧ w.CanAcquire ss
  | .decref o ss => (o, ss) ∈ w.borrows

instance (w : World) : (op : Op) → Decidable (w.Admissible op)
  | .newSource | .holderCreate => inferInstanceAs (Decidable True)
  | .holderOf ss | .incref _ ss => inferInstanceAs (Decidable (w.CanAcquire ss))
  | .reset h none | .holderDestroy h => inferInstanceAs (Decidable ((w.holder h).isSome))
  | .reset h (some ss) => inferInstanceAs (Decidable ((w.holder h).isSome ∧ w.CanAcquire ss))
  | .decref o ss => inferInstanceAs (Decidable ((o, ss) ∈ w.borrows))

/-! ### Every operation is one `transfer` -/

/-- The source whose reference an operation drops. -/
def releases (w : World) : Op → Option Nat
  | .reset h _ | .holderDestroy h => (w.holder h).bind (·.ss)
  | .decref _ ss => some ss
  | _ => none

end World

namespace Op

/-- The source an operation takes a reference to. -/
def acquires : Op → Option Nat
  | .holderOf ss | .incref _ ss => some ss
  | .reset _ newss => newss
  | _ => none

end Op

namespace World

/-- What an operation does besides its `transfer`. -/
def frame (w : World) (heap : SourceHeap) : Op → World
  | .newSource => { w with heap := heap ++ [.live .create] }
  | .holderCreate => { w with heap, holders := w.holders ++ [some .create] }
  | .holderOf ss => { w with heap, holders := w.holders ++ [some ⟨some ss⟩] }
  | .reset h newss => { w with heap, holders := w.holders.set h (some ⟨newss⟩) }
  | .holderDestroy h => { w with heap, holders := w.holders.set h none }
  | .incref o ss => { w with heap, borrows := w.borrows ++ [(o, ss)] }
  | .decref o ss => { w with heap, borrows := w.borrows.erase (o, ss) }

theorem exists_holder_of_reset {w : World} {h : Nat} {newss : Option Nat}
    (hop : w.Admissible (.reset h newss)) : ∃ holder, w.holder h = some holder := by
  cases newss with
  | none => exact Option.isSome_iff_exists.1 hop
  | some _ => exact Option.isSome_iff_exists.1 hop.1

/-- **What a step does.**  An operation on a holder that exists is the `transfer` of the
reference it takes and the one it drops, and then its `frame`. -/
theorem step_eq {w : World} {op : Op} (hop : w.Admissible op) :
    w.step op = (w.heap.transfer op.acquires (w.releases op)).map (w.frame · op) := by
  cases op with
  | newSource | holderCreate => rfl
  | holderOf ss | incref o ss =>
    simp only [step, ScriptSourceHolder.ofSource, SourceHeap.transfer, Op.acquires]
    cases w.heap.incref ss <;> rfl
  | decref o ss =>
    simp only [step, SourceHeap.transfer, Op.acquires, releases, pure_bind]
    cases w.heap.decref ss <;> rfl
  | reset h newss =>
    obtain ⟨holder, hh⟩ := exists_holder_of_reset hop
    simp only [step, hh, ScriptSourceHolder.reset, Op.acquires, releases, Option.some_bind]
    cases w.heap.transfer newss holder.ss <;> rfl
  | holderDestroy h =>
    obtain ⟨holder, hh⟩ := Option.isSome_iff_exists.1 hop
    simp only [step, hh, ScriptSourceHolder.destroy, SourceHeap.transfer, Op.acquires, releases,
      Option.some_bind]
    rcases holder with ⟨_ | ss⟩
    · rfl
    · cases w.heap.decref ss <;> rfl

theorem holder_eq_some {w : World} {h : Nat} {holder : ScriptSourceHolder} :
    w.holder h = some holder ↔ w.holders[h]? = some (some holder) := Option.join_eq_some

theorem mem_holders {w : World} {h p : Nat} {holder : ScriptSourceHolder}
    (hh : w.holder h = some holder) (hp : holder.ss = some p) : some ⟨some p⟩ ∈ w.holders := by
  obtain ⟨hlt, hget⟩ := List.getElem?_eq_some_iff.1 (holder_eq_some.1 hh)
  rw [← hp, ← hget]
  exact List.getElem_mem hlt

/-- Replacing the holder `h` in its slot moves `holderCount` by what the two hold. -/
theorem holderCount_set {w : World} {h : Nat} {holder : ScriptSourceHolder}
    (hh : w.holder h = some holder) (x : Option ScriptSourceHolder) (q : Nat) :
    (w.holders.set h x).count (some ⟨some q⟩) + (if holder.ss = some q then 1 else 0) =
      w.holderCount q + (if x = some ⟨some q⟩ then 1 else 0) := by
  obtain ⟨hlt, hget⟩ := List.getElem?_eq_some_iff.1 (holder_eq_some.1 hh)
  have hle : (if holder.ss = some q then 1 else 0) ≤ w.holderCount q := by
    split_ifs with hq
    · exact List.count_pos_iff.2 (mem_holders hh hq)
    · exact Nat.zero_le _
  rw [List.count_set _ _ _ _ hlt, hget]
  rcases holder with ⟨ss⟩
  simp only [holderCount, beq_iff_eq, Option.some.injEq, ScriptSourceHolder.mk.injEq] at hle ⊢
  split_ifs at hle ⊢ <;> omega

/-- Erasing a member drops its one occurrence from every count. -/
theorem countP_erase_add {α : Type} [BEq α] [LawfulBEq α] {l : List α} {a : α} (hm : a ∈ l)
    (p : α → Bool) : (l.erase a).countP p + (if p a then 1 else 0) = l.countP p := by
  induction l with
  | nil => cases hm
  | cons b l ih =>
    rw [List.erase_cons]
    by_cases hb : b = a
    · subst hb; simp [List.countP_cons]
    · have := ih ((List.mem_cons.1 hm).resolve_left (Ne.symm hb))
      simp only [hb, beq_iff_eq, if_false, List.countP_cons] at this ⊢
      omega

/-- Dropping a matched `incref` moves `borrowCount` by one. -/
theorem borrowCount_erase {w : World} {o ss : Nat} (hm : (o, ss) ∈ w.borrows) (q : Nat) :
    (w.borrows.erase (o, ss)).countP (·.2 == q) + (if ss = q then 1 else 0) = w.borrowCount q := by
  simpa using countP_erase_add hm (·.2 == q)

theorem count_eq (w : World) (q : Nat) :
    w.count q = w.holders.count (some ⟨some q⟩) + w.borrows.countP (·.2 == q) := rfl

/-- **How an operation moves the counts**: by the reference it takes and the one it drops. -/
theorem count_frame {w : World} {op : Op} (hop : w.Admissible op) (heap : SourceHeap) :
    (w.frame heap op).count = move w.count op.acquires (w.releases op) := by
  funext q
  simp only [move, count_eq]
  cases op with
  | newSource => simp [frame, Op.acquires, releases]
  | holderCreate => simp [frame, Op.acquires, releases, ScriptSourceHolder.create]
  | holderOf ss =>
    simp only [frame, Op.acquires, releases, List.count_append]
    by_cases hq : ss = q
    · subst hq; simp; omega
    · simp [hq, Ne.symm hq]
  | incref o ss =>
    simp only [frame, Op.acquires, releases, List.countP_append]
    by_cases hq : ss = q
    · subst hq; simp; omega
    · simp [hq]
  | decref o ss =>
    have := borrowCount_erase hop q
    simp only [frame, Op.acquires, releases, borrowCount] at this ⊢
    by_cases hq : ss = q <;> simp [hq] at this ⊢ <;> omega
  | reset h newss =>
    obtain ⟨holder, hh⟩ := exists_holder_of_reset hop
    have := holderCount_set hh (some ⟨newss⟩) q
    simp only [frame, Op.acquires, releases, hh, Option.some_bind, holderCount] at this ⊢
    simp only [Option.some.injEq, ScriptSourceHolder.mk.injEq] at this
    split_ifs at this ⊢ <;> omega
  | holderDestroy h =>
    obtain ⟨holder, hh⟩ := Option.isSome_iff_exists.1 hop
    have := holderCount_set hh none q
    simp only [frame, Op.acquires, releases, hh, Option.some_bind, holderCount] at this ⊢
    simp only [reduceCtorEq, if_false] at this ⊢
    split_ifs at this ⊢ <;> omega

theorem count_pos_of_holder {w : World} {h p : Nat} {holder : ScriptSourceHolder}
    (hh : w.holder h = some holder) (hp : holder.ss = some p) : 0 < w.count p :=
  Nat.lt_add_right _ (List.count_pos_iff.2 (mem_holders hh hp))

theorem count_pos_of_borrow {w : World} {o p : Nat} (hm : (o, p) ∈ w.borrows) : 0 < w.count p :=
  Nat.lt_add_left _ (List.countP_pos_iff.2 ⟨_, hm, by simp⟩)

/-- What callers promise covers what `transfer_agrees` asks of the reference taken. -/
theorem acquires_ok {w : World} {op : Op} (hop : w.Admissible op) :
    ∀ p ∈ op.acquires, (∃ ss, w.heap[p]? = some (.live ss)) ∧ w.count p + 1 < 2 ^ 32 := by
  have hcan : ∀ {p}, w.CanAcquire p → (∃ ss, w.heap[p]? = some (.live ss)) ∧ w.count p + 1 < 2 ^ 32 :=
    fun h => ⟨live_iff.1 h.1, h.2⟩
  intro p hp
  cases op with
  | holderOf ss | incref _ ss => cases hp; exact hcan hop
  | reset _ newss => cases newss <;> cases hp; exact hcan hop.2
  | _ => cases hp

/-- The reference an operation drops is one the run holds. -/
theorem releases_pos {w : World} {op : Op} (hop : w.Admissible op) :
    ∀ p ∈ w.releases op, 0 < w.count p := by
  intro p hp
  cases op with
  | reset h _ | holderDestroy h =>
    obtain ⟨holder, hh, hs⟩ := Option.bind_eq_some.1 hp
    exact count_pos_of_holder hh hs
  | decref o ss => cases hp; exact count_pos_of_borrow hop
  | _ => cases hp

theorem append_live_freed {heap : SourceHeap} {s : ScriptSource} {q : Nat} :
    (heap ++ [.live s])[q]? = some .freed ↔ heap[q]? = some .freed := by
  rcases Nat.lt_or_ge q heap.length with hlt | hge
  · rw [List.getElem?_append_left hlt]
  · rw [List.getElem?_append_right hge, List.getElem?_eq_none hge]
    rcases Nat.eq_zero_or_pos (q - heap.length) with h0 | hpos
    · simp [h0]
    · simp [List.getElem?_eq_none (show [SourceCell.live s].length ≤ q - heap.length by simpa)]

/-- The heap agrees with the references the run holds. -/
def Inv (w : World) : Prop := w.heap.Agrees w.count

/-- **One step from a consistent world.**  An admissible operation runs without a fault, keeps
the heap agreeing with the counts, moves them by the reference it takes and the one it drops,
and frees exactly the sources whose count falls from a positive value to zero. -/
theorem step_spec {w : World} {op : Op} (hi : w.Inv) (hop : w.Admissible op) :
    ∃ w', w.step op = .ok w' ∧ w'.Inv ∧ w'.count = move w.count op.acquires (w.releases op) ∧
      ∀ q : Nat, w'.heap[q]? = some .freed ↔
        w.heap[q]? = some .freed ∨ (0 < w.count q ∧ w'.count q = 0) := by
  obtain ⟨heap', ht, hag, hfr⟩ := SourceHeap.transfer_agrees hi (acquires_ok hop) (releases_pos hop)
  have hc := count_frame hop heap'
  refine ⟨w.frame heap' op, by rw [step_eq hop, ht]; rfl, ?_, hc, fun q => ?_⟩
  · rw [Inv, hc]
    cases op with
    | newSource => exact hag.append_create
    | _ => exact hag
  · rw [hc, ← hfr]
    cases op with
    | newSource => exact append_live_freed
    | _ => exact Iff.rfl

/-! ### Whole runs -/

/-- The worlds that runs of admissible operations reach from `init`. -/
inductive Reachable : World → Prop
  | init : Reachable init
  | step {w w' : World} (op : Op) :
      Reachable w → w.Admissible op → w.step op = .ok w' → Reachable w'

theorem init_inv : init.Inv :=
  ⟨fun _ _ h => by simp [init] at h, fun _ h => by simp [init, count_eq] at h⟩

/-- **The invariant holds along every run.** -/
theorem Reachable.inv {w : World} (hw : Reachable w) : w.Inv := by
  induction hw with
  | init => exact init_inv
  | step op _ hop hs ih =>
    obtain ⟨w', hs', hi', -⟩ := step_spec ih hop
    rw [hs] at hs'
    cases hs'
    exact hi'

end World

end JsScript
