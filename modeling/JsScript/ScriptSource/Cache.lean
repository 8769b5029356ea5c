/-
# `UncompressedSourceCache::AutoHoldEntry`

`src/src/js/vm/JSScript.h`, lines 303-333 (`ScriptSourceChunk` and `ScriptSourceChunkHasher`)
and 356-440 (`UncompressedSourceCache` and its `AutoHoldEntry`).

An `AutoHoldEntry` keeps decompressed source text alive for the code that asked for it.  It
starts empty; it then either owns units handed to it (`holdUnits`) or holds an entry of the
cache (`holdEntry`), and when the cache is purged a held entry's data moves into the holder
(`deferDelete`).  Each member asserts the state it expects, and the destructor releases a held
entry after asserting that its chunk is valid.

The assertions encode a three-state protocol (`HoldState`): empty, holding an entry, owning
data.  A member call passes its assertions exactly when the protocol allows it from the state
the fields are in (`step_ok_iff`), every call that passes leaves the fields in a state of the
protocol (`Inv.step`), and so along every run from a fresh holder the destructor's assertion
never fires (`Reachable.protocol`).

`lookup`, `put`, `purge` and `releaseEntry` of the cache are defined in `JSScript.cpp`; the
cache that drives the holder (`CacheSystem`) is modelled from the spec: entries keyed by chunk,
all purged at a garbage collection, except that a held entry's data passes to its holder.
Driven by it, the holder's assertions never fire, and a purge never takes away the data a
query reads (`CacheSystem.Reachable.keepAlive`).
-/

import JsScript.Basic

namespace JsScript

/-- `ScriptSourceChunk`: a source and the index of a chunk of its text. -/
structure ScriptSourceChunk where
  ss : uintptr_t
  chunk : uint32_t
  deriving DecidableEq, Repr

namespace ScriptSourceChunk

/-- `ScriptSourceChunk()`: `ss = nullptr`, `chunk = 0`. -/
def empty : ScriptSourceChunk := ⟨0, 0⟩

/-- `valid()`. -/
def valid (c : ScriptSourceChunk) : Bool := c.ss != 0

/-- `ScriptSourceChunk(ss, chunk)`, which asserts `valid()`. -/
def make (ss : uintptr_t) (chunk : uint32_t) : Except Fault ScriptSourceChunk := do
  mozAssert (ss != 0) "valid()"
  pure ⟨ss, chunk⟩

/-- `operator==`, which `ScriptSourceChunkHasher::match` returns. -/
def eq (c1 c2 : ScriptSourceChunk) : Bool := c1.ss == c2.ss && c1.chunk == c2.chunk

@[simp] theorem valid_empty : empty.valid = false := rfl

/-- The cache's key match, `ScriptSourceChunkHasher::match`, is the equality the model's map
looks its keys up by. -/
theorem eq_eq_beq (c1 c2 : ScriptSourceChunk) : c1.eq c2 = (c1 == c2) := by
  cases c1; cases c2
  simp only [eq, Bool.beq_eq_decide_eq, mk.injEq, Bool.decide_and]

/-- A chunk built by the constructor is valid. -/
theorem valid_of_make {ss : uintptr_t} {chunk : uint32_t} {c : ScriptSourceChunk}
    (h : make ss chunk = .ok c) : c.valid := by
  by_cases hs : ss = 0
  · subst hs; cases h
  · have : (ss != 0) = true := by simpa using hs
    simp only [make, this, mozAssert_true] at h
    cases h
    simpa [valid] using hs

end ScriptSourceChunk

/-- The fields of `UncompressedSourceCache::AutoHoldEntry`.  `data_`, a `SourceData`, is the
pointer it owns. -/
structure AutoHoldEntry where
  cache_ : uintptr_t
  sourceChunk_ : ScriptSourceChunk
  data_ : uintptr_t
  deriving DecidableEq, Repr

namespace AutoHoldEntry

variable (h : AutoHoldEntry)

/-- `AutoHoldEntry()`. -/
def init : AutoHoldEntry := ⟨0, .empty, 0⟩

/-- The three assertions that open `holdUnits` and `holdEntry`: the holder holds nothing. -/
def assertEmpty : Except Fault Unit := do
  mozAssert (h.cache_ == 0) "!cache_"
  mozAssert (!h.sourceChunk_.valid) "!sourceChunk_.valid()"
  mozAssert (h.data_ == 0) "!data_"

/-- `holdUnits(units)`. -/
def holdUnits (units : uintptr_t) : Except Fault AutoHoldEntry := do
  h.assertEmpty
  pure { h with data_ := units }

/-- `holdEntry(cache, sourceChunk)`. -/
def holdEntry (cache : uintptr_t) (sourceChunk : ScriptSourceChunk) : Except Fault AutoHoldEntry := do
  h.assertEmpty
  pure { h with cache_ := cache, sourceChunk_ := sourceChunk }

/-- `deferDelete(data)`. -/
def deferDelete (data : uintptr_t) : Except Fault AutoHoldEntry := do
  mozAssert (h.cache_ != 0) "cache_"
  mozAssert h.sourceChunk_.valid "sourceChunk_.valid()"
  mozAssert (h.data_ == 0) "!data_"
  pure { h with cache_ := 0, sourceChunk_ := .empty, data_ := data }

/-- `~AutoHoldEntry()`: whether it calls `cache_->releaseEntry(*this)`. -/
def destroy : Except Fault Bool :=
  if h.cache_ != 0 then do
    mozAssert h.sourceChunk_.valid "sourceChunk_.valid()"
    pure true
  else pure false

end AutoHoldEntry

/-- A member call on a holder. -/
inductive HoldOp
  | holdUnits (units : uintptr_t)
  | holdEntry (cache : uintptr_t) (sourceChunk : ScriptSourceChunk)
  | deferDelete (data : uintptr_t)
  deriving DecidableEq, Repr

/-- The caches call `holdEntry` with themselves and a chunk built by its asserting constructor. -/
def HoldOp.Admissible : HoldOp → Prop
  | .holdEntry cache sourceChunk => cache ≠ 0 ∧ sourceChunk.valid
  | _ => True

/-- The states of the protocol. -/
inductive HoldState
  | empty
  | holdingEntry (cache : uintptr_t) (sourceChunk : ScriptSourceChunk)
  | owning (data : uintptr_t)
  deriving DecidableEq, Repr

namespace HoldState

/-- The fields of a holder in each state. -/
def holder : HoldState → AutoHoldEntry
  | .empty => AutoHoldEntry.init
  | .holdingEntry cache sourceChunk => ⟨cache, sourceChunk, 0⟩
  | .owning data => ⟨0, .empty, data⟩

/-- A held entry belongs to a cache, under a valid chunk. -/
def Wf : HoldState → Prop
  | .holdingEntry cache sourceChunk => cache ≠ 0 ∧ sourceChunk.valid
  | _ => True

/-- The calls the protocol allows in each state: a holder that holds nothing (owning no data is
holding nothing) takes units or an entry, and a held entry may be handed over. -/
def allows : HoldState → HoldOp → Bool
  | .empty, .holdUnits _ | .empty, .holdEntry .. => true
  | .owning data, .holdUnits _ | .owning data, .holdEntry .. => data == 0
  | .holdingEntry .., .deferDelete _ => true
  | _, _ => false

/-- Where an allowed call leads. -/
def next : HoldOp → HoldState
  | .holdUnits units => .owning units
  | .holdEntry cache sourceChunk => .holdingEntry cache sourceChunk
  | .deferDelete data => .owning data

theorem wf_next {op : HoldOp} (h : op.Admissible) : (next op).Wf := by
  cases op with
  | holdEntry => exact h
  | _ => trivial

end HoldState

namespace AutoHoldEntry

variable (h : AutoHoldEntry)

/-- One member call. -/
def step : HoldOp → Except Fault AutoHoldEntry
  | .holdUnits units => h.holdUnits units
  | .holdEntry cache sourceChunk => h.holdEntry cache sourceChunk
  | .deferDelete data => h.deferDelete data

/-- The fields are those of a state of the protocol. -/
def Inv : Prop := ∃ st : HoldState, st.Wf ∧ st.holder = h

/-- Holders reached from `AutoHoldEntry()` by calls that pass their assertions. -/
inductive Reachable : AutoHoldEntry → Prop
  | init : Reachable init
  | step {h h' : AutoHoldEntry} (op : HoldOp) :
    Reachable h → op.Admissible → h.step op = .ok h' → Reachable h'

variable {h}

/-! ### What each member asserts -/

/-- The assertions shared by `holdUnits` and `holdEntry` pass exactly on an empty holder. -/
theorem assertEmpty_bind_eq_ok {α : Type} {f : Unit → Except Fault α} {a : α} :
    (h.assertEmpty >>= f) = .ok a ↔
      (h.cache_ = 0 ∧ h.sourceChunk_.valid = false ∧ h.data_ = 0) ∧ f () = .ok a := by
  simp only [assertEmpty, bind_assoc, mozAssert_bind_eq_ok, beq_iff_eq, Bool.not_eq_true',
    and_assoc]

theorem holdUnits_eq_ok {units : uintptr_t} {h' : AutoHoldEntry} :
    h.holdUnits units = .ok h' ↔ (h.cache_ = 0 ∧ h.sourceChunk_.valid = false ∧ h.data_ = 0) ∧
      { h with data_ := units } = h' := by
  simp only [holdUnits, assertEmpty_bind_eq_ok, pure_eq_ok]

theorem holdEntry_eq_ok {cache : uintptr_t} {sourceChunk : ScriptSourceChunk} {h' : AutoHoldEntry} :
    h.holdEntry cache sourceChunk = .ok h' ↔
      (h.cache_ = 0 ∧ h.sourceChunk_.valid = false ∧ h.data_ = 0) ∧
      { h with cache_ := cache, sourceChunk_ := sourceChunk } = h' := by
  simp only [holdEntry, assertEmpty_bind_eq_ok, pure_eq_ok]

theorem deferDelete_eq_ok {data : uintptr_t} {h' : AutoHoldEntry} :
    h.deferDelete data = .ok h' ↔ h.cache_ ≠ 0 ∧ h.sourceChunk_.valid ∧ h.data_ = 0 ∧
      { h with cache_ := 0, sourceChunk_ := .empty, data_ := data } = h' := by
  simp only [deferDelete, mozAssert_bind_eq_ok, pure_eq_ok, bne_iff_ne, ne_eq, beq_iff_eq]

/-! ### The protocol -/

/-- **A call passes its assertions exactly when the protocol allows it**, and it then moves the
fields to the state the protocol names. -/
theorem step_ok_iff {st : HoldState} (hst : st.Wf) (op : HoldOp) {h' : AutoHoldEntry} :
    st.holder.step op = .ok h' ↔ st.allows op ∧ (HoldState.next op).holder = h' := by
  cases st <;> cases op <;>
    simp_all [HoldState.Wf, HoldState.holder, HoldState.allows, HoldState.next, step, init,
      holdUnits_eq_ok, holdEntry_eq_ok, deferDelete_eq_ok]

theorem init_inv : init.Inv := ⟨.empty, trivial, rfl⟩

/-- A holder in the protocol holds no entry, or holds one under a valid chunk and owns nothing. -/
theorem Inv.cases (hi : h.Inv) : h.cache_ = 0 ∨ h.sourceChunk_.valid ∧ h.data_ = 0 := by
  obtain ⟨st, hst, rfl⟩ := hi
  cases st with
  | holdingEntry => exact .inr ⟨hst.2, rfl⟩
  | _ => exact .inl rfl

/-- Every call that passes leaves the holder in a state of the protocol. -/
theorem Inv.step (hi : h.Inv) {op : HoldOp} (hop : op.Admissible) {h' : AutoHoldEntry}
    (hs : h.step op = .ok h') : h'.Inv := by
  obtain ⟨st, hst, rfl⟩ := hi
  exact ⟨_, HoldState.wf_next hop, ((step_ok_iff hst op).1 hs).2⟩

theorem Reachable.inv (hr : Reachable h) : h.Inv := by
  induction hr with
  | init => exact init_inv
  | step op _ hop hs ih => exact ih.step hop hs

/-- The destructor's assertion holds in every state of the protocol, and it releases the entry
exactly when one is held. -/
theorem Inv.destroy_eq (hi : h.Inv) : h.destroy = .ok (h.cache_ != 0) := by
  obtain ⟨st, hst, rfl⟩ := hi
  cases st with
  | holdingEntry cache sourceChunk =>
    obtain ⟨hc, hv⟩ := hst
    have hne : (cache != 0) = true := bne_iff_ne.2 hc
    simp only [destroy, HoldState.holder, hne, hv, if_true, mozAssert_true]
    rfl
  | _ => rfl

/-- **Along every run the holder follows the protocol**: its fields are those of a state of
the protocol, every further call passes its assertions exactly when that state allows it, and
the destructor's assertion holds, releasing the entry exactly when one is held. -/
theorem Reachable.protocol (hr : Reachable h) :
    ∃ st : HoldState, st.Wf ∧ st.holder = h ∧
      (∀ op h', h.step op = .ok h' ↔ st.allows op ∧ (HoldState.next op).holder = h') ∧
      h.destroy = .ok (h.cache_ != 0) := by
  obtain ⟨st, hst, rfl⟩ := hr.inv
  exact ⟨st, hst, rfl, fun op _ => step_ok_iff hst op, hr.inv.destroy_eq⟩

/-- A holder that held an entry until a purge handed it the entry's data. -/
theorem protocol_after_deferDelete :
    let h : AutoHoldEntry := ⟨0, .empty, 0x30⟩
    Reachable h ∧ ∃ st : HoldState, st.Wf ∧ st.holder = h ∧
      (∀ op h', h.step op = .ok h' ↔ st.allows op ∧ (HoldState.next op).holder = h') ∧
      h.destroy = .ok (h.cache_ != 0) := by
  intro h
  have held : Reachable ⟨0x10, ⟨0x20, 3⟩, 0⟩ :=
    .step (.holdEntry 0x10 ⟨0x20, 3⟩) .init ⟨by decide, by decide⟩ rfl
  have hr : Reachable h := .step (.deferDelete 0x30) held trivial rfl
  exact ⟨hr, Reachable.protocol hr⟩

end AutoHoldEntry

/-! ### The cache that lends entries -/

/-- Modelled from the spec: the uncompressed-source cache, keyed by `ScriptSourceChunk`, with
the data decompressed for each chunk (a chunk's newest entry first), and whether it has lent an
entry to a holder (`holder_`). -/
structure UncompressedSourceCache where
  map_ : List (ScriptSourceChunk × uintptr_t)
  holder_ : Bool
  deriving DecidableEq, Repr

/-- Modelled from the spec: what the cache does for the query whose holder it is given. -/
inductive CacheOp
  /-- `lookup(ssc, holder)`: the query finds the chunk's data and holds its entry, or misses. -/
  | lookup (ssc : ScriptSourceChunk)
  /-- `put(ssc, data, holder)`: the query stores the data it decompressed and holds its entry. -/
  | put (ssc : ScriptSourceChunk) (data : uintptr_t)
  /-- `purge()`, at a garbage collection. -/
  | purge
  /-- The query's holder goes out of scope; the next query gets a fresh one. -/
  | release
  deriving DecidableEq, Repr

/-- A cache and the holder of the current query. -/
structure CacheSystem where
  cache : UncompressedSourceCache
  holder : AutoHoldEntry
  deriving DecidableEq, Repr

namespace CacheSystem

variable (cachePtr : uintptr_t) (s : CacheSystem)

/-- Modelled from the spec: a cache at address `cachePtr` serving the current query.  A purge
drops every entry, except that the data of a lent entry passes to its holder by `deferDelete`
rather than being freed. -/
def step : CacheOp → Except Fault CacheSystem
  | .lookup ssc =>
    match s.cache.map_.lookup ssc with
    | some _ => do
      let holder ← s.holder.holdEntry cachePtr ssc
      pure ⟨{ s.cache with holder_ := true }, holder⟩
    | none => pure s
  | .put ssc data => do
    let holder ← s.holder.holdEntry cachePtr ssc
    pure ⟨⟨(ssc, data) :: s.cache.map_, true⟩, holder⟩
  | .purge =>
    match s.cache.holder_, s.cache.map_.lookup s.holder.sourceChunk_ with
    | true, some data => do
      let holder ← s.holder.deferDelete data
      pure ⟨⟨[], false⟩, holder⟩
    | _, _ => pure ⟨⟨[], false⟩, s.holder⟩
  | .release => do
    let released ← s.holder.destroy
    pure ⟨{ s.cache with holder_ := s.cache.holder_ && !released }, AutoHoldEntry.init⟩

/-- A query starts with a fresh holder, and asks for a chunk built by its asserting
constructor. -/
def Admissible : CacheOp → Prop
  | .lookup ssc | .put ssc _ => s.holder = AutoHoldEntry.init ∧ ssc.valid
  | _ => True

/-- The data the query reads through its holder: the cache's entry while it holds one, else the
data it owns. -/
def heldData : Option uintptr_t :=
  if s.holder.cache_ != 0 then s.cache.map_.lookup s.holder.sourceChunk_ else some s.holder.data_

/-- The holder follows its protocol, the cache knows whether it has lent an entry, and a lent
entry is one of this cache's. -/
structure Inv : Prop where
  holder_inv : s.holder.Inv
  holder_eq : s.cache.holder_ = (s.holder.cache_ != 0)
  lent : s.holder.cache_ ≠ 0 → s.holder.cache_ = cachePtr ∧
    (s.cache.map_.lookup s.holder.sourceChunk_).isSome

/-- An empty cache and a fresh holder. -/
def init : CacheSystem := ⟨⟨[], false⟩, AutoHoldEntry.init⟩

/-- Calls that pass, from an empty cache and a fresh holder. -/
inductive Reachable : CacheSystem → Prop
  | init : Reachable init
  | step {s s' : CacheSystem} (op : CacheOp) :
    Reachable s → s.Admissible op → s.step cachePtr op = .ok s' → Reachable s'

variable {cachePtr s}

theorem init_inv : init.Inv cachePtr := ⟨AutoHoldEntry.init_inv, rfl, fun h => absurd rfl h⟩

/-- A fresh holder takes any entry. -/
theorem holdEntry_init (cache : uintptr_t) (ssc : ScriptSourceChunk) :
    AutoHoldEntry.init.holdEntry cache ssc = .ok ⟨cache, ssc, 0⟩ := rfl

/-- A holder that has just taken an entry of the cache keeps the system in its invariant. -/
theorem inv_of_holdEntry (hptr : cachePtr ≠ 0) {ssc : ScriptSourceChunk} (hv : ssc.valid)
    {c : UncompressedSourceCache} (hc : c.holder_ = true) (hl : (c.map_.lookup ssc).isSome) :
    (⟨c, ⟨cachePtr, ssc, 0⟩⟩ : CacheSystem).Inv cachePtr :=
  ⟨⟨.holdingEntry cachePtr ssc, ⟨hptr, hv⟩, rfl⟩, hc.trans (bne_iff_ne.2 hptr).symm,
    fun _ => ⟨rfl, hl⟩⟩

/-- What a purge does to a system in its invariant: a holder that holds no entry is left alone,
and one that holds an entry takes over the entry's data by `deferDelete`. -/
theorem Inv.purge_cases (hi : s.Inv cachePtr) :
    s.holder.cache_ = 0 ∧ s.step cachePtr .purge = .ok ⟨⟨[], false⟩, s.holder⟩ ∨
    ∃ d, s.cache.map_.lookup s.holder.sourceChunk_ = some d ∧ s.holder.cache_ ≠ 0 ∧
      s.step cachePtr .purge = .ok ⟨⟨[], false⟩, ⟨0, .empty, d⟩⟩ := by
  obtain ⟨⟨map_, holder_⟩, holder⟩ := s
  cases holder_ with
  | false => exact .inl ⟨by simpa using hi.holder_eq.symm, rfl⟩
  | true =>
    have hc : holder.cache_ ≠ 0 := bne_iff_ne.1 hi.holder_eq.symm
    obtain ⟨d, hd⟩ := Option.isSome_iff_exists.1 (hi.lent hc).2
    obtain hc0 | ⟨hv, h0⟩ := hi.holder_inv.cases
    · exact absurd hc0 hc
    have hdd : holder.deferDelete d = .ok ⟨0, .empty, d⟩ :=
      AutoHoldEntry.deferDelete_eq_ok.2 ⟨hc, hv, h0, rfl⟩
    exact .inr ⟨d, hd, hc, by simp only [step, hd, hdd]; rfl⟩

/-- **Every call the query may make passes the holder's assertions**, and keeps the cache and
the holder in agreement. -/
theorem Inv.step (hptr : cachePtr ≠ 0) (hi : s.Inv cachePtr) {op : CacheOp}
    (hop : s.Admissible op) : ∃ s', s.step cachePtr op = .ok s' ∧ s'.Inv cachePtr := by
  obtain ⟨⟨map_, holder_⟩, holder⟩ := s
  cases op with
  | lookup ssc =>
    obtain ⟨rfl, hv⟩ := hop
    cases hl : map_.lookup ssc with
    | none => exact ⟨_, by simp only [step, hl]; rfl, hi⟩
    | some d =>
      refine ⟨_, by simp only [step, hl, holdEntry_init]; rfl, ?_⟩
      exact inv_of_holdEntry hptr hv rfl (by simp only [hl, Option.isSome_some])
  | put ssc data =>
    obtain ⟨rfl, hv⟩ := hop
    exact ⟨_, rfl, inv_of_holdEntry hptr hv rfl (by simp)⟩
  | purge =>
    rcases hi.purge_cases with ⟨hc, hs⟩ | ⟨d, -, -, hs⟩
    · exact ⟨_, hs, hi.holder_inv, by simpa using hc, fun h => absurd hc h⟩
    · exact ⟨_, hs, ⟨.owning d, trivial, rfl⟩, rfl, fun h => absurd rfl h⟩
  | release =>
    have he : holder_ = (holder.cache_ != 0) := hi.holder_eq
    subst he
    exact ⟨_, by simp only [step, hi.holder_inv.destroy_eq]; rfl, AutoHoldEntry.init_inv,
      by simp [AutoHoldEntry.init], fun h => absurd rfl h⟩

theorem Reachable.inv (hptr : cachePtr ≠ 0) (hr : Reachable cachePtr s) : s.Inv cachePtr := by
  induction hr with
  | init => exact init_inv
  | step op _ hop hs ih =>
    obtain ⟨s', hs', hi'⟩ := ih.step hptr hop
    rwa [Except.ok.inj (hs.symm.trans hs')]

/-- A purge empties the cache, and the query reads through its holder what it read before. -/
theorem Inv.purge_heldData (hi : s.Inv cachePtr) :
    ∃ s', s.step cachePtr .purge = .ok s' ∧ s'.cache.map_ = [] ∧ s'.heldData = s.heldData := by
  rcases hi.purge_cases with ⟨hc, hs⟩ | ⟨d, hd, hc, hs⟩
  · exact ⟨_, hs, rfl, by simp [heldData, hc]⟩
  · refine ⟨_, hs, rfl, ?_⟩
    show some d = _
    rw [heldData, if_pos (bne_iff_ne.2 hc), hd]

/-- **A purge never frees what a query holds.**  Along every run from an empty cache, every
call the query may make passes the holder's assertions, the query can read the data of the
entry it holds, and a purge, which empties the cache, leaves that data readable through the
holder. -/
theorem Reachable.keepAlive (hptr : cachePtr ≠ 0) (hr : Reachable cachePtr s) :
    (∀ op, s.Admissible op → ∃ s', s.step cachePtr op = .ok s') ∧
    (s.holder.cache_ ≠ 0 → s.heldData.isSome) ∧
    ∃ s', s.step cachePtr .purge = .ok s' ∧ s'.cache.map_ = [] ∧ s'.heldData = s.heldData := by
  have hi := hr.inv hptr
  refine ⟨fun op hop => (hi.step hptr hop).imp fun _ h => h.1, fun hc => ?_, hi.purge_heldData⟩
  rw [heldData, if_pos (bne_iff_ne.2 hc)]
  exact (hi.lent hc).2

/-- A query that stored its chunk at a cache at `0x1000` and holds the entry. -/
theorem keepAlive_after_put :
    let s : CacheSystem := ⟨⟨[(⟨0x20, 3⟩, 0x30)], true⟩, ⟨0x1000, ⟨0x20, 3⟩, 0⟩⟩
    (0x1000 : uintptr_t) ≠ 0 ∧ Reachable 0x1000 s ∧
      (∀ op, s.Admissible op → ∃ s', s.step 0x1000 op = .ok s') ∧
      (s.holder.cache_ ≠ 0 → s.heldData.isSome) ∧
      ∃ s', s.step 0x1000 .purge = .ok s' ∧ s'.cache.map_ = [] ∧ s'.heldData = s.heldData := by
  intro s
  have hptr : (0x1000 : uintptr_t) ≠ 0 := by decide
  have hr : Reachable 0x1000 s := .step (.put ⟨0x20, 3⟩ 0x30) .init ⟨rfl, by decide⟩ rfl
  exact ⟨hptr, hr, Reachable.keepAlive hptr hr⟩

end CacheSystem

end JsScript
