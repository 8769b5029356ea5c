/-
# `LazyScript` links: the enclosing script or scope, and the compiled script

`src/src/js/vm/JSScript.h`, lines 2673-2758 (`script_`, and `enclosingLazyScriptOrScope_` with
the diagram above it), 2870-2901 (`initScript`, `maybeScript`, `hasScript`, `hasEnclosingScope`,
`hasEnclosingLazyScript`, `enclosingLazyScript`, `enclosingScope` and the two setters) and
3080-3088 (`enclosingScriptHasEverBeenCompiled`).

`enclosingLazyScriptOrScope_` holds `nullptr`, the `LazyScript` the function is nested in, or the
`Scope` it is nested in; `is<Scope>()` tells the last two apart by the trace kind of the cell.
The diagram above the field allows `nullptr → enclosing LazyScript → enclosing Scope` and
`nullptr → enclosing Scope`, and no way back: "this field will never point the enclosing
LazyScript again".  The setters are in `JSScript.cpp` and are modelled from that diagram and the
spec, so the lemmas over runs here check the model against the diagram.  Ranking the three
states 0, 1 and 2, every setter that passes its assertions raises the rank, so along any run the
setters that succeed are `setEnclosingLazyScript` and then `setEnclosingScope`, each at most once
and in that order (`setters_sublist`), and once the scope is set the field keeps it
(`run_enclosing_of_scope`).

`script_` is a `WeakRef<JSScript*>`: the collector traces it without keeping the script alive,
and clears it when it sweeps the script.  The enclosing link is a `GCPtr`, which keeps its cell
alive as long as the `LazyScript`.  Delazification (in `JSFunction.cpp`) is modelled from the
spec: it reuses `script_` while it is set and compiles a new script otherwise.  The invariant
`Inv` (no link dangles) holds in every state an admissible run reaches: the enclosing cell
because a collection never sweeps it, the compiled script because the sweep clears `script_`
with it (`Reachable.links_live`).  Until the collector sweeps the script a delazification
returned, every later delazification returns that same script (`run_delazify_same`).
-/

import JsScript.Basic

namespace JsScript

/-- The trace kinds of the cells `enclosingLazyScriptOrScope_` points at. -/
inductive TraceKind
  | LazyScript
  | Scope
  deriving DecidableEq, Repr

/-- The state of the diagram above `enclosingLazyScriptOrScope_` that a link to a cell of this
kind stands in: an enclosing `LazyScript` is 1, an enclosing `Scope` 2, `nullptr` 0. -/
def TraceKind.rank : TraceKind → Nat
  | .LazyScript => 1
  | .Scope => 2

theorem TraceKind.rank_le (k : TraceKind) : k.rank ≤ 2 := by
  cases k <;> decide

/-- A `TenuredCell*` other than `nullptr`: the cell's address and its trace kind, which
`is<T>()` reads. -/
structure TenuredCell where
  kind : TraceKind
  addr : uintptr_t
  deriving DecidableEq, Repr

/-- The link fields of `LazyScript`; its span and flag word are in `LazyScript`. -/
structure LazyScriptLinks where
  /-- `WeakRef<JSScript*> script_`; `0` is `nullptr`. -/
  script_ : uintptr_t
  /-- `GCPtr<TenuredCell*> enclosingLazyScriptOrScope_`; `none` is `nullptr`. -/
  enclosingLazyScriptOrScope_ : Option TenuredCell
  deriving DecidableEq, Repr

namespace LazyScriptLinks

variable (l : LazyScriptLinks)

/-- `maybeScript()`. -/
def maybeScript : uintptr_t := l.script_

/-- `hasScript()`: `bool(script_)`. -/
def hasScript : Bool := l.script_ != 0

/-- `enclosingLazyScriptOrScope_ && enclosingLazyScriptOrScope_->is<T>()`, for the trace kind of
`T`. -/
def enclosingIs (kind : TraceKind) : Bool :=
  match l.enclosingLazyScriptOrScope_ with
  | some c => c.kind == kind
  | none => false

/-- `hasEnclosingScope()`. -/
def hasEnclosingScope : Bool := l.enclosingIs .Scope

/-- `hasEnclosingLazyScript()`. -/
def hasEnclosingLazyScript : Bool := l.enclosingIs .LazyScript

/-- `enclosingLazyScriptOrScope_->as<T>()` after `MOZ_ASSERT(has)`, `expr` the asserted text. -/
def enclosingAs (has : Bool) (expr : String) : Except Fault uintptr_t :=
  assertedRead has expr (l.enclosingLazyScriptOrScope_.elim 0 TenuredCell.addr)

/-- `enclosingLazyScript()`. -/
def enclosingLazyScript : Except Fault uintptr_t :=
  l.enclosingAs l.hasEnclosingLazyScript "hasEnclosingLazyScript()"

/-- `enclosingScope()`. -/
def enclosingScope : Except Fault uintptr_t :=
  l.enclosingAs l.hasEnclosingScope "hasEnclosingScope()"

/-- `enclosingScriptHasEverBeenCompiled()`. -/
def enclosingScriptHasEverBeenCompiled : Bool := l.hasEnclosingScope

/-- Modelled from the spec: `setEnclosingLazyScript(enclosingLazyScript)`.  By the diagram above
`enclosingLazyScriptOrScope_` it links a `LazyScript` whose field is still `nullptr`: it cannot
be called twice, and a scope never goes back to a `LazyScript`. -/
def setEnclosingLazyScript (enclosingLazyScript : uintptr_t) : Except Fault LazyScriptLinks := do
  mozAssert (enclosingLazyScript != 0) "enclosingLazyScript"
  mozAssert (!l.hasEnclosingLazyScript) "!hasEnclosingLazyScript()"
  mozAssert (!l.hasEnclosingScope) "!hasEnclosingScope()"
  pure { l with enclosingLazyScriptOrScope_ := some ⟨.LazyScript, enclosingLazyScript⟩ }

/-- Modelled from the spec: `setEnclosingScope(enclosingScope)`, from `nullptr` or from the
enclosing `LazyScript` once the enclosing script is compiled; it cannot be called twice. -/
def setEnclosingScope (enclosingScope : uintptr_t) : Except Fault LazyScriptLinks := do
  mozAssert (enclosingScope != 0) "enclosingScope"
  mozAssert (!l.hasEnclosingScope) "!hasEnclosingScope()"
  pure { l with enclosingLazyScriptOrScope_ := some ⟨.Scope, enclosingScope⟩ }

/-- Modelled from the spec: `initScript(script)` records the compiled script, once. -/
def initScript (script : uintptr_t) : Except Fault LazyScriptLinks := do
  mozAssert (script != 0) "script"
  mozAssert (!l.hasScript) "!hasScript()"
  pure { l with script_ := script }

/-- Modelled from the spec: the collector's sweep of the `WeakRef`, which it clears when it
collects the script. -/
def sweepScript (dead : List uintptr_t) : LazyScriptLinks :=
  if l.script_ ∈ dead then { l with script_ := 0 } else l

/-- The state of the diagram the link stands in. -/
def linkRank : Nat := l.enclosingLazyScriptOrScope_.elim 0 fun c => c.kind.rank

/-! ### The accessors and setters -/

variable {l}

theorem linkRank_le : l.linkRank ≤ 2 := by
  cases h : l.enclosingLazyScriptOrScope_ <;> simp [linkRank, h, TraceKind.rank_le]

theorem enclosingIs_eq_true_iff {kind : TraceKind} :
    l.enclosingIs kind = true ↔ l.linkRank = kind.rank := by
  obtain ⟨_, _ | ⟨k, _⟩⟩ := l <;> cases kind <;> (try cases k) <;>
    simp [enclosingIs, linkRank, TraceKind.rank]

theorem enclosingIs_eq_false_iff {kind : TraceKind} :
    l.enclosingIs kind = false ↔ l.linkRank ≠ kind.rank := by
  rw [← Bool.not_eq_true, enclosingIs_eq_true_iff]

theorem hasEnclosingScope_iff : l.hasEnclosingScope = true ↔ l.linkRank = 2 :=
  enclosingIs_eq_true_iff

theorem enclosingAs_eq_ok {has : Bool} {expr : String} {a : uintptr_t} :
    l.enclosingAs has expr = .ok a ↔ has = true ∧ l.enclosingLazyScriptOrScope_.elim 0 TenuredCell.addr = a :=
  assertedRead_eq_ok

/-- What `enclosingScope()` and `enclosingLazyScript()` return: the cell stored, when it has the
kind asked for; otherwise they assert. -/
theorem enclosingAs_kind_eq_ok {kind : TraceKind} {expr : String} {a : uintptr_t} :
    l.enclosingAs (l.enclosingIs kind) expr = .ok a ↔ l.enclosingLazyScriptOrScope_ = some ⟨kind, a⟩ := by
  rw [enclosingAs_eq_ok, enclosingIs_eq_true_iff]
  obtain ⟨_, _ | ⟨k, _⟩⟩ := l <;> cases kind <;> (try cases k) <;> simp [linkRank, TraceKind.rank]

theorem enclosingScope_eq_ok_iff {a : uintptr_t} :
    l.enclosingScope = .ok a ↔ l.enclosingLazyScriptOrScope_ = some ⟨.Scope, a⟩ :=
  enclosingAs_kind_eq_ok

theorem enclosingLazyScript_eq_ok_iff {a : uintptr_t} :
    l.enclosingLazyScript = .ok a ↔ l.enclosingLazyScriptOrScope_ = some ⟨.LazyScript, a⟩ :=
  enclosingAs_kind_eq_ok

theorem setEnclosingLazyScript_eq_ok {a : uintptr_t} {l' : LazyScriptLinks} :
    l.setEnclosingLazyScript a = .ok l' ↔ a ≠ 0 ∧ l.linkRank < TraceKind.LazyScript.rank ∧
      l' = { l with enclosingLazyScriptOrScope_ := some ⟨.LazyScript, a⟩ } := by
  simp only [setEnclosingLazyScript, mozAssert_bind_eq_ok, pure_eq_ok, bne_iff_ne, Bool.not_eq_true',
    hasEnclosingLazyScript, hasEnclosingScope, enclosingIs_eq_false_iff, TraceKind.rank,
    eq_comm (b := l')]
  have := l.linkRank_le
  exact and_congr_right fun _ => and_assoc.symm.trans (and_congr_left fun _ => by omega)

theorem setEnclosingScope_eq_ok {a : uintptr_t} {l' : LazyScriptLinks} :
    l.setEnclosingScope a = .ok l' ↔ a ≠ 0 ∧ l.linkRank < TraceKind.Scope.rank ∧
      l' = { l with enclosingLazyScriptOrScope_ := some ⟨.Scope, a⟩ } := by
  simp only [setEnclosingScope, mozAssert_bind_eq_ok, pure_eq_ok, bne_iff_ne, Bool.not_eq_true',
    hasEnclosingScope, enclosingIs_eq_false_iff, TraceKind.rank, eq_comm (b := l')]
  have := l.linkRank_le
  exact and_congr_right fun _ => and_congr_left fun _ => by omega

theorem initScript_eq_ok {a : uintptr_t} {l' : LazyScriptLinks} :
    l.initScript a = .ok l' ↔ a ≠ 0 ∧ l.script_ = 0 ∧ l' = { l with script_ := a } := by
  simp only [initScript, mozAssert_bind_eq_ok, pure_eq_ok, bne_iff_ne, Bool.not_eq_true',
    hasScript, bne_eq_false_iff_eq, eq_comm (b := l')]

end LazyScriptLinks

/-- Modelled from the spec: a `LazyScript` and the cells the collector has not swept. -/
structure LinkWorld where
  lazy : LazyScriptLinks
  /-- The addresses of the live cells: compiled scripts, lazy scripts and scopes. -/
  live : List uintptr_t
  deriving DecidableEq, Repr

/-- Modelled from the spec: what happens to the links of a `LazyScript`. -/
inductive LinkOp
  | setEnclosingLazyScript (enclosingLazyScript : uintptr_t)
  | setEnclosingScope (enclosingScope : uintptr_t)
  /-- The function is called and its script delazified; a new compiled script, if one is
  needed, is allocated at `fresh`. -/
  | delazify (fresh : uintptr_t)
  /-- A collection sweeps the cells at `dead`. -/
  | collect (dead : List uintptr_t)
  deriving DecidableEq, Repr

/-- The cell a setter links. -/
def LinkOp.setter : LinkOp → Option TenuredCell
  | .setEnclosingLazyScript a => some ⟨.LazyScript, a⟩
  | .setEnclosingScope a => some ⟨.Scope, a⟩
  | _ => none

namespace LinkWorld

variable (w : LinkWorld)

/-- `LazyScript::Create`: no compiled script and no enclosing link yet. -/
def init (live : List uintptr_t) : LinkWorld := ⟨⟨0, none⟩, live⟩

/-- Modelled from the spec: delazification returns the script `script_` names while it is set,
and otherwise compiles a new one at `fresh` and records it with `initScript`. -/
def delazify (fresh : uintptr_t) : Except Fault (uintptr_t × LinkWorld) :=
  if w.lazy.hasScript then pure (w.lazy.maybeScript, w)
  else do
    let lazy ← w.lazy.initScript fresh
    pure (fresh, ⟨lazy, fresh :: w.live⟩)

/-- Modelled from the spec: one step. -/
def step : LinkOp → Except Fault LinkWorld
  | .setEnclosingLazyScript a => do pure { w with lazy := ← w.lazy.setEnclosingLazyScript a }
  | .setEnclosingScope a => do pure { w with lazy := ← w.lazy.setEnclosingScope a }
  | .delazify fresh => do pure (← w.delazify fresh).2
  | .collect dead => pure ⟨w.lazy.sweepScript dead, w.live.filter (· ∉ dead)⟩

/-- A sequence of steps, stopping at the first failed assertion. -/
def run (ops : List LinkOp) : Except Fault LinkWorld := ops.foldlM step w

/-- Modelled from the spec: a setter links a live cell, a new compiled script goes where the
allocator finds room, and a collection never sweeps the enclosing cell, which the `LazyScript`
keeps alive through its `GCPtr`. -/
def Admissible : LinkOp → Prop
  | .setEnclosingLazyScript a => a ∈ w.live
  | .setEnclosingScope a => a ∈ w.live
  | .delazify fresh => fresh ≠ 0 ∧ fresh ∉ w.live
  | .collect dead => ∀ c, w.lazy.enclosingLazyScriptOrScope_ = some c → c.addr ∉ dead

/-- No link dangles: the compiled script `script_` names and the enclosing cell are live. -/
structure Inv : Prop where
  script_live : w.lazy.hasScript → w.lazy.script_ ∈ w.live
  enclosing_live : ∀ c, w.lazy.enclosingLazyScriptOrScope_ = some c → c.addr ∈ w.live

/-- The states an admissible run reaches from a new `LazyScript`. -/
inductive Reachable : LinkWorld → Prop
  | init (live : List uintptr_t) : Reachable (init live)
  | step {w w' : LinkWorld} (op : LinkOp) :
    Reachable w → w.Admissible op → w.step op = .ok w' → Reachable w'

/-! ### One step -/

variable {w}

theorem delazify_of_hasScript (fresh : uintptr_t) (h : w.lazy.hasScript) :
    w.delazify fresh = .ok (w.lazy.script_, w) := by
  simp [delazify, h, LazyScriptLinks.maybeScript]

theorem delazify_eq_ok {fresh s : uintptr_t} {w' : LinkWorld} :
    w.delazify fresh = .ok (s, w') ↔
      (w.lazy.hasScript ∧ s = w.lazy.script_ ∧ w' = w) ∨
      (w.lazy.hasScript = false ∧ fresh ≠ 0 ∧ s = fresh ∧
        w' = ⟨{ w.lazy with script_ := fresh }, fresh :: w.live⟩) := by
  unfold delazify
  cases h : w.lazy.hasScript
  · have h0 : w.lazy.script_ = 0 := by simpa [LazyScriptLinks.hasScript] using h
    simp only [Bool.false_eq_true, ↓reduceIte, bind_eq_ok, LazyScriptLinks.initScript_eq_ok, h0,
      pure_eq_ok, Prod.mk.injEq, true_and, false_and, false_or]
    constructor
    · rintro ⟨_, ⟨ha, rfl⟩, rfl, rfl⟩
      exact ⟨ha, rfl, rfl⟩
    · rintro ⟨ha, rfl, rfl⟩
      exact ⟨_, ⟨ha, rfl⟩, rfl, rfl⟩
  · simp only [↓reduceIte, LazyScriptLinks.maybeScript, true_and, Bool.true_eq_false, false_and,
      or_false]
    exact ⟨fun he => by cases he; exact ⟨rfl, rfl⟩, fun ⟨hs, hw⟩ => hs ▸ hw ▸ rfl⟩

theorem delazify_script {fresh s : uintptr_t} {w₁ : LinkWorld} (h : w.delazify fresh = .ok (s, w₁)) :
    w₁.lazy.script_ = s ∧ w₁.lazy.hasScript := by
  rcases delazify_eq_ok.1 h with ⟨hs, rfl, rfl⟩ | ⟨-, ha, rfl, rfl⟩
  · exact ⟨rfl, hs⟩
  · exact ⟨rfl, bne_iff_ne.2 ha⟩

/-- What a setter does: it links its cell, after asserting that the cell is not `nullptr` and
that the link stands lower in the diagram than the cell's kind. -/
theorem step_setter {op : LinkOp} {w' : LinkWorld} (h : w.step op = .ok w') {c : TenuredCell}
    (hc : op.setter = some c) :
    c.addr ≠ 0 ∧ w.lazy.linkRank < c.kind.rank ∧
      w' = { w with lazy := { w.lazy with enclosingLazyScriptOrScope_ := some c } } := by
  cases op <;> simp only [LinkOp.setter, reduceCtorEq, Option.some.injEq] at hc <;> subst hc <;>
    obtain ⟨_, hl, ⟨⟩⟩ := bind_eq_ok.1 h
  · obtain ⟨ha, hr, rfl⟩ := LazyScriptLinks.setEnclosingLazyScript_eq_ok.1 hl
    exact ⟨ha, hr, rfl⟩
  · obtain ⟨ha, hr, rfl⟩ := LazyScriptLinks.setEnclosingScope_eq_ok.1 hl
    exact ⟨ha, hr, rfl⟩

theorem sweepScript_enclosing (l : LazyScriptLinks) (dead : List uintptr_t) :
    (l.sweepScript dead).enclosingLazyScriptOrScope_ = l.enclosingLazyScriptOrScope_ := by
  unfold LazyScriptLinks.sweepScript; split <;> rfl

theorem sweepScript_hasScript {l : LazyScriptLinks} {dead : List uintptr_t}
    (h : (l.sweepScript dead).hasScript) :
    (l.sweepScript dead).script_ = l.script_ ∧ l.script_ ∉ dead ∧ l.hasScript := by
  unfold LazyScriptLinks.sweepScript at *
  by_cases hd : l.script_ ∈ dead
  · rw [if_pos hd] at h
    simp [LazyScriptLinks.hasScript] at h
  · rw [if_neg hd] at *
    exact ⟨rfl, hd, h⟩

/-- What a delazification or a collection does: it leaves the enclosing link, and it changes
`script_` only to record a new script where there was none, or to clear it as the collector
sweeps the script. -/
theorem step_other {op : LinkOp} {w' : LinkWorld} (h : w.step op = .ok w') (hc : op.setter = none) :
    w'.lazy.enclosingLazyScriptOrScope_ = w.lazy.enclosingLazyScriptOrScope_ ∧
      (w.lazy.hasScript → (∀ dead, op = .collect dead → w.lazy.script_ ∉ dead) →
        w'.lazy.script_ = w.lazy.script_) := by
  cases op with
  | delazify fresh =>
    obtain ⟨⟨s, w₁⟩, hd, ⟨⟩⟩ := bind_eq_ok.1 h
    rcases delazify_eq_ok.1 hd with ⟨-, -, rfl⟩ | ⟨hs, -, -, rfl⟩
    · exact ⟨rfl, fun _ _ => rfl⟩
    · exact ⟨rfl, fun h' => absurd h' (by simp [hs])⟩
  | collect dead =>
    cases h
    refine ⟨sweepScript_enclosing _ _, fun _ hn => ?_⟩
    simp [LazyScriptLinks.sweepScript, hn dead rfl]
  | _ => cases hc

/-- What a step does to the enclosing link: a setter raises its rank to the rank of the kind it
links, and every other step leaves it. -/
theorem step_link {op : LinkOp} {w' : LinkWorld} (h : w.step op = .ok w') :
    w'.lazy.enclosingLazyScriptOrScope_ = w.lazy.enclosingLazyScriptOrScope_ ∧ op.setter = none ∨
    ∃ c, op.setter = some c ∧ w.lazy.linkRank < c.kind.rank ∧ w'.lazy.linkRank = c.kind.rank := by
  cases hc : op.setter with
  | none => exact .inl ⟨(step_other h hc).1, rfl⟩
  | some c =>
    obtain ⟨-, hr, rfl⟩ := step_setter h hc
    exact .inr ⟨c, rfl, hr, rfl⟩

theorem Admissible.setter {op : LinkOp} (ha : w.Admissible op) {c : TenuredCell}
    (hc : op.setter = some c) : c.addr ∈ w.live := by
  cases op <;> simp only [LinkOp.setter, reduceCtorEq, Option.some.injEq] at hc <;> subst hc <;>
    exact ha

/-- **Every admissible step keeps every link live.** -/
theorem Inv.step (hi : w.Inv) {op : LinkOp} (ha : w.Admissible op) {w' : LinkWorld}
    (h : w.step op = .ok w') : w'.Inv := by
  cases hc : op.setter with
  | some c =>
    obtain ⟨-, -, rfl⟩ := step_setter h hc
    exact ⟨hi.script_live, by rintro _ ⟨⟩; exact ha.setter hc⟩
  | none =>
    cases op with
    | delazify fresh =>
      obtain ⟨⟨s, w₁⟩, hd, ⟨⟩⟩ := bind_eq_ok.1 h
      rcases delazify_eq_ok.1 hd with ⟨-, -, rfl⟩ | ⟨-, -, -, rfl⟩
      · exact hi
      · exact ⟨fun _ => List.mem_cons_self _ _,
          fun c hc => List.mem_cons_of_mem _ (hi.enclosing_live c hc)⟩
    | collect dead =>
      cases h
      refine ⟨fun hs => ?_, fun c hc => ?_⟩
      · obtain ⟨he, hd, hs⟩ := sweepScript_hasScript hs
        exact he ▸ List.mem_filter.2 ⟨hi.script_live hs, by simpa⟩
      · rw [sweepScript_enclosing] at hc
        exact List.mem_filter.2 ⟨hi.enclosing_live c hc, by simpa using ha c hc⟩
    | _ => cases hc

/-! ### Runs -/

theorem init_inv (live : List uintptr_t) : (init live).Inv :=
  ⟨fun h => by simp [init, LazyScriptLinks.hasScript] at h, fun _ h => by cases h⟩

theorem Reachable.inv (hr : Reachable w) : w.Inv := by
  induction hr with
  | init live => exact init_inv live
  | step _ _ ha h ih => exact ih.step ha h

/-- **No link of a `LazyScript` dangles**: in every reachable state, the cells `enclosingScope()`
and `enclosingLazyScript()` return are live, and so is the script a delazification returns,
however many collections came between. -/
theorem Reachable.links_live (hr : Reachable w) :
    (∀ a, w.lazy.enclosingScope = .ok a → a ∈ w.live) ∧
    (∀ a, w.lazy.enclosingLazyScript = .ok a → a ∈ w.live) ∧
    (∀ fresh s w', w.delazify fresh = .ok (s, w') → s ∈ w'.live) := by
  have hi := hr.inv
  refine ⟨fun a h => hi.enclosing_live _ (LazyScriptLinks.enclosingScope_eq_ok_iff.1 h),
    fun a h => hi.enclosing_live _ (LazyScriptLinks.enclosingLazyScript_eq_ok_iff.1 h),
    fun fresh s w' h => ?_⟩
  rcases delazify_eq_ok.1 h with ⟨hs, rfl, rfl⟩ | ⟨-, -, rfl, rfl⟩
  · exact hi.script_live hs
  · exact List.mem_cons_self _ _

theorem run_cons (op : LinkOp) (ops : List LinkOp) :
    w.run (op :: ops) = w.step op >>= fun w₁ => w₁.run ops := rfl

/-- The kinds of link a `LazyScript` can still take from the state of rank `r`. -/
def kindsAbove (r : Nat) : List TraceKind := [.LazyScript, .Scope].filter (r < ·.rank)

theorem kindsAbove_cons {r : Nat} {k : TraceKind} (h : r < k.rank) :
    (k :: kindsAbove k.rank).Sublist (kindsAbove r) := by
  cases k <;> simp only [TraceKind.rank] at h
  · obtain rfl : r = 0 := by omega
    decide
  · obtain rfl | rfl : r = 0 ∨ r = 1 := by omega
    all_goals decide

theorem run_setters {ops : List LinkOp} {w' : LinkWorld} (h : w.run ops = .ok w') :
    ((ops.filterMap LinkOp.setter).map TenuredCell.kind).Sublist (kindsAbove w.lazy.linkRank) := by
  induction ops generalizing w with
  | nil => exact List.nil_sublist _
  | cons op ops ih =>
    obtain ⟨w₁, hs, hr⟩ := bind_eq_ok.1 ((run_cons op ops).symm.trans h)
    rcases step_link hs with ⟨he, hc⟩ | ⟨c, hc, hlt, heq⟩
    · rw [List.filterMap_cons_none hc]
      simpa only [LazyScriptLinks.linkRank, he] using ih hr
    · rw [List.filterMap_cons_some hc, List.map_cons]
      exact ((ih hr).cons₂ _).trans (heq ▸ kindsAbove_cons hlt)

/-- **The setters that pass their assertions along a run are `setEnclosingLazyScript` and then
`setEnclosingScope`, each at most once**, as the diagram above `enclosingLazyScriptOrScope_`
draws the transitions. -/
theorem setters_sublist {ops : List LinkOp} {w' : LinkWorld} (h : w.run ops = .ok w') :
    ((ops.filterMap LinkOp.setter).map TenuredCell.kind).Sublist [.LazyScript, .Scope] :=
  (run_setters h).trans (List.filter_sublist _)

/-- There is no way back: a link to a scope is never replaced by a `LazyScript`. -/
example : (init [0x100, 0x200]).run [.setEnclosingScope 0x100, .setEnclosingLazyScript 0x200] =
    .error (.assertion "!hasEnclosingScope()") := rfl

/-- **Once the enclosing scope is set, it stays**: along every run that passes its assertions,
the link of a `LazyScript` whose enclosing script has been compiled does not change. -/
theorem run_enclosing_of_scope {ops : List LinkOp} {w' : LinkWorld} (h : w.run ops = .ok w')
    (hs : w.lazy.enclosingScriptHasEverBeenCompiled) :
    w'.lazy.enclosingLazyScriptOrScope_ = w.lazy.enclosingLazyScriptOrScope_ := by
  refine foldlM_inv (fun u : LinkWorld => u.lazy.enclosingLazyScriptOrScope_ =
    w.lazy.enclosingLazyScriptOrScope_) (fun u op u' hu hst => ?_) ops rfl h
  have h2 : u.lazy.linkRank = 2 := by
    rw [LazyScriptLinks.linkRank, hu]
    exact LazyScriptLinks.hasEnclosingScope_iff.1 hs
  rcases step_link hst with ⟨he, -⟩ | ⟨c, -, hlt, -⟩
  · exact he.trans hu
  · exact absurd c.kind.rank_le (by omega)

theorem run_script {ops : List LinkOp} {w' : LinkWorld} (h : w.run ops = .ok w')
    (hs : w.lazy.hasScript) (hc : ∀ dead, LinkOp.collect dead ∈ ops → w.lazy.script_ ∉ dead) :
    w'.lazy.script_ = w.lazy.script_ := by
  induction ops generalizing w with
  | nil => cases h; rfl
  | cons op ops ih =>
    obtain ⟨w₁, hst, hr⟩ := bind_eq_ok.1 ((run_cons op ops).symm.trans h)
    have he : w₁.lazy.script_ = w.lazy.script_ := by
      cases hk : op.setter with
      | none => exact (step_other hst hk).2 hs fun dead hd => hc dead (hd ▸ List.mem_cons_self _ _)
      | some c => obtain ⟨-, -, rfl⟩ := step_setter hst hk; rfl
    have hs₁ : w₁.lazy.hasScript := by rwa [LazyScriptLinks.hasScript, he]
    exact (ih hr hs₁ fun dead hd => he ▸ hc dead (List.mem_cons_of_mem _ hd)).trans he

/-- **A delazified script is reused until the collector sweeps it**: after a delazification
returns `s`, along every run that passes its assertions and collects no cell at `s`, a later
delazification returns `s` again, and compiles nothing. -/
theorem run_delazify_same {fresh s : uintptr_t} {w₁ w' : LinkWorld} {ops : List LinkOp}
    (hd : w.delazify fresh = .ok (s, w₁)) (h : w₁.run ops = .ok w')
    (hc : ∀ dead, LinkOp.collect dead ∈ ops → s ∉ dead) (fresh' : uintptr_t) :
    w'.delazify fresh' = .ok (s, w') := by
  obtain ⟨rfl, hs⟩ := delazify_script hd
  have he := run_script h hs hc
  rw [delazify_of_hasScript fresh' (by rwa [LazyScriptLinks.hasScript, he]), he]

/-- A function nested in a compiled script is called twice, with a collection of its enclosing
`LazyScript` between the calls: the second call compiles nothing. -/
example : LinkWorld.run ⟨⟨0, some ⟨.Scope, 0x100⟩⟩, [0x100, 0x200]⟩
    [.delazify 0x300, .collect [0x200], .delazify 0x400] =
    .ok ⟨⟨0x300, some ⟨.Scope, 0x100⟩⟩, [0x300, 0x100]⟩ := rfl

end LinkWorld

end JsScript
