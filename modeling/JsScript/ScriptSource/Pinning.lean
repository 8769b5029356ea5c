/-
# Pinned source text and deferred compression

`src/src/js/vm/JSScript.h`, lines 494-541 (`PinnedUnitsBase`, `PinnedUnits`), 588-596
(`pinnedUnitsStack_`, `pendingCompressed_` and the comment above them) and 1020-1052
(`SetCompressedSourceFromTask`).

A raw pointer into the text of a `ScriptSource` is taken through a `PinnedUnits`, which pushes
itself on `pinnedUnitsStack_`.  A compression task may deliver its result while pins are
outstanding; the comment above `pinnedUnitsStack_` says what happens then: the compressed text
waits in `pendingCompressed_`, and the bottom pin of the stack installs it when it is destroyed.
The bodies of the `PinnedUnits` constructor and destructor, of `setSource`,
`setCompressedSource` and `movePendingCompressedSource` are in `JSScript.cpp`; they are modelled
from that comment and the pin contract of the specification, around the header's own matcher
`SetCompressedSourceFromTask`.

Over every admissible run: no step changes the text while a pin is outstanding before and
after it, so a pinned pointer stays valid for the pin's whole life (`pinned_run_data`); compressed
text waits only while a pin is outstanding, and always for the text in place (`Inv`); a
delivered compression is never lost, since once no pin is left the text is compressed
(`run_compressed`); and once set, the text keeps its unit and length (`run_describe`).
-/

import JsScript.ScriptSource.Text

namespace JsScript

/-- The alternative held by `pendingCompressed_`, a
`MaybeOneOf<Compressed<Utf8Unit>, Compressed<char16_t>>`. -/
structure PendingCompressed where
  unit : SourceUnit
  raw : SharedImmutableString
  uncompressedLength : size_t
  deriving DecidableEq, Repr

/-- The fields of `ScriptSource` that hold its text.  The reference count is modelled apart. -/
structure SourceText where
  data : SourceType
  /-- The number of `PinnedUnits` on `pinnedUnitsStack_`. -/
  pins : Nat
  pendingCompressed_ : Option PendingCompressed
  deriving DecidableEq, Repr

/-- Modelled from the spec: what happens to the text of a source. -/
inductive TextOp
  /-- `setSource<Unit>(uncompressed)`: the text is set, once. -/
  | setSource (unit : SourceUnit) (uncompressed : SharedImmutableString)
  /-- A `PinnedUnits` is constructed. -/
  | pin
  /-- The most recent `PinnedUnits` is destroyed. -/
  | unpin
  /-- A compression task delivers its result: `setCompressedSourceFromTask(compressed)`. -/
  | compressionDone (compressed : SharedImmutableString)

namespace SourceText

variable (t : SourceText)

/-- `ScriptSource()`: no text, no pin, nothing pending. -/
def init : SourceText := ⟨.Missing, 0, none⟩

/-- Modelled from the spec: `setCompressedSource<Unit>(raw, sourceLength)`.  While a pin is
outstanding the compressed text waits in `pendingCompressed_`; otherwise it replaces the text. -/
def setCompressedSource (unit : SourceUnit) (raw : SharedImmutableString) (sourceLength : size_t) :
    SourceText :=
  if t.pins = 0 then { t with data := .Compressed unit raw sourceLength }
  else { t with pendingCompressed_ := some ⟨unit, raw, sourceLength⟩ }

/-- Modelled from the spec: `movePendingCompressedSource()`, run as the bottom pin goes. -/
def movePendingCompressedSource : SourceText :=
  match t.pendingCompressed_ with
  | some p => { t with data := .Compressed p.unit p.raw p.uncompressedLength, pendingCompressed_ := none }
  | none => t

/-- Modelled from the spec: one step on the text. -/
def step : TextOp → Except Fault SourceText
  | .setSource unit uncompressed => .ok { t with data := .Uncompressed unit uncompressed }
  | .pin => .ok { t with pins := t.pins + 1 }
  | .unpin =>
    .ok (if t.pins = 1 then { t with pins := 0 }.movePendingCompressedSource
      else { t with pins := t.pins - 1 })
  | .compressionDone compressed => t.data.setCompressedSourceFromTask t.setCompressedSource compressed

/-- Modelled from the spec: a source is given text once, while it has none; a pin reads text,
which only the text alternatives have (`SourceType.describe_eq_ok_iff`); and a pin is released
only after it was taken. -/
def Admissible : TextOp → Prop
  | .setSource .. => t.data = .Missing
  | .pin => t.data.hasSourceText
  | .unpin => 0 < t.pins
  | .compressionDone _ => True

/-- An admissible run from one state to another whose every state, the two ends included,
satisfies `Q`. -/
inductive RunWithin (Q : SourceText → Prop) : SourceText → SourceText → Prop
  | refl {t : SourceText} : Q t → RunWithin Q t t
  | step {t t₁ t' : SourceText} (op : TextOp) :
    Q t → t.Admissible op → t.step op = .ok t₁ → RunWithin Q t₁ t' → RunWithin Q t t'

/-- An admissible run. -/
def Run (t t' : SourceText) : Prop := RunWithin (fun _ => True) t t'

/-- What holds in every reachable state: a pinned source has text, compressed text waits only
while a pin is outstanding, and it waits for the text in place, of the same unit and length. -/
structure Inv : Prop where
  text_of_pinned : 0 < t.pins → t.data.hasSourceText
  pinned_of_pending : t.pendingCompressed_.isSome → 0 < t.pins
  pending_matches : ∀ p, t.pendingCompressed_ = some p →
    ∃ s, t.data = .Uncompressed p.unit s ∧ s.length = p.uncompressedLength

theorem init_inv : init.Inv := ⟨by simp [init], by simp [init], by simp [init]⟩

/-- The compressed text is in place or waiting. -/
def Compressedish : Prop := t.data.hasCompressedSource ∨ t.pendingCompressed_.isSome

/-! ### One step -/

@[simp] theorem movePendingCompressedSource_pins : t.movePendingCompressedSource.pins = t.pins := by
  unfold movePendingCompressedSource; split <;> rfl

/-- What a step can do: set the text, move the pin count, or hand compressed text to
`setCompressedSource` for the uncompressed text in place. -/
theorem step_cases {op : TextOp} {t' : SourceText} (h : t.step op = .ok t') :
    (∃ unit s, op = .setSource unit s ∧ t' = { t with data := .Uncompressed unit s }) ∨
    (op = .pin ∧ t' = { t with pins := t.pins + 1 }) ∨
    (op = .unpin ∧ t.pins = 1 ∧ t' = { t with pins := 0 }.movePendingCompressedSource) ∨
    (op = .unpin ∧ t.pins ≠ 1 ∧ t' = { t with pins := t.pins - 1 }) ∨
    (∃ c unit s, op = .compressionDone c ∧ t.data = .Uncompressed unit s ∧
      t' = t.setCompressedSource unit c s.length) := by
  cases op with
  | setSource unit s => exact .inl ⟨unit, s, rfl, (Except.ok.inj h).symm⟩
  | pin => exact .inr (.inl ⟨rfl, (Except.ok.inj h).symm⟩)
  | unpin =>
    by_cases h1 : t.pins = 1
    · exact .inr (.inr (.inl ⟨rfl, h1, by simpa [step, h1, eq_comm] using h⟩))
    · exact .inr (.inr (.inr (.inl ⟨rfl, h1, by simpa [step, h1, eq_comm] using h⟩)))
  | compressionDone c =>
    simp only [step] at h
    cases hd : t.data with
    | Uncompressed unit s =>
      rw [hd] at h
      exact .inr (.inr (.inr (.inr ⟨c, unit, s, rfl, rfl, (Except.ok.inj h).symm⟩)))
    | _ => rw [hd] at h; cases h

variable {t}

theorem Inv.pins_eq_zero_of_missing (hi : t.Inv) (hm : t.data = .Missing) : t.pins = 0 := by
  by_contra hp
  have := hi.text_of_pinned (Nat.pos_of_ne_zero hp)
  simp [hm, SourceType.hasSourceText, SourceType.hasUncompressedSource,
    SourceType.hasCompressedSource] at this

theorem Inv.pending_eq_none_of_missing (hi : t.Inv) (hm : t.data = .Missing) :
    t.pendingCompressed_ = none := by
  cases hp : t.pendingCompressed_ with
  | none => rfl
  | some p =>
    obtain ⟨s, hs, -⟩ := hi.pending_matches p hp
    rw [hm] at hs
    cases hs

/-- **Every admissible step keeps `Inv`.** -/
theorem Inv.step (hi : t.Inv) {op : TextOp} (ha : t.Admissible op) {t' : SourceText}
    (h : t.step op = .ok t') : t'.Inv := by
  rcases t.step_cases h with ⟨unit, s, rfl, rfl⟩ | ⟨rfl, rfl⟩ | ⟨rfl, h1, rfl⟩ | ⟨rfl, h1, rfl⟩ |
      ⟨c, unit, s, rfl, hd, rfl⟩
  · have hp := hi.pins_eq_zero_of_missing ha
    have hn := hi.pending_eq_none_of_missing ha
    exact ⟨by simp [hp], by simp [hn], by simp [hn]⟩
  · exact ⟨fun _ => ha, fun _ => Nat.succ_pos _, hi.pending_matches⟩
  · unfold movePendingCompressedSource
    dsimp only
    split <;> exact ⟨by simp, by simp_all, by simp_all⟩
  · have hp : 1 < t.pins := by have := ha; simp only [Admissible] at this; omega
    exact ⟨fun _ => hi.text_of_pinned (by omega), fun _ => by simp; omega, hi.pending_matches⟩
  · unfold setCompressedSource
    split
    · rename_i hp
      have hn : t.pendingCompressed_ = none := by
        cases hq : t.pendingCompressed_ with
        | none => rfl
        | some _ => exact absurd (hi.pinned_of_pending (by simp [hq])) (by omega)
      exact ⟨by simp [hp], by simp [hn], by simp [hn]⟩
    · rename_i hp
      exact ⟨hi.text_of_pinned, fun _ => Nat.pos_of_ne_zero hp,
        by rintro p ⟨⟩; exact ⟨s, hd, rfl⟩⟩

/-- **No admissible step changes the text while a pin is outstanding before and after it.** -/
theorem step_data_of_pinned (hi : t.Inv) {op : TextOp} (ha : t.Admissible op) {t' : SourceText}
    (h : t.step op = .ok t') (hpin : 0 < t.pins) (hpin' : 0 < t'.pins) : t'.data = t.data := by
  rcases t.step_cases h with ⟨_, _, rfl, rfl⟩ | ⟨rfl, rfl⟩ | ⟨rfl, _, rfl⟩ | ⟨rfl, _, rfl⟩ |
      ⟨_, _, _, rfl, _, rfl⟩
  · exact absurd (hi.pins_eq_zero_of_missing ha) (by omega)
  · rfl
  · simp at hpin'
  · rfl
  · simp [setCompressedSource, Nat.pos_iff_ne_zero.1 hpin]

/-- Once set, the text keeps its unit and length across every admissible step. -/
theorem step_describe (hi : t.Inv) {op : TextOp} (ha : t.Admissible op) {t' : SourceText}
    (h : t.step op = .ok t') (hm : t.data ≠ .Missing) :
    t'.data.unit? = t.data.unit? ∧ t'.data.textLength? = t.data.textLength? := by
  rcases t.step_cases h with ⟨_, _, rfl, rfl⟩ | ⟨rfl, rfl⟩ | ⟨rfl, _, rfl⟩ | ⟨rfl, _, rfl⟩ |
      ⟨_, _, _, rfl, hd, rfl⟩
  · exact absurd ha hm
  · exact ⟨rfl, rfl⟩
  · unfold movePendingCompressedSource
    dsimp only
    split
    · rename_i p hp
      obtain ⟨s, hs, hl⟩ := hi.pending_matches p hp
      simp [hs, hl, SourceType.unit?, SourceType.textLength?]
    · exact ⟨rfl, rfl⟩
  · exact ⟨rfl, rfl⟩
  · unfold setCompressedSource
    split <;> simp [hd, SourceType.unit?, SourceType.textLength?]

/-- Compressed text, in place or waiting, stays so. -/
theorem Compressedish.step (hi : t.Inv) (hc : t.Compressedish) {op : TextOp} (ha : t.Admissible op)
    {t' : SourceText} (h : t.step op = .ok t') : t'.Compressedish := by
  rcases t.step_cases h with ⟨_, _, rfl, rfl⟩ | ⟨rfl, rfl⟩ | ⟨rfl, _, rfl⟩ | ⟨rfl, _, rfl⟩ |
      ⟨_, _, _, rfl, _, rfl⟩
  · have hm : t.data = .Missing := ha
    rcases hc with hc | hc
    · rw [hm] at hc; cases hc
    · simp [hi.pending_eq_none_of_missing hm] at hc
  · exact hc
  · unfold movePendingCompressedSource
    dsimp only
    split
    · exact .inl rfl
    · rename_i hp
      rcases hc with hc | hc
      · exact .inl hc
      · simp [hp] at hc
  · exact hc
  · unfold setCompressedSource
    split
    · exact .inl rfl
    · exact .inr rfl

/-! ### Runs -/

theorem RunWithin.inv {Q : SourceText → Prop} {t' : SourceText} (hr : RunWithin Q t t')
    (hi : t.Inv) : t'.Inv := by
  induction hr with
  | refl _ => exact hi
  | step op _ ha h _ ih => exact ih (hi.step ha h)

/-- **A pinned pointer stays valid for the pin's whole life**: along a run during which a pin
is always outstanding, the text does not change. -/
theorem pinned_run_data {t' : SourceText} (hi : t.Inv) (hr : RunWithin (fun u => 0 < u.pins) t t') :
    t'.data = t.data := by
  induction hr with
  | refl _ => rfl
  | @step u u₁ u' op hq ha h hr ih =>
    have hq₁ : 0 < u₁.pins := by cases hr <;> assumption
    exact (ih (hi.step ha h)).trans (step_data_of_pinned hi ha h hq hq₁)

/-- A pin held while compression completes and a second pin comes and goes: the text under the
first pin does not move. -/
theorem pinned_run_data_through_compression :
    let t : SourceText := ⟨.Uncompressed .Utf8Unit ⟨0x100, 10⟩, 1, none⟩
    let t' : SourceText := ⟨.Uncompressed .Utf8Unit ⟨0x100, 10⟩, 1, some ⟨.Utf8Unit, ⟨0x200, 4⟩, 10⟩⟩
    t.Inv ∧ RunWithin (fun u => 0 < u.pins) t t' ∧ t'.data = t.data := by
  intro t t'
  have hi : t.Inv := ⟨fun _ => rfl, fun _ => Nat.one_pos, fun _ hp => by cases hp⟩
  have hr : RunWithin (fun u => 0 < u.pins) t t' :=
    .step (.compressionDone ⟨0x200, 4⟩) Nat.one_pos trivial rfl
      (.step .pin Nat.one_pos rfl rfl
        (.step .unpin (by decide : 0 < 2) (by decide : 0 < 2) rfl (.refl Nat.one_pos)))
  exact ⟨hi, hr, pinned_run_data hi hr⟩

/-- **Once set, the text keeps its unit and length**, whatever is compressed or pinned. -/
theorem run_describe {t' : SourceText} (hi : t.Inv) (hm : t.data ≠ .Missing) (hr : Run t t') :
    t'.data.unit? = t.data.unit? ∧ t'.data.textLength? = t.data.textLength? := by
  induction hr with
  | refl _ => exact ⟨rfl, rfl⟩
  | @step u u₁ u' op _ ha h _ ih =>
    obtain ⟨hu, hl⟩ := step_describe hi ha h hm
    have hm₁ : u₁.data ≠ .Missing := by
      intro e
      rw [e] at hl
      cases hd : u.data <;> simp_all [SourceType.textLength?]
    obtain ⟨hu', hl'⟩ := ih (hi.step ha h) hm₁
    exact ⟨hu'.trans hu, hl'.trans hl⟩

/-- A UTF-16 text compressed with no pin outstanding keeps its unit and length. -/
theorem run_describe_after_compression :
    let t : SourceText := ⟨.Uncompressed .char16_t ⟨0x100, 10⟩, 0, none⟩
    let t' : SourceText := ⟨.Compressed .char16_t ⟨0x200, 4⟩ 10, 0, none⟩
    t.Inv ∧ t.data ≠ .Missing ∧ Run t t' ∧
      (t'.data.unit? = t.data.unit? ∧ t'.data.textLength? = t.data.textLength?) := by
  intro t t'
  have hi : t.Inv :=
    ⟨fun h => absurd h (by decide), fun h => absurd h (by decide), fun _ hp => by cases hp⟩
  have hm : t.data ≠ .Missing := fun h => by cases h
  have hr : Run t t' := .step (.compressionDone ⟨0x200, 4⟩) trivial trivial rfl (.refl trivial)
  exact ⟨hi, hm, hr, run_describe hi hm hr⟩

/-- **A delivered compression is never lost**: from a state whose compressed text is in place
or waiting, every run that ends with no pin outstanding ends on compressed text. -/
theorem run_compressed {t' : SourceText} (hi : t.Inv) (hc : t.Compressedish) (hr : Run t t')
    (hp : t'.pins = 0) : t'.data.hasCompressedSource := by
  induction hr with
  | refl _ =>
    rcases hc with hc | hc
    · exact hc
    · exact absurd (hi.pinned_of_pending hc) (by omega)
  | step op _ ha h _ ih => exact ih (hi.step ha h) (hc.step hi ha h) hp

/-- The compressed text waiting under the last pin is in place once that pin goes. -/
theorem run_compressed_on_release :
    let t : SourceText := ⟨.Uncompressed .Utf8Unit ⟨0x100, 10⟩, 1, some ⟨.Utf8Unit, ⟨0x200, 4⟩, 10⟩⟩
    let t' : SourceText := ⟨.Compressed .Utf8Unit ⟨0x200, 4⟩ 10, 0, none⟩
    t.Inv ∧ t.Compressedish ∧ Run t t' ∧ t'.pins = 0 ∧ t'.data.hasCompressedSource := by
  intro t t'
  have hi : t.Inv := ⟨fun _ => rfl, fun _ => Nat.one_pos, fun _ hp => by cases hp; exact ⟨_, rfl, rfl⟩⟩
  have hr : Run t t' := .step .unpin trivial Nat.one_pos rfl (.refl trivial)
  exact ⟨hi, .inr rfl, hr, rfl, run_compressed hi (.inr rfl) hr rfl⟩

end SourceText

end JsScript
