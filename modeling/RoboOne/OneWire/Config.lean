import RoboOne.OneWire.Ds2438

namespace RoboOne.OneWire

open Interaction

-- The configuration and the threshold.
def readNVConfigThresholdDS2438 : Ds2438Program (Option (UInt8 × UInt8)) := do
  let buffer ← readNVPageDS2438 ds2438ConfigPage
  return buffer.map fun buffer => (buffer ds2438ConfigRegOffset, buffer ds2438ThresholdRegOffset)

-- With `PNULL` for the threshold.
def writeNVConfigDS2438 (config : UInt8) : Ds2438Program Bool :=
  writeNVPageDS2438 ds2438ConfigPage (.byte config)

-- What is written at once. The bytes in between are not initialised.
def configThresholdPage (uninitialised : Page) (config threshold : UInt8) : Page := fun i =>
  if i = ds2438ConfigRegOffset then config
  else if i = ds2438ThresholdRegOffset then threshold
  else uninitialised i

def iadIsEnabled (config : UInt8) : Bool :=
  config &&& ds2438IadIsEnabled ≠ 0

def writeNVConfigThresholdDS2438 (uninitialised : Page) (config : UInt8) :
    Option UInt8 → Ds2438Program Bool
  | none           => writeNVConfigDS2438 config
  | some threshold => do
    let stored ← readNVConfigThresholdDS2438
    let iadWasEnabled := stored.any fun s => iadIsEnabled s.1
    let storedConfig := (stored.map Prod.fst).getD 0
    -- The success of this is overwritten, as is that of the read.
    let _ ← (if iadWasEnabled then writeNVConfigDS2438 (storedConfig &&& ~~~ds2438IadIsEnabled)
      else pure true)
    let success ← writeNVPageDS2438 ds2438ConfigPage
      (configThresholdPage uninitialised config threshold).data
    let iadSuccess ← (if iadWasEnabled then writeNVConfigDS2438 storedConfig else pure true)
    return success && iadSuccess

-- What a success of the function stands for, and that it stands for the success of all operations.
structure ConfigThresholdWritten (config threshold : UInt8) (success : Bool) (calls : Ds2438History)
    (d' : Chip) : Prop where
  stored    : success = true → d'.memory ds2438ConfigPage ds2438ConfigRegOffset = config ∧
    d'.memory ds2438ConfigPage ds2438ThresholdRegOffset = threshold
  succeeded : success = true → ∀ x ∈ calls, x.1.succeeded x.2

-- A failure of the read or of the first write is lost, or another configuration is written back.
def ConfigThresholdLost (config : UInt8) : List (Option Page) → List Bool → Prop
  | [none], [written]                       => written = true
  | [some stored], [disabled, written, back] => written = true ∧ back = true ∧
    (disabled = false ∨ stored ds2438ConfigRegOffset ≠ config)
  | _, _                                    => False

-- The calls of the function with a threshold: the configuration that is stored decides about them.
inductive ConfigThresholdCalls (page : Page) : Ds2438History → Bool → Prop
  | unread {written} : ConfigThresholdCalls page
    [⟨.readNVPageDS2438 ds2438ConfigPage, none⟩,
      ⟨.writeNVPageDS2438 ds2438ConfigPage page.data, written⟩] written
  | idle {stored written} : iadIsEnabled (stored ds2438ConfigRegOffset) = false →
    ConfigThresholdCalls page
      [⟨.readNVPageDS2438 ds2438ConfigPage, some stored⟩,
        ⟨.writeNVPageDS2438 ds2438ConfigPage page.data, written⟩] written
  | measuring {stored : Page} {temp disabled written back} :
    iadIsEnabled (stored ds2438ConfigRegOffset) = true → ConfigThresholdCalls page
      [⟨.readNVPageDS2438 ds2438ConfigPage, some stored⟩,
        ⟨.writeNVPageDS2438 ds2438ConfigPage temp, disabled⟩,
        ⟨.writeNVPageDS2438 ds2438ConfigPage page.data, written⟩,
        ⟨.writeNVPageDS2438 ds2438ConfigPage (.byte <| stored ds2438ConfigRegOffset), back⟩]
      (written && back)

variable {uninitialised page : Page} {config threshold : UInt8} {calls : Ds2438History}
  {success : Bool} {d d' : Chip}

theorem readNVConfigThresholdDS2438_traces {m : Unit}
    {Q : Ds2438History → Option (UInt8 × UInt8) → Unit → Prop}
    (h : ∀ read, Q [⟨.readNVPageDS2438 ds2438ConfigPage, read⟩]
      (Option.map (fun p => (p ds2438ConfigRegOffset, p ds2438ThresholdRegOffset)) read) m) :
    Traces m readNVConfigThresholdDS2438 Q :=
  .bind <| .call fun read => .pure <| h read

theorem writeNVConfigDS2438_traces {m : Unit} {Q : Ds2438History → Bool → Unit → Prop}
    (h : ∀ success, Q
      [⟨.writeNVPageDS2438 ds2438ConfigPage (.byte config), success⟩] success m) :
    Traces m (writeNVConfigDS2438 config) Q :=
  .call h

theorem writeNVConfigThresholdDS2438_traces :
    Traces () (writeNVConfigThresholdDS2438 uninitialised config (some threshold))
      fun calls success _ =>
        ConfigThresholdCalls (configThresholdPage uninitialised config threshold) calls success := by
  refine .bind <| readNVConfigThresholdDS2438_traces fun read => ?_
  cases read
  case none =>
    refine .bind <| .pure <| .bind <| .call fun written => .bind <| .pure <| .pure ?_
    rw [Bool.and_true]
    exact .unread
  case some stored =>
    cases hs : iadIsEnabled (stored ds2438ConfigRegOffset)
    case false =>
      simp only [Option.map_some, Option.any_some, hs, Bool.false_eq_true, if_false]
      refine .bind <| .pure <| .bind <| .call fun written => .bind <| .pure <| .pure ?_
      rw [Bool.and_true]
      exact .idle hs
    case true =>
      simp only [Option.map_some, Option.any_some, hs, if_true]
      refine .bind <| writeNVConfigDS2438_traces fun disabled => .bind <| .call fun written =>
        .bind <| writeNVConfigDS2438_traces fun back => .pure ?_
      exact .measuring hs

-- The whole page is written at once.
theorem memory_of_written {success : Bool} (hs : success = true)
    (hd : d.Acts (.writeNVPageDS2438 ds2438ConfigPage page.data) success d') :
    d'.memory ds2438ConfigPage = page ∧ d'.scratchpad ds2438ConfigPage = page := by
  subst hs
  rw [hd.writeNVPage_memory, hd.writeNVPage_scratchpad, Page.overlay_data]
  exact ⟨rfl, rfl⟩

-- What is written back leaves the threshold as it is.
theorem memory_of_back {success : Bool} (hs : success = true)
    (hd : d.Acts (.writeNVPageDS2438 ds2438ConfigPage (.byte config)) success d') :
    d'.memory ds2438ConfigPage ds2438ConfigRegOffset = config ∧
      d'.memory ds2438ConfigPage ds2438ThresholdRegOffset =
        d.scratchpad ds2438ConfigPage ds2438ThresholdRegOffset := by
  subst hs
  rw [hd.writeNVPage_memory, Page.overlay_byte, Page.overlay_byte]
  exact ⟨rfl, rfl⟩

theorem ConfigThresholdCalls.written_iff
    (hc : ConfigThresholdCalls (configThresholdPage uninitialised config threshold) calls success)
    (hd : Evolves Chip.Acts d calls d') :
    ConfigThresholdWritten config threshold success calls d' ↔
      ¬ConfigThresholdLost config (reads calls) (writes calls) := by
  cases hc
  case unread =>
    change _ ↔ ¬success = true
    constructor
    case mp  => exact fun h hw => Bool.false_ne_true <| h.succeeded hw _ (.head _)
    case mpr => exact fun h => ⟨fun hw => absurd hw h, fun hw => absurd hw h⟩
  case idle stored hs =>
    change _ ↔ ¬False
    simp only [Evolves.cons_iff, Evolves.nil_iff] at hd
    have ⟨d₁, _, d₂, h₂, he⟩ := hd
    subst he
    refine iff_of_true ⟨fun hw => ?_, fun hw => ?_⟩ not_false
    case refine_1 =>
      rw [(memory_of_written hw h₂).left]
      exact ⟨rfl, rfl⟩
    case refine_2 => simpa [Ds2438Call.succeeded] using hw
  case measuring stored temp disabled written back hs =>
    change _ ↔ ¬(written = true ∧ back = true ∧
      (disabled = false ∨ stored ds2438ConfigRegOffset ≠ config))
    simp only [Evolves.cons_iff, Evolves.nil_iff] at hd
    have ⟨d₁, _, d₂, _, d₃, h₃, d₄, h₄, he⟩ := hd
    subst he
    constructor
    case mp =>
      rintro h ⟨rfl, rfl, hl⟩
      have hstored := (h.stored rfl).left
      rw [(memory_of_back rfl h₄).left] at hstored
      rcases hl with rfl | hl
      case inl => exact Bool.false_ne_true <| h.succeeded rfl _ (.tail _ <| .head _)
      case inr => exact hl hstored
    case mpr =>
      intro h
      have hgood (hw : (written && back) = true) : written = true ∧ back = true ∧
          disabled = true ∧ stored ds2438ConfigRegOffset = config := by
        rw [Bool.and_eq_true] at hw
        simpa [hw] using h
      constructor
      case stored =>
        intro hw
        have ⟨hw, hb, _, he⟩ := hgood hw
        have ⟨hconfig, hthreshold⟩ := memory_of_back hb h₄
        rw [hconfig, hthreshold, (memory_of_written hw h₃).right]
        exact ⟨he, rfl⟩
      case succeeded =>
        intro hw
        have ⟨hw, hb, hd, _⟩ := hgood hw
        simp [Ds2438Call.succeeded, hw, hb, hd]

-- A success can be relied upon if and only if nothing of that happens.
theorem config_threshold_written_iff (env : Ds2438Environment) (w : Ds2438World)
    (uninitialised : Page) (config threshold : UInt8) :
    ∃ success w' calls,
      writeNVConfigThresholdDS2438 uninitialised config (some threshold) env w = some (success, w') ∧
      w'.history = w.history ++ calls ∧ ∀ d d', Evolves Chip.Acts d calls d' →
        (ConfigThresholdWritten config threshold success calls d' ↔
          ¬ConfigThresholdLost config (reads calls) (writes calls)) := by
  have ⟨calls, success, m', hr, _, hc⟩ :=
    @writeNVConfigThresholdDS2438_traces uninitialised config threshold env w.history
  exact ⟨success, _, calls, hr, rfl, fun d d' => hc.written_iff⟩

-- A device that measures the current, and on which everything succeeds.
def measuringChip : Chip where
  scratchpad _ _ := ds2438IadIsEnabled
  memory _ _     := ds2438IadIsEnabled

-- The measurement goes on, although the configuration without it was to be stored.
theorem writeNVConfigThresholdDS2438_measuringChip :
    (writeNVConfigThresholdDS2438 (fun _ => 0) 0 (some 5) (behaviour Chip.respond measuringChip)
      ⟨(), []⟩).map (fun r => (r.1, (after Chip.respond measuringChip r.2.history).memory
        ds2438ConfigPage ds2438ConfigRegOffset)) = some (true, ds2438IadIsEnabled) :=
  rfl

theorem config_threshold_not_written : ¬∀ (env : Ds2438Environment) (w : Ds2438World)
    (uninitialised : Page) (config threshold : UInt8), ∃ success w' calls,
      writeNVConfigThresholdDS2438 uninitialised config (some threshold) env w = some (success, w') ∧
      w'.history = w.history ++ calls ∧ ∀ d d', Evolves Chip.Acts d calls d' →
        ConfigThresholdWritten config threshold success calls d' := by
  intro h
  have ⟨success, w', calls, hr, hh, hw⟩ :=
    h (behaviour Chip.respond measuringChip) ⟨(), []⟩ (fun _ => 0) 0 5
  have ⟨ha, _⟩ := writeNVConfigThresholdDS2438_traces.result hr hh
  have hrun := writeNVConfigThresholdDS2438_measuringChip
  rw [hr, Option.map_some, Option.some.injEq, Prod.mk.injEq, hh] at hrun
  have hstored := ((hw _ _ <| ha.evolves Chip.respond_acts).stored hrun.left).left
  rw [hrun.right] at hstored
  cases hstored

end RoboOne.OneWire
