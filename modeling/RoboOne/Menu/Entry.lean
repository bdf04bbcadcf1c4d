import RoboOne.Menu.Prefixes

namespace RoboOne.Menu

open Interaction PrefixCode Transition

def commandFunction (i : CommandIndex) : CommandFunction :=
  (gCommandList.get i).function

-- The functions of commands that are called.
def executed (calls : MenuHistory) : List CommandFunction :=
  calls.filterMap fun
    | ⟨.pDisplay function, _⟩ => some function
    | ⟨.pCommand function, _⟩ => some function
    | _                       => none

-- The characters entered so far.
def Statics.typed (s : Statics) : List UInt8 :=
  s.entry.toList.take s.numEntries

-- What one more character makes of those entered so far, and the command that it executes.
def enterCharacter (typed : List UInt8) (c : UInt8) : List UInt8 × Option CommandIndex :=
  match matching (typed ++ [c]) with
  | []          => (typed, none)
  | [i]         => ([], some i)
  | _ :: _ :: _ => (typed ++ [c], none)

-- What a key does. Only every second character goes when they are cancelled.
def enter (typed : List UInt8) (key : UInt8) : List UInt8 × Option CommandIndex :=
  if key = keyCommandCancel then
    (List.replicate (typed.length / 2) 0, none)
  else if key = backspaceKey then
    (typed.dropLast, none)
  else
    enterCharacter typed (toUpper key)

variable {s : Statics} {calls calls' : MenuHistory} {key c : UInt8} {i n : Nat}

@[simp]
theorem executed_append : executed (calls ++ calls') = executed calls ++ executed calls' :=
  List.filterMap_append

theorem setEntry_traces {Q : MenuHistory → Unit → Statics → Prop} (hi : i < maxNumCharsInCommand)
    (h : Q [] () { s with entry := s.entry.setIfInBounds i c }) : Traces s (setEntry i c) Q :=
  .bind <| .assert (decide_eq_true hi) <| .bind <| .load <| .store h

theorem setNumEntries_traces {Q : MenuHistory → Unit → Statics → Prop}
    (h : Q [] () { s with numEntries := n }) : Traces s (setNumEntries n) Q :=
  .bind <| .load <| .store h

theorem actOnBackspace_traces (hi : i < maxNumCharsInCommand) :
    Traces s (actOnBackspace i) fun calls _ s' => executed calls = [] ∧
      s' = ⟨s.numEntries - 1, s.entry.setIfInBounds i 0⟩ :=
  .bind <| setEntry_traces hi <| .bind <| .load <| .bind <| setNumEntries_traces <| .call fun _ =>
    ⟨rfl, rfl⟩

-- Another character behind the first ones.
theorem take_setIfInBounds {v : Vector UInt8 maxNumCharsInCommand} (hn : n < maxNumCharsInCommand) :
    (v.setIfInBounds n c).toList.take (n + 1) = v.toList.take n ++ [c] := by
  have hlt : n < v.toList.length := Nat.lt_of_lt_of_eq hn v.length_toList.symm
  rw [Vector.toList_setIfInBounds, List.take_add_one, List.take_set_of_le (Nat.le_refl n),
    List.getElem?_set_self hlt]
  rfl

-- The loop is over.
theorem typed_of_cancelled (hle : s.numEntries ≤ i) (hi : i ≤ s.numEntries + 1)
    (hz : s.entry.toList.take i = List.replicate i 0) :
    s.numEntries = (s.numEntries + i) / 2 ∧ s.typed = List.replicate ((s.numEntries + i) / 2) 0 := by
  have hhalf : s.numEntries = (s.numEntries + i) / 2 := by omega
  refine ⟨hhalf, ?_⟩
  rw [Statics.typed, ← hhalf, ← Nat.min_eq_left hle, ← List.take_take, hz, List.take_replicate]

-- The loop stops halfway, for it takes the bound down as it goes up.
theorem cancelLoop_traces {x : Nat} (hx : s.numEntries ≤ i + x) (hi : i ≤ s.numEntries + 1)
    (hn : s.numEntries < maxNumCharsInCommand) (hz : s.entry.toList.take i = List.replicate i 0) :
    Traces s (cancelLoop x i) fun calls _ s' => executed calls = [] ∧
      s'.numEntries = (s.numEntries + i) / 2 ∧
      s'.typed = List.replicate ((s.numEntries + i) / 2) 0 := by
  induction x generalizing s i
  case zero        => exact .pure ⟨rfl, typed_of_cancelled hx hi hz⟩
  case succ x hind =>
    refine .bind <| .load <| .ite (fun hlt => ?_) fun hge =>
      .pure ⟨rfl, typed_of_cancelled (Nat.le_of_not_lt hge) hi hz⟩
    have hlt' := Nat.lt_trans hlt hn
    refine .bind <| (actOnBackspace_traces hlt').mono fun calls _ s' ⟨hc, hs⟩ => ?_
    subst hs
    have hsum : s.numEntries - 1 + (i + 1) = s.numEntries + i := by omega
    have hz' : (s.entry.setIfInBounds i 0).toList.take (i + 1) = List.replicate (i + 1) 0 := by
      rw [take_setIfInBounds hlt', hz, List.replicate_succ']
    have hx' : s.numEntries - 1 ≤ i + 1 + x := by omega
    have hi' : i + 1 ≤ s.numEntries - 1 + 1 := by omega
    have hn' : s.numEntries - 1 < maxNumCharsInCommand := Nat.lt_of_le_of_lt (Nat.sub_le _ _) hn
    refine (hind (s := ⟨s.numEntries - 1, s.entry.setIfInBounds i 0⟩) hx' hi' hn' hz').mono ?_
    intro calls' _ s' ⟨hc', hs'⟩
    rw [hsum] at hs'
    exact ⟨by simp [hc, hc'], hs'⟩

theorem callFunction_traces {j : CommandIndex} : Traces s (callFunction j) fun calls _ s' =>
    executed calls = [commandFunction j] ∧ s' = s := by
  refine .bind <| .call fun _ => .ite (fun _ => ?_) fun _ => ?_
  case refine_1 => exact .bind <| .call fun _ => .pure ⟨rfl, rfl⟩
  case refine_2 =>
    refine .bind <| .call fun success => .ite (fun _ => ?_) fun _ => .pure ⟨rfl, rfl⟩
    exact .ite (fun _ => .bind <| .call fun _ => .pure ⟨rfl, rfl⟩) fun _ => .pure ⟨rfl, rfl⟩

theorem length_typed (hn : s.numEntries < maxNumCharsInCommand) : s.typed.length = s.numEntries := by
  rw [Statics.typed, List.length_take, Vector.length_toList]
  exact Nat.min_eq_left (Nat.le_of_lt hn)

-- One more character.
theorem typed_setIfInBounds (hn : s.numEntries < maxNumCharsInCommand) :
    Statics.typed ⟨s.numEntries + 1, s.entry.setIfInBounds s.numEntries c⟩ = s.typed ++ [c] :=
  take_setIfInBounds hn

-- What is behind the characters does not matter.
theorem typed_setIfInBounds_of_le (h : n ≤ s.numEntries) :
    Statics.typed ⟨n, s.entry.setIfInBounds s.numEntries c⟩ = s.typed.take n := by
  simp only [Statics.typed]
  rw [Vector.toList_setIfInBounds, List.take_set_of_le h, List.take_take, Nat.min_eq_left h]

-- The search that follows a character, and what comes of it.
theorem handleEntry_traces {typed : List UInt8} (ht : s.typed = typed ++ [c])
    (hl : s.numEntries = typed.length + 1) (hn : typed.length < maxNumCharsInCommand) :
    Traces s handleEntry fun calls _ s' => s'.numEntries < maxNumCharsInCommand ∧
      s'.typed = (enterCharacter typed c).1 ∧
      executed calls = ((enterCharacter typed c).2.map commandFunction).toList := by
  have hne : s.typed ≠ [] := ht ▸ List.concat_ne_nil _ _
  have ⟨hfound, hlast⟩ := findCommands_start hne
  rw [enterCharacter, ← ht]
  refine .bind <| .load ?_
  match hm : matching s.typed with
  | [] =>
    refine .ite (fun _ => ?_) fun hsome => absurd (hfound.trans (congrArg List.length hm)) hsome
    refine .bind <| setNumEntries_traces <| .pure ⟨?_, ?_, rfl⟩
    case refine_1 => rwa [hl]
    case refine_2 =>
      have htake := congrArg (List.take typed.length) ht
      rw [Statics.typed, List.take_take, hl, Nat.min_eq_left (Nat.le_succ _),
        List.take_left] at htake
      rw [hl]
      exact htake
  | [i] =>
    have hone := hfound.trans (congrArg List.length hm)
    have hlast := hlast i hm
    rw [Statics.typed] at hlast
    refine .ite (fun hzero => nomatch hone.symm.trans hzero) fun _ => .bind <| .call fun _ => ?_
    refine .ite (fun _ => ?_) fun hne => absurd hone hne
    rw [hlast]
    refine .bind <| callFunction_traces.mono fun calls _ _ ⟨hc, _⟩ => ?_
    refine .bind <| setNumEntries_traces <| .pure ⟨Nat.succ_pos _, rfl, ?_⟩
    change executed (calls ++ []) = _
    rwa [List.append_nil]
  | i :: j :: l =>
    have hmany := hfound.trans (congrArg List.length hm)
    refine .ite (fun hzero => nomatch hmany.symm.trans hzero) fun _ => .bind <| .call fun _ => ?_
    refine .ite (fun hone => nomatch hmany.symm.trans hone) fun _ => .pure ⟨?_, rfl, rfl⟩
    have hlt := length_lt_of_spells (ne_of_matching hm)
      (spells_of_mem_matching (hm ▸ List.mem_cons_self))
      (spells_of_mem_matching (hm ▸ List.mem_cons_of_mem _ List.mem_cons_self))
    rw [ht, List.length_append, List.length_singleton, ← hl] at hlt
    exact Nat.lt_succ_of_lt hlt

theorem handle_traces (key : UInt8) (hn : s.numEntries < maxNumCharsInCommand) :
    Traces s (handleUserCmdMenu key) fun calls _ s' => s'.numEntries < maxNumCharsInCommand ∧
      s'.typed = (enter s.typed key).1 ∧
      executed calls = ((enter s.typed key).2.map commandFunction).toList := by
  have hlength := length_typed hn
  refine .bind <| .load <| .ite (fun hk => ?_) fun hk => .ite (fun hb => ?_) fun hb => ?_
  case refine_1 =>
    refine .bind <| (cancelLoop_traces (by omega) (by omega) hn rfl).mono ?_
    intro calls _ s' ⟨hc, hs, ht⟩
    rw [enter, if_pos hk, hlength]
    refine .pure ⟨?_, ht, by simpa using hc⟩
    omega
  case refine_2 =>
    rw [enter, if_neg hk, if_pos hb, List.dropLast_eq_take, hlength]
    refine .ite (fun _ => ?_) fun hzero => ?_
    case refine_1 =>
      refine .bind <| (actOnBackspace_traces hn).mono fun calls _ s' ⟨hc, hs⟩ => ?_
      subst hs
      refine .pure ⟨?_, ?_, ?_⟩
      case refine_1 => exact Nat.lt_of_le_of_lt (Nat.sub_le _ _) hn
      case refine_2 => exact typed_setIfInBounds_of_le (Nat.sub_le _ _)
      case refine_3 => simpa using hc
    case refine_2 =>
      have hzero : s.numEntries = 0 := Nat.eq_zero_of_not_pos hzero
      refine .pure ⟨hn, ?_, rfl⟩
      rw [hzero, Nat.zero_sub, List.take_zero]
      exact List.eq_nil_of_length_eq_zero (hlength.trans hzero)
  case refine_3 =>
    rw [enter, if_neg hk, if_neg hb]
    refine .bind <| setEntry_traces hn <| .bind <| setNumEntries_traces ?_
    refine handleEntry_traces (typed_setIfInBounds hn) ?_ ?_
    case refine_1 => rw [hlength]
    case refine_2 => rwa [hlength]

-- One press of a key after the other.
def press (env : Environment MenuCall.Answer) (w : MenuWorld) (key : UInt8) : Option MenuWorld :=
  exec (handleUserCmdMenu key) env w

-- The characters entered so far are the start of two commands at least, and they are none of them.
structure Entered (s : Statics) : Prop where
  numEntries : s.numEntries < maxNumCharsInCommand
  shared     : ∃ i j, i ≠ j ∧ s.typed <+: commandString i ∧ s.typed <+: commandString j
  proper     : ∀ i, commandString i ≠ s.typed

-- What the keys execute.
def Executes (s : Statics) (keys : List UInt8) (functions : List CommandFunction) : Prop :=
  ∀ env h, ∃ calls s', run (press env) ⟨s, h⟩ keys = some ⟨s', h ++ calls⟩ ∧
    executed calls = functions

-- The buffer is empty, and no key makes a difference between it and the one at the start.
structure Cancelled (s : Statics) : Prop where
  numEntries : s.numEntries = 0
  fresh      : ∀ keys, ∃ functions, Executes s keys functions ∧ Executes .fresh keys functions

-- What is true of the variables behind each key.
structure Handled (s' : Statics) (key : UInt8) : Prop where
  entered   : Entered s'
  cancelled : key = keyCommandCancel → Cancelled s'

-- The commands that the keys execute.
def commands : List UInt8 → List UInt8 → List CommandIndex
  | _,     []          => []
  | typed, key :: keys => (enter typed key).2.toList ++ commands (enter typed key).1 keys

theorem executes_commands (hn : s.numEntries < maxNumCharsInCommand) {keys : List UInt8} :
    Executes s keys ((commands s.typed keys).map commandFunction) := by
  intro env h
  induction keys generalizing s h
  case nil => exact ⟨[], s, by simp, rfl⟩
  case cons key keys hi =>
    have ⟨calls, _, s', hp, _, hn', ht, hc⟩ := handle_traces key hn env h
    have ⟨calls', s'', hr, hc'⟩ := hi hn' (h ++ calls)
    refine ⟨calls ++ calls', s'', ?_, ?_⟩
    case refine_1 =>
      refine run_cons_iff.mpr ⟨_, congrArg (Option.map Prod.snd) hp, ?_⟩
      rw [hr, List.append_assoc]
    case refine_2 =>
      rw [executed_append, hc, hc', commands, List.map_append, ht, Option.toList_map]

theorem typed_eq_nil (h : s.numEntries = 0) : s.typed = [] := by
  rw [Statics.typed, h, List.take_zero]

-- What has been entered is all that matters for what is executed.
theorem cancelled_of_numEntries (h : s.numEntries = 0) : Cancelled s where
  numEntries := h
  fresh keys := by
    have hn : s.numEntries < maxNumCharsInCommand := h ▸ Nat.succ_pos _
    have hfresh : Statics.fresh.numEntries < maxNumCharsInCommand := Nat.succ_pos _
    refine ⟨_, executes_commands hn, ?_⟩
    rw [typed_eq_nil h]
    exact executes_commands hfresh

-- The invariant: nothing else has been entered than the start of some commands.
structure IsPrefix (s : Statics) : Prop where
  numEntries : s.numEntries < maxNumCharsInCommand
  ambiguous  : Ambiguous commandString s.typed

theorem ambiguous_nil : Ambiguous commandString [] :=
  ⟨0, 1, by decide, List.nil_prefix, List.nil_prefix⟩

theorem IsPrefix.entered (hs : IsPrefix s) : Entered s where
  numEntries := hs.numEntries
  shared     := hs.ambiguous
  proper _   := hs.ambiguous.ne commandString_prefixFree

-- A key keeps it, unless it cancels more than one character.
theorem ambiguous_enter {typed : List UInt8} (ha : Ambiguous commandString typed)
    (hc : key = keyCommandCancel → typed.length ≤ 1) :
    Ambiguous commandString (enter typed key).1 := by
  rw [enter]
  split
  case isTrue hk =>
    have hzero : typed.length / 2 = 0 := Nat.div_eq_of_lt (Nat.lt_succ_of_le (hc hk))
    rw [hzero]
    exact ambiguous_nil
  case isFalse =>
    split
    case isTrue  => exact ha.initial (List.dropLast_prefix _)
    case isFalse =>
      have hstart {i : CommandIndex} (hi : i ∈ matching (typed ++ [toUpper key])) :
          typed ++ [toUpper key] <+: commandString i :=
        (ha.spells_concat_iff commandString_prefixFree zero_notMem_commandString).mp <|
          spells_of_mem_matching hi
      rw [enterCharacter]
      match hm : matching (typed ++ [toUpper key]) with
      | []          => exact ha
      | [i]         => exact ambiguous_nil
      | i :: j :: l =>
        rw [hm] at hstart
        exact ⟨i, j, ne_of_matching hm, hstart List.mem_cons_self,
          hstart (List.mem_cons_of_mem _ List.mem_cons_self)⟩

-- Nothing fails.
theorem press_spec (env : Environment MenuCall.Answer) (key : UInt8) {w : MenuWorld}
    (hn : w.memory.numEntries < maxNumCharsInCommand) :
    ∃ w', press env w key = some w' ∧ w'.memory.numEntries < maxNumCharsInCommand ∧
      w'.memory.typed = (enter w.memory.typed key).1 := by
  have ⟨_, _, _, hp, _, hn', ht, _⟩ := handle_traces key hn env w.history
  exact ⟨_, congrArg (Option.map Prod.snd) hp, hn', ht⟩

theorem IsPrefix.press {env : Environment MenuCall.Answer} {w w' : MenuWorld}
    (hs : IsPrefix w.memory) (hc : key = keyCommandCancel → w.memory.numEntries ≤ 1)
    (hp : press env w key = some w') : IsPrefix w'.memory := by
  have ⟨_, hp', hn, ht⟩ := press_spec env key hs.numEntries
  obtain rfl := Option.some.inj <| hp.symm.trans hp'
  refine ⟨hn, ht ▸ ambiguous_enter hs.ambiguous ?_⟩
  rwa [length_typed hs.numEntries]

-- Behind the key for cancelling, half of the characters are left.
theorem press_cancel {env : Environment MenuCall.Answer} {w w' : MenuWorld}
    (hn : w.memory.numEntries < maxNumCharsInCommand)
    (hp : press env w keyCommandCancel = some w') :
    w'.memory.numEntries = w.memory.numEntries / 2 := by
  have ⟨_, hp', hn', ht⟩ := press_spec env keyCommandCancel hn
  obtain rfl := Option.some.inj <| hp.symm.trans hp'
  rw [← length_typed hn', ht, enter, if_pos rfl, List.length_replicate, length_typed hn]

theorem handled_iff {env : Environment MenuCall.Answer} {w w' : MenuWorld}
    (hs : IsPrefix w.memory) (hp : press env w key = some w') :
    Handled w'.memory key ↔ (key = keyCommandCancel → w.memory.numEntries ≤ 1) := by
  constructor
  case mp =>
    intro hh hk
    subst hk
    have hzero := (hh.cancelled rfl).numEntries
    rw [press_cancel hs.numEntries hp] at hzero
    omega
  case mpr =>
    intro hc
    refine ⟨(hs.press hc hp).entered, fun hk => ?_⟩
    subst hk
    have hhalf := press_cancel hs.numEntries hp
    rw [Nat.div_eq_of_lt (Nat.lt_succ_of_le (hc rfl))] at hhalf
    exact cancelled_of_numEntries hhalf

-- No key makes the menu fail. What is entered is the start of some commands, and nothing is left of it
-- when it is cancelled, if and only if no more than one character has been entered by then.
theorem command_entry_iff (env : Environment MenuCall.Answer) (h : MenuHistory)
    (keys : List UInt8) :
    (∃ w, run (press env) ⟨.fresh, h⟩ keys = some w) ∧
    (Along (press env) (fun w key => ∀ w' ∈ press env w key, Handled w'.memory key)
      ⟨.fresh, h⟩ keys ↔
    Along (press env) (fun w key => key = keyCommandCancel → w.memory.numEntries ≤ 1)
      ⟨.fresh, h⟩ keys) := by
  have hprefix : IsPrefix Statics.fresh := ⟨Nat.succ_pos _, ambiguous_nil⟩
  have htotal (w : MenuWorld) (key : UInt8) (hn : w.memory.numEntries < maxNumCharsInCommand) :
      ∃ w', press env w key = some w' ∧ w'.memory.numEntries < maxNumCharsInCommand := by
    have ⟨w', hp, hn', _⟩ := press_spec env key hn
    exact ⟨w', hp, hn'⟩
  have ⟨w, hr⟩ := Option.isSome_iff_exists.mp <|
    run_total (s := ⟨.fresh, h⟩) htotal hprefix.numEntries keys
  refine ⟨⟨w, hr⟩, ?_⟩
  refine Preserves.along_iff (I := fun w => IsPrefix w.memory) ⟨fun hs hc hp => hs.press hc hp⟩
    hprefix hr fun w key w' hs hp => ?_
  simp only [hp, Option.mem_def, Option.some.injEq, forall_eq']
  exact handled_iff hs hp

-- Every function succeeds.
def success : Environment MenuCall.Answer
  | _, .eraseChar  => ()
  | _, .wprintw _  => ()
  | _, .pDisplay _ => true
  | _, .pCommand _ => true

-- The keys `P` and `B` are cancelled.
theorem cancel_leaves_character : ¬∀ (env : Environment MenuCall.Answer) h keys,
    Along (press env) (fun w key => ∀ w' ∈ press env w key, Handled w'.memory key)
      ⟨.fresh, h⟩ keys := by
  intro hall
  have hleft : (run (press success) ⟨.fresh, []⟩ ([0x50, 0x42] ++ [keyCommandCancel])).map
      (·.memory.numEntries) = some 1 := by
    decide +kernel
  have ⟨w', hr, hone⟩ := Option.map_eq_some_iff.mp hleft
  rw [run_append] at hr
  have ⟨w, hw, hp⟩ := Option.bind_eq_some_iff.mp hr
  rw [run_singleton] at hp
  have hh := (hall success [] ([0x50, 0x42] ++ [keyCommandCancel])).at hw w' hp
  exact absurd ((hh.cancelled rfl).numEntries.symm.trans hone) (by decide)

-- What is left keeps the menu from exiting.
example : (run (press success) ⟨.fresh, []⟩ [0x50, 0x42, keyCommandCancel, 0x58]).map
    (executed ·.history) = some [] := by
  decide +kernel

end RoboOne.Menu
