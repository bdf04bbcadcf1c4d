import Mathlib.Data.List.DropRight
import RoboOne.OneWire.Ds2438

namespace RoboOne.OneWire

open Interaction

def voltageMaxMv : UInt16 := 10200

def rawVoltage (buffer : Page) : UInt16 :=
  (buffer ds2438VoltageRegOffset).toUInt16 + (buffer (ds2438VoltageRegOffset + 1)).toUInt16 <<< 8

-- In mV. The product is put into 16 bits before it is compared.
def clampedVoltage (buffer : Page) : UInt16 :=
  let voltage := rawVoltage buffer * 10
  if voltage > voltageMaxMv then 0 else voltage

-- Block until the reading is complete.
def awaitReading : Nat → Ds2438Program Nat :=
  awaitReady owReadByte

-- The A/D read of a pass, which is skipped if the device cannot be accessed.
def convertAd (guardCounter1 : Nat) : Ds2438Program (Bool × Nat) := do
  if ← owAccess then
    if ← owWriteByte ds2438CommandReadAd then
      let guardCounter1 ← awaitReading guardCounter1
      return (guardCounter1 ≠ 0, guardCounter1)
    else
      return (false, guardCounter1)
  else
    return (true, guardCounter1)

-- The test for the reading we wanted and for the busy flag.
def acceptsAd (isVdd : Bool) (config : UInt8) : Bool :=
  config &&& ~~~ds2438AdbIsBusy ≠ 0 &&
    ((isVdd && config ||| ds2438AdIsVdd ≠ 0) || (!isVdd && config &&& ~~~ds2438AdIsVdd ≠ 0))

-- A pass of the loop: the success, the voltage if it is done, and what is left of `guardCounter1`.
def readAdPass (isVdd : Bool) (guardCounter1 : Nat) :
    Ds2438Program (Bool × Option UInt16 × Nat) := do
  match ← readSPPageDS2438 ds2438ConfigPage with
  | none        => return (false, none, guardCounter1)
  | some buffer =>
    let config := buffer ds2438ConfigRegOffset
    let config := if isVdd then config ||| ds2438AdIsVdd else config &&& ~~~ds2438AdIsVdd
    if ← writeSPPageDS2438 ds2438ConfigPage (.byte config) then
      let (success, guardCounter1) ← convertAd guardCounter1
      if success then
        match ← readNVPageDS2438 ds2438ConfigPage with
        | none        => return (false, none, guardCounter1)
        | some buffer =>
          if acceptsAd isVdd (buffer ds2438ConfigRegOffset) then
            return (true, some (clampedVoltage buffer), guardCounter1)
          else
            return (true, none, guardCounter1)
      else
        return (false, none, guardCounter1)
    else
      return (false, none, guardCounter1)

-- The loop, with what is left of `guardCounter` behind it.
def readAdLoop (isVdd : Bool) : Nat → Nat → Ds2438Program (Bool × Option UInt16 × Nat)
  | 0, _                           => return (true, none, 0)
  | guardCounter + 1, guardCounter1 => do
    let (success, voltage, guardCounter1) ← readAdPass isVdd guardCounter1
    if success && voltage.isNone then
      readAdLoop isVdd guardCounter guardCounter1
    else
      return (success, voltage, guardCounter)

-- The success, and what is put at `pVoltage`, which is not `PNULL`.
def readAdDS2438 (isVdd : Bool) : Ds2438Program (Bool × Option UInt16) := do
  let (success, voltage, guardCounter) ← readAdLoop isVdd guardCounter guardCounter
  return (success && guardCounter ≠ 0, voltage)

def readVddDS2438 : Ds2438Program (Bool × Option UInt16) :=
  readAdDS2438 true

def readVadDS2438 : Ds2438Program (Bool × Option UInt16) :=
  readAdDS2438 false

def selectAd (isVdd : Bool) (config : UInt8) : UInt8 :=
  if isVdd then config ||| ds2438AdIsVdd else config &&& ~~~ds2438AdIsVdd

-- A pass, up to what is made of the page.
def adPass (isVdd : Bool) (guardCounter1 : Nat) : Ds2438Program (Bool × Option Page × Nat) := do
  match ← readSPPageDS2438 ds2438ConfigPage with
  | none        => return (false, none, guardCounter1)
  | some buffer =>
    if ← writeSPPageDS2438 ds2438ConfigPage
        (.byte <| selectAd isVdd <| buffer ds2438ConfigRegOffset) then
      let (success, guardCounter1) ← convertAd guardCounter1
      if success then
        match ← readNVPageDS2438 ds2438ConfigPage with
        | none        => return (false, none, guardCounter1)
        | some buffer =>
          if acceptsAd isVdd (buffer ds2438ConfigRegOffset) then
            return (true, some buffer, guardCounter1)
          else
            return (true, none, guardCounter1)
      else
        return (false, none, guardCounter1)
    else
      return (false, none, guardCounter1)

def adLoop (isVdd : Bool) : Nat → Nat → Ds2438Program (Bool × Option Page × Nat)
  | 0, _                            => return (true, none, 0)
  | guardCounter + 1, guardCounter1 => do
    let (success, page, guardCounter1) ← adPass isVdd guardCounter1
    if success && page.isNone then
      adLoop isVdd guardCounter guardCounter1
    else
      return (success, page, guardCounter)

-- With this, a pass begins.
def startsPass (x : (c : Ds2438Call) × c.Answer) : Bool :=
  match x.1 with
  | .readSPPageDS2438 _ => true
  | _                   => false

def passes (h : Ds2438History) : Nat :=
  h.countP startsPass

-- The last pass, without its beginning.
def lastPass (h : Ds2438History) : Ds2438History :=
  h.rtakeWhile (!startsPass ·)

-- The page that has been read last.
def decoded (h : Ds2438History) : Option Page :=
  match h.getLast? with
  | some ⟨.readNVPageDS2438 _, read⟩ => read
  | _                                => none

-- The page is not only the last one, but is taken as the answer as well.
structure Taken (isVdd : Bool) (h : Ds2438History) (page : Page) : Prop where
  decoded : decoded h = some page
  accepts : acceptsAd isVdd (page ds2438ConfigRegOffset) = true
  guard   : passes h < guardCounter

-- What the page says about the conversion.
structure ConfiguredFor (isVdd : Bool) (page : Page) : Prop where
  idle  : page ds2438ConfigRegOffset &&& ds2438AdbIsBusy = 0
  input : page ds2438ConfigRegOffset &&& ds2438AdIsVdd ≠ 0 ↔ isVdd = true

-- The voltage is that of the conversion that has been asked for.
structure OwnConversion (isVdd : Bool) (h : Ds2438History) (voltage : Option UInt16) (page : Page) :
    Prop where
  decoded    : OneWire.decoded h = some page
  configured : ConfiguredFor isVdd page
  issued     : ⟨.owWriteByte ds2438CommandReadAd, true⟩ ∈ lastPass h
  voltage    : voltage.map UInt16.toNat =
    some (if (rawVoltage page).toNat * 10 ≤ voltageMaxMv.toNat then (rawVoltage page).toNat * 10
      else 0)

-- Nothing that is too large for the clamp comes out of 16 bits as something else.
def ProductFits (page : Page) : Prop :=
  (rawVoltage page).toNat * 10 ≤ voltageMaxMv.toNat ∨
    (rawVoltage page).toNat * 10 % 2 ^ 16 = 0 ∨
    voltageMaxMv.toNat < (rawVoltage page).toNat * 10 % 2 ^ 16

-- What is known of a pass, and of the page that makes an end of the loop.
structure AdPass (isVdd : Bool) (pass : Ds2438History) (success : Bool) (page : Option Page) :
    Prop where
  start   : ∃ x rest, pass = x :: rest ∧ startsPass x = true ∧ ∀ y ∈ rest, startsPass y = false
  taken   : ∀ p, page = some p ↔
    decoded pass = some p ∧ acceptsAd isVdd (p ds2438ConfigRegOffset) = true
  success : page ≠ none → success = true
  issued  : page ≠ none → (⟨.owAccess, true⟩ ∈ pass ↔
    ⟨.owWriteByte ds2438CommandReadAd, true⟩ ∈ pass)

-- The calls that are not made for a page.
def Direct (x : (c : Ds2438Call) × c.Answer) : Bool :=
  match x.1 with
  | .owAccess      => true
  | .owWriteByte _ => true
  | .owReadByte    => true
  | _              => false

variable {isVdd success : Bool} {calls calls' : Ds2438History} {page : Page} {g g₁ : Nat} {m : Unit}

-- How the result for a page becomes that of a function.
def onPage {α : Type} (f : Page → α) (r : Bool × Option Page × Nat) : Bool × Option α × Nat :=
  (r.1, r.2.1.map f, r.2.2)

-- A pass that makes something of the page is one that does so behind it.
theorem map_adPass {α : Type} {f : Page → α} : onPage f <$> adPass isVdd g₁ = (do
    match ← readSPPageDS2438 ds2438ConfigPage with
    | none        => return (false, none, g₁)
    | some buffer =>
      if ← writeSPPageDS2438 ds2438ConfigPage
          (.byte <| selectAd isVdd <| buffer ds2438ConfigRegOffset) then
        let (success, g) ← convertAd g₁
        if success then
          match ← readNVPageDS2438 ds2438ConfigPage with
          | none        => return (false, none, g)
          | some buffer =>
            if acceptsAd isVdd (buffer ds2438ConfigRegOffset) then
              return (true, some (f buffer), g)
            else
              return (true, none, g)
        else
          return (false, none, g)
      else
        return (false, none, g₁)) := by
  rw [adPass, map_bind]
  refine bind_congr fun read => ?_
  cases read
  case none => rfl
  case some buffer =>
    rw [map_bind]
    refine bind_congr fun success => ?_
    cases success
    case false => rfl
    case true =>
      simp only [if_true, map_bind]
      refine bind_congr fun ⟨success, g⟩ => ?_
      cases success
      case false => rfl
      case true =>
        simp only [if_true, map_bind]
        refine bind_congr fun read => ?_
        cases read
        case none => rfl
        case some page =>
          simp only
          split <;> rfl

theorem readAdPass_eq : readAdPass isVdd g₁ = onPage clampedVoltage <$> adPass isVdd g₁ :=
  map_adPass.symm

-- A loop whose passes are those of `adPass` is `adLoop`, but for what is made of the page.
theorem loop_eq {α : Type} {f : Page → α} {pass : Nat → Ds2438Program (Bool × Option α × Nat)}
    {loop : Nat → Nat → Ds2438Program (Bool × Option α × Nat)}
    (hpass : ∀ g₁, pass g₁ = onPage f <$> adPass isVdd g₁)
    (hzero : ∀ g₁, loop 0 g₁ = pure (true, none, 0))
    (hsucc : ∀ g g₁, loop (g + 1) g₁ = pass g₁ >>= fun r =>
      if r.1 && r.2.1.isNone then loop g r.2.2 else pure (r.1, r.2.1, g)) :
    loop g g₁ = onPage f <$> adLoop isVdd g g₁ := by
  induction g generalizing g₁
  case zero =>
    rw [hzero]
    rfl
  case succ g hi =>
    rw [hsucc, hpass, adLoop, bind_map_left, map_bind]
    refine bind_congr fun ⟨success, page, g'⟩ => ?_
    simp only [onPage, Option.isNone_map]
    split
    case isTrue  => exact hi
    case isFalse => rfl

theorem readAdDS2438_eq : readAdDS2438 isVdd =
    (fun r => (r.1 && r.2.2 ≠ 0, r.2.1.map clampedVoltage)) <$>
      adLoop isVdd guardCounter guardCounter := by
  have hloop : readAdLoop isVdd guardCounter guardCounter = _ :=
    loop_eq (fun _ => readAdPass_eq) (fun _ => rfl) fun _ _ => rfl
  rw [readAdDS2438, hloop, bind_map_left, map_eq_pure_bind]
  rfl

@[simp]
theorem direct_owAccess {accessed : Bool} : Direct ⟨.owAccess, accessed⟩ = true :=
  rfl

@[simp]
theorem direct_owWriteByte {sendbyte : UInt8} {issued : Bool} :
    Direct ⟨.owWriteByte sendbyte, issued⟩ = true :=
  rfl

theorem direct_of_owReadByte {x : (c : Ds2438Call) × c.Answer} (h : x.1 = .owReadByte) :
    Direct x = true := by
  rw [Direct, h]

theorem startsPass_of_direct {x} (h : Direct x = true) : startsPass x = false := by
  have ⟨c, a⟩ := x
  cases c <;> first | rfl | cases h

theorem decoded_append (h : calls' ≠ []) : decoded (calls ++ calls') = decoded calls' := by
  rw [decoded, decoded, List.getLast?_append_of_ne_nil _ h]

theorem decoded_of_direct (hn : calls ≠ []) (h : ∀ x ∈ calls, Direct x = true) :
    decoded calls = none := by
  have hd := h _ (List.getLast_mem hn)
  rw [decoded, List.getLast?_eq_getLast_of_ne_nil hn]
  generalize calls.getLast hn = x at hd
  have ⟨c, a⟩ := x
  cases c <;> first | rfl | cases hd

-- Nothing but reads of a byte is done.
theorem awaitReading_traces : Traces m (awaitReading g) fun calls _ _ =>
    ∀ x ∈ calls, x.1 = .owReadByte :=
  awaitReady_traces fun _ => .call fun _ => by simp

-- If the device can be accessed, then the command is issued.
theorem convertAd_traces : Traces m (convertAd g₁) fun calls r _ => calls ≠ [] ∧
    (∀ x ∈ calls, Direct x = true) ∧ (r.1 = true → (⟨.owAccess, true⟩ ∈ calls ↔
      ⟨.owWriteByte ds2438CommandReadAd, true⟩ ∈ calls)) := by
  refine .bind <| .call fun accessed => .ite (fun h => ?_) fun h => .pure ?_
  case refine_1 =>
    subst h
    refine .bind <| .call fun issued => .ite (fun h => ?_) fun h => .pure ?_
    case refine_1 =>
      subst h
      refine .bind <| awaitReading_traces.mono fun calls g _ hc => .pure ?_
      refine ⟨by simp, ?_, by simp⟩
      simp only [List.cons_append, List.nil_append, List.forall_mem_cons, List.append_nil]
      exact ⟨rfl, rfl, fun x hx => direct_of_owReadByte (hc x hx)⟩
    case refine_2 => exact ⟨by simp, by simp, nofun⟩
  case refine_2 => exact ⟨by simp, by simp, by simp [h]⟩

namespace AdPass

variable {x : (c : Ds2438Call) × c.Answer} {rest : Ds2438History}

theorem not_taken (hx : startsPass x = true) (hr : ∀ y ∈ rest, startsPass y = false)
    (hd : ∀ p, decoded (x :: rest) = some p → acceptsAd isVdd (p ds2438ConfigRegOffset) = false) :
    AdPass isVdd (x :: rest) success none where
  start   := ⟨x, rest, rfl, hx, hr⟩
  taken p := iff_of_false nofun fun h => Bool.false_ne_true <| (hd p h.left).symm.trans h.right
  success := nofun
  issued  := nofun

theorem of_taken (hx : startsPass x = true) (hr : ∀ y ∈ rest, startsPass y = false)
    (hd : decoded (x :: rest) = some page)
    (ha : acceptsAd isVdd (page ds2438ConfigRegOffset) = true)
    (hi : ⟨.owAccess, true⟩ ∈ x :: rest ↔ ⟨.owWriteByte ds2438CommandReadAd, true⟩ ∈ x :: rest) :
    AdPass isVdd (x :: rest) true (some page) where
  start     := ⟨x, rest, rfl, hx, hr⟩
  taken p   := by
    constructor
    case mp  => rintro ⟨⟩; exact ⟨hd, ha⟩
    case mpr => exact fun h => hd.symm.trans h.left
  success _ := rfl
  issued _  := hi

theorem ne_nil {pass : Ds2438History} {p : Option Page} (h : AdPass isVdd pass success p) :
    pass ≠ [] := by
  have ⟨_, _, he, _⟩ := h.start
  exact he ▸ List.cons_ne_nil _ _

theorem passes {pass : Ds2438History} {p : Option Page} (h : AdPass isVdd pass success p) :
    passes pass = 1 := by
  have ⟨x, rest, he, hx, hr⟩ := h.start
  have hrest : rest.countP startsPass = 0 :=
    List.countP_eq_zero.mpr fun y hy => Bool.not_eq_true _ |>.mpr (hr y hy)
  rw [he, OneWire.passes, List.countP_cons_of_pos hx, hrest]

end AdPass

-- The calls of a pass that comes to an A/D read.
def converting (buffer : Page) (pMem : PageData) (conversion rest : Ds2438History) :
    Ds2438History :=
  ⟨.readSPPageDS2438 ds2438ConfigPage, some buffer⟩ ::
    ⟨.writeSPPageDS2438 ds2438ConfigPage pMem, true⟩ :: (conversion ++ rest)

section

variable {buffer : Page} {pMem : PageData} {conversion rest : Ds2438History} {read : Option Page}

theorem not_startsPass_converting (hd : ∀ x ∈ conversion, Direct x = true)
    (hr : ∀ x ∈ rest, startsPass x = false) :
    ∀ x ∈ (⟨.writeSPPageDS2438 ds2438ConfigPage pMem, true⟩ :: (conversion ++ rest) :
      Ds2438History), startsPass x = false := by
  intro x hx
  rw [List.mem_cons, List.mem_append] at hx
  rcases hx with rfl | hx | hx
  case inl     => rfl
  case inr.inl => exact startsPass_of_direct (hd x hx)
  case inr.inr => exact hr x hx

theorem decoded_converting (hn : conversion ≠ []) (hd : ∀ x ∈ conversion, Direct x = true) :
    decoded (converting buffer pMem conversion []) = none := by
  have happend : converting buffer pMem conversion [] =
      [⟨.readSPPageDS2438 ds2438ConfigPage, some buffer⟩,
        ⟨.writeSPPageDS2438 ds2438ConfigPage pMem, true⟩] ++ conversion := by
    rw [converting, List.append_nil]
    rfl
  rw [happend, decoded_append hn, decoded_of_direct hn hd]

theorem decoded_converting_read : decoded (converting buffer pMem conversion
    [⟨.readNVPageDS2438 ds2438ConfigPage, read⟩]) = read := by
  rw [converting, ← List.cons_append, ← List.cons_append, decoded_append (List.cons_ne_nil _ _)]
  rfl

variable (hd : ∀ x ∈ conversion, Direct x = true)
include hd

theorem AdPass.not_converted (hn : conversion ≠ []) :
    AdPass isVdd (converting buffer pMem conversion []) success none :=
  .not_taken rfl (not_startsPass_converting hd nofun) fun p hp => by
    cases (decoded_converting hn hd).symm.trans hp

theorem AdPass.converted
    (hr : ∀ p, read = some p → acceptsAd isVdd (p ds2438ConfigRegOffset) = false) :
    AdPass isVdd (converting buffer pMem conversion [⟨.readNVPageDS2438 ds2438ConfigPage, read⟩])
      success none :=
  .not_taken rfl (not_startsPass_converting hd (by simp [startsPass])) fun p hp =>
    hr p <| decoded_converting_read.symm.trans hp

theorem AdPass.done (ha : acceptsAd isVdd (page ds2438ConfigRegOffset) = true)
    (hi : ⟨.owAccess, true⟩ ∈ conversion ↔
      ⟨.owWriteByte ds2438CommandReadAd, true⟩ ∈ conversion) :
    AdPass isVdd (converting buffer pMem conversion
      [⟨.readNVPageDS2438 ds2438ConfigPage, some page⟩]) true (some page) :=
  .of_taken rfl (not_startsPass_converting hd (by simp [startsPass])) decoded_converting_read ha <| by
    simpa using hi

end

theorem adPass_traces : Traces m (adPass isVdd g₁) fun calls r _ => AdPass isVdd calls r.1 r.2.1 := by
  refine .bind <| .call fun read => ?_
  cases read
  case none => exact .pure <| .not_taken rfl nofun nofun
  case some buffer =>
    refine .bind <| .call fun success => .ite (fun h => ?_) fun h =>
      .pure <| .not_taken rfl (by simp [startsPass]) nofun
    subst h
    refine .bind <| convertAd_traces.mono fun conversion ⟨success, g⟩ _ ⟨hn, hd, hi⟩ =>
      .ite (fun h => ?_) fun _ => .pure <| .not_converted hd hn
    refine .bind <| .call fun read => ?_
    cases read
    case none => exact .pure <| .converted hd nofun
    case some page =>
      refine .ite (fun ha => .pure <| .done hd ha (hi h)) fun ha => .pure <| .converted hd ?_
      rintro _ ⟨⟩
      exact Bool.not_eq_true _ |>.mp ha

-- The calls of the loop, with the page that makes an end of it and what is left of the guard counter.
inductive AdLoop (isVdd : Bool) : Nat → Ds2438History → Bool → Option Page → Nat → Prop
  | out : AdLoop isVdd 0 [] true none 0
  | again {g pass calls success page g'} : AdPass isVdd pass true none →
    AdLoop isVdd g calls success page g' → AdLoop isVdd (g + 1) (pass ++ calls) success page g'
  | last {g pass success page} : AdPass isVdd pass success page → (success = true → page ≠ none) →
    AdLoop isVdd (g + 1) pass success page g

theorem adLoop_traces : Traces m (adLoop isVdd g g₁) fun calls r _ =>
    AdLoop isVdd g calls r.1 r.2.1 r.2.2 := by
  induction g generalizing m g₁
  case zero => exact .pure .out
  case succ g hi =>
    refine .bind <| adPass_traces.mono fun pass ⟨success, page, g'⟩ m' hp =>
      .ite (fun h => ?_) fun h => .pure ?_
    case refine_1 =>
      rw [Bool.and_eq_true, Option.isNone_iff_eq_none] at h
      obtain ⟨rfl, rfl⟩ := h
      exact hi.mono fun calls _ _ hl => .again hp hl
    case refine_2 =>
      rw [List.append_nil]
      refine .last hp fun (hs : success = true) (hn : page = none) => h ?_
      rw [hs, hn]
      rfl

namespace AdLoop

variable {p : Option Page} {g' : Nat}

theorem ends (h : AdLoop isVdd g calls success p g') :
    (calls = [] ∧ success = true ∧ p = none) ∨
      ∃ before pass, calls = before ++ pass ∧ AdPass isVdd pass success p := by
  induction h
  case out => exact .inl ⟨rfl, rfl, rfl⟩
  case last hp _ => exact .inr ⟨[], _, rfl, hp⟩
  case again pass _ _ _ _ hp _ hi =>
    rcases hi with ⟨rfl, rfl, rfl⟩ | ⟨before, last, rfl, hlast⟩
    case inl => exact .inr ⟨[], pass, List.append_nil _, hp⟩
    case inr => exact .inr ⟨pass ++ before, last, (List.append_assoc ..).symm, hlast⟩

theorem passes_add (h : AdLoop isVdd g calls success p g') : passes calls + g' = g := by
  induction h
  case out => rfl
  case last hp _ => rw [hp.passes, Nat.add_comm]
  case again hp _ hi =>
    rw [passes, List.countP_append]
    rw [passes] at hi
    have hone := hp.passes
    rw [passes] at hone
    omega

-- Without a page, a success is one that comes from the guard.
theorem page_ne_none (h : AdLoop isVdd g calls success p g') (hs : success = true) (hg : g' ≠ 0) :
    p ≠ none := by
  induction h
  case out => exact absurd rfl hg
  case last _ hp => exact hp hs
  case again hi => exact hi hs hg

theorem taken_iff (h : AdLoop isVdd guardCounter calls success p g') {page : Page} :
    Taken isVdd calls page ↔ (success && g' ≠ 0) = true ∧ p = some page := by
  have hpasses := h.passes_add
  rw [Bool.and_eq_true, decide_eq_true_eq]
  constructor
  case mp =>
    intro ht
    have hguard := ht.guard
    rcases h.ends with ⟨rfl, _, _⟩ | ⟨before, pass, rfl, hp⟩
    case inl => cases ht.decoded
    case inr =>
      have hd := ht.decoded
      rw [decoded_append hp.ne_nil] at hd
      obtain rfl := (hp.taken page).mpr ⟨hd, ht.accepts⟩
      exact ⟨⟨hp.success nofun, by omega⟩, rfl⟩
  case mpr =>
    rintro ⟨⟨hs, hg⟩, rfl⟩
    rcases h.ends with ⟨_, _, hn⟩ | ⟨before, pass, rfl, hp⟩
    case inl => cases hn
    case inr =>
      have ⟨hd, ha⟩ := (hp.taken page).mp rfl
      exact ⟨by rw [decoded_append hp.ne_nil, hd], ha, by omega⟩

theorem exists_taken (h : AdLoop isVdd guardCounter calls success p g')
    (hs : (success && g' ≠ 0) = true) : ∃ page, p = some page ∧ Taken isVdd calls page := by
  have hg := Bool.and_eq_true_iff.mp hs
  have ⟨page, hp⟩ := Option.ne_none_iff_exists'.mp <|
    h.page_ne_none hg.left <| by simpa using hg.right
  exact ⟨page, hp, h.taken_iff.mpr ⟨hs, hp⟩⟩

theorem mem_lastPass (h : AdLoop isVdd g calls success p g') (hp : p ≠ none) :
    ∃ pass, AdPass isVdd pass success p ∧
      ∀ x, startsPass x = false → (x ∈ pass ↔ x ∈ lastPass calls) := by
  rcases h.ends with ⟨_, _, hn⟩ | ⟨before, pass, rfl, hpass⟩
  case inl => exact absurd hn hp
  case inr =>
    have ⟨y, rest, he, hy, hr⟩ := hpass.start
    have hlast : lastPass (before ++ pass) = rest := by
      have hrest : ∀ x ∈ rest.reverse, (!startsPass x) = true := fun x hx => by
        rw [hr x (List.mem_reverse.mp hx)]
        rfl
      rw [he, lastPass, List.rtakeWhile, List.reverse_append, List.reverse_cons, List.append_assoc,
        List.takeWhile_append_of_pos hrest, List.singleton_append,
        List.takeWhile_cons_of_neg (by simp [hy]), List.append_nil, List.reverse_reverse]
    refine ⟨pass, hpass, fun x hx => ?_⟩
    rw [hlast, he, List.mem_cons, or_iff_right]
    rintro rfl
    exact Bool.false_ne_true (hx.symm.trans hy)

end AdLoop

theorem clampedVoltage_toNat : (clampedVoltage page).toNat =
    if (rawVoltage page).toNat * 10 % 2 ^ 16 > voltageMaxMv.toNat then 0
    else (rawVoltage page).toNat * 10 % 2 ^ 16 := by
  simp only [clampedVoltage, GT.gt, UInt16.lt_iff_toNat_lt, apply_ite UInt16.toNat,
    UInt16.toNat_mul, UInt16.reduceToNat]

-- What is put into 16 bits is what is to be clamped, or else it is clamped as well.
theorem clampedVoltage_iff : (clampedVoltage page).toNat =
    (if (rawVoltage page).toNat * 10 ≤ voltageMaxMv.toNat then (rawVoltage page).toNat * 10 else 0) ↔
      ProductFits page := by
  have hmax : voltageMaxMv.toNat = 10200 := rfl
  rw [clampedVoltage_toNat, ProductFits, hmax]
  by_cases h : (rawVoltage page).toNat * 10 ≤ 10200
  case pos =>
    rw [if_pos h, Nat.mod_eq_of_lt (by omega), if_neg (Nat.not_lt.mpr h)]
    exact iff_of_true rfl (.inl h)
  case neg =>
    rw [if_neg h, or_iff_right h]
    split
    case isTrue hgt  => exact iff_of_true rfl (.inr hgt)
    case isFalse hle => exact (or_iff_left hle).symm

-- What the page that is taken has to be like, and its pass.
structure TakenRightly (isVdd : Bool) (h : Ds2438History) (page : Page) : Prop where
  configured : ConfiguredFor isVdd page
  accessed   : ⟨.owAccess, true⟩ ∈ lastPass h
  fits       : ProductFits page

theorem AdLoop.accessed_iff {p : Option Page} {g' : Nat} (h : AdLoop isVdd g calls success p g')
    (hp : p ≠ none) : ⟨.owAccess, true⟩ ∈ lastPass calls ↔
      ⟨.owWriteByte ds2438CommandReadAd, true⟩ ∈ lastPass calls := by
  have ⟨pass, hpass, hmem⟩ := h.mem_lastPass hp
  rw [← hmem _ rfl, ← hmem _ rfl]
  exact hpass.issued hp

theorem readAdDS2438_traces : Traces m (readAdDS2438 isVdd) fun calls r _ =>
    ∃ success page g', AdLoop isVdd guardCounter calls success page g' ∧
      r = (success && g' ≠ 0, page.map clampedVoltage) := by
  rw [readAdDS2438_eq, map_eq_pure_bind]
  refine .bind <| adLoop_traces.mono fun calls ⟨success, page, g'⟩ _ hl => .pure ?_
  rw [List.append_nil]
  exact ⟨success, page, g', hl, rfl⟩

-- Only the conversion that has been asked for is taken if and only if the device never offers another
-- one that passes the tests.
theorem own_conversion_iff (env : Ds2438Environment) (w : Ds2438World) (isVdd : Bool) :
    ∃ success voltage w' calls, readAdDS2438 isVdd env w = some ((success, voltage), w') ∧
      w'.history = w.history ++ calls ∧
      ((success = true → ∃ page, OwnConversion isVdd calls voltage page) ↔
        ∀ page, Taken isVdd calls page → TakenRightly isVdd calls page) := by
  have ⟨calls, _, m', hr, _, s, p, g', hl, he⟩ := @readAdDS2438_traces isVdd () env w.history
  subst he
  refine ⟨s && g' ≠ 0, p.map clampedVoltage, _, calls, hr, rfl, fun h page ht => ?_, fun h hs => ?_⟩
  case refine_1 =>
    have ⟨hs, hp⟩ := hl.taken_iff.mp ht
    have ⟨page', ho⟩ := h hs
    obtain rfl : page = page' := Option.some.inj <| ht.decoded.symm.trans ho.decoded
    subst hp
    refine ⟨ho.configured, (hl.accessed_iff nofun).mpr ho.issued, clampedVoltage_iff.mp ?_⟩
    exact Option.some.inj ho.voltage
  case refine_2 =>
    have ⟨page, hp, ht⟩ := hl.exists_taken hs
    subst hp
    have ⟨hc, ha, hf⟩ := h page ht
    exact ⟨page, ht.decoded, hc, (hl.accessed_iff nofun).mp ha,
      congrArg some <| clampedVoltage_iff.mpr hf⟩

-- A device that is busy with a conversion of the other input.
def busyChip : Chip where
  scratchpad _ _ := ds2438AdbIsBusy ||| ds2438IadIsEnabled
  memory _ _     := ds2438AdbIsBusy ||| ds2438IadIsEnabled

theorem readAdDS2438_busyChip :
    (readAdDS2438 true (behaviour Chip.respond busyChip) ⟨(), []⟩).map (fun r =>
      (r.1.1, (decoded r.2.history).map (· ds2438ConfigRegOffset))) =
        some (true, some (ds2438AdbIsBusy ||| ds2438IadIsEnabled)) :=
  rfl

theorem not_own_conversion : ¬∀ (env : Ds2438Environment) (w : Ds2438World) (isVdd : Bool),
    ∃ success voltage w' calls, readAdDS2438 isVdd env w = some ((success, voltage), w') ∧
      w'.history = w.history ++ calls ∧
      (success = true → ∃ page, OwnConversion isVdd calls voltage page) := by
  intro h
  have ⟨success, voltage, w', calls, hr, hh, ho⟩ :=
    h (behaviour Chip.respond busyChip) ⟨(), []⟩ true
  have hrun := readAdDS2438_busyChip
  rw [hr, Option.map_some, Option.some.injEq, Prod.mk.injEq, hh] at hrun
  have ⟨page, hp⟩ := ho hrun.left
  have hconfig := hrun.right
  rw [List.nil_append, hp.decoded, Option.map_some, Option.some.injEq] at hconfig
  have hidle := hp.configured.idle
  rw [hconfig] at hidle
  exact absurd hidle (by decide)

end RoboOne.OneWire
