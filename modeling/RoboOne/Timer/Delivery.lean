import RoboOne.Timer.Integrity

namespace RoboOne.Timer

open Transition Messaging

-- A tick that got the lock, at a time at which a timer with the given expiry time has expired.
def Record.Due (expiry : Nat) (r : Record) : Prop :=
  r.op = .tickHandlerCallback true ∧ expiry ≤ r.now.toNat

-- A stop, or the end of all timers, that freed the timer which operation `k` started.
def Record.Cancels (k : Nat) (r : Record) : Prop :=
  (∀ trylock, r.op ≠ .tickHandlerCallback trylock) ∧ k ∈ r.freed

def Record.Ends (k expiry : Nat) (r : Record) : Prop :=
  r.Due expiry ∨ r.Cancels k

-- Operation `j` is the first one to end the timer which operation `k` started, and it is a tick.
def Delivers (history : List Record) (k expiry j : Nat) (r : Record) : Prop :=
  k < j ∧ r.Due expiry ∧ ∀ i r', k < i → i < j → history[i]? = some r' → ¬r'.Ends k expiry

-- Operation `k` started the timer.
def Started (history : List Record) (k : Nat) (timer : Timer) : Prop :=
  ∃ r period port id msg beyond, history[k]? = some r ∧
    r.op = .allocTimer period port id msg beyond ∧
    timer = ⟨r.now + period, id, port, msg.toMsg beyond⟩

-- `x` was sent for a timer that expires before the one of `x'`, or that has been started before it and
-- expires at the same time.
def Sent.Sooner (x x' : Sent) : Prop :=
  x.expiryTimeDeciSeconds < x'.expiryTimeDeciSeconds ∨
    x.expiryTimeDeciSeconds = x'.expiryTimeDeciSeconds ∧ x.serial < x'.serial

variable {t : Timetable} {op : Op} {r : Running} {history : List Record} {k j : Nat}
  {timer timer' : Timer}

theorem Started.unique (h : Started history k timer) (h' : Started history k timer') :
    timer = timer' := by
  obtain ⟨r, _, _, _, _, _, hr, hop, rfl⟩ := h
  obtain ⟨r', _, _, _, _, _, hr', hop', rfl⟩ := h'
  cases hr.symm.trans hr'
  cases hop.symm.trans hop'
  rfl

theorem Started.lt (h : Started history k timer) : k < history.length := by
  obtain ⟨r, _, _, _, _, _, hr, _⟩ := h
  exact (List.getElem?_eq_some_iff.mp hr).fst

theorem started_append_of_lt {r : Record} (hk : k < history.length) :
    Started (history ++ [r]) k timer ↔ Started history k timer := by
  simp only [Started, List.getElem?_append_left hk]

namespace Timetable

theorem mem_expired : r ∈ t.expired op ↔ r ∈ t.running ∧
    (t.record op).Due r.timer.expiryTimeDeciSeconds.toNat := by
  simp only [Record.Due, record]
  cases op
  case tickHandlerCallback trylock =>
    cases trylock
    case false => simp [expired]
    case true  => simp [expired, nowAfter, Running.Expired, UInt32.le_iff_toNat_le]
  all_goals simp [expired]

theorem running_nodup (t : Timetable) : t.running.Nodup :=
  t.sorted.imp Running.Sooner.ne

-- An operation other than a tick ends the timers that it cancels.
theorem ends_iff_of_not_tick {expiry : Nat} (h : ∀ trylock, op ≠ .tickHandlerCallback trylock) :
    (t.record op).Ends k expiry ↔ k ∈ (t.cancelled op).map Running.serial := by
  have he : t.expired op = [] := by
    cases op
    case tickHandlerCallback trylock => exact absurd rfl (h trylock)
    all_goals rfl
  have hd : ¬(t.record op).Due expiry := fun hd => h true hd.left
  rw [Record.Ends, or_iff_right hd, Record.Cancels, record, he, List.nil_append]
  exact and_iff_right h

-- A tick ends the timers that have expired, if it gets the lock.
theorem ends_tick_iff {expiry : Nat} {trylock : Bool} :
    (t.record (.tickHandlerCallback trylock)).Ends k expiry ↔
      (t.record (.tickHandlerCallback trylock)).Due expiry :=
  or_iff_left fun hc => hc.left trylock rfl

-- The timers that are running behind an operation are those that it did not end, and the new one.
theorem mem_runningAfter_iff (hs : ∀ r ∈ t.running, ∀ r' ∈ t.running, r.serial = r'.serial → r = r')
    (hr : r.serial < t.history.length) : r ∈ t.runningAfter op ↔
      r ∈ t.running ∧ ¬(t.record op).Ends r.serial r.timer.expiryTimeDeciSeconds.toNat := by
  cases op
  case allocTimer =>
    rw [ends_iff_of_not_tick (by simp)]
    have hn {period port id msg beyond} : r ≠ t.newTimer period port id msg beyond :=
      fun he => Nat.lt_irrefl _ (he ▸ hr)
    simp only [runningAfter, cancelled, List.map_nil, List.not_mem_nil, not_false_iff, and_true]
    split
    case isTrue  => simp [Running.insert_perm.mem_iff, hn]
    case isFalse => rfl
  case actionTimerStop req =>
    rw [ends_iff_of_not_tick (by simp)]
    have hp := find?_toList_perm (c := (Running.Requested req ·)) (l := t.running)
    have hd := (List.nodup_append'.mp (hp.nodup_iff.mpr t.running_nodup)).right.right
    simp only [runningAfter, cancelled, ← hp.mem_iff, List.mem_append]
    constructor
    case mp =>
      refine fun h => ⟨.inr h, fun hm => ?_⟩
      obtain ⟨r', hr', he⟩ := List.mem_map.mp hm
      have : r' = r := hs r' (hp.mem_iff.mp (by simp [hr'])) r (hp.mem_iff.mp (by simp [h])) he
      exact hd (this ▸ hr') h
    case mpr =>
      rintro ⟨h | h, hm⟩
      case inl => exact absurd (List.mem_map_of_mem h) hm
      case inr => exact h
  case tickHandlerCallback trylock =>
    rw [ends_tick_iff]
    cases trylock
    case false => simp [runningAfter, Record.Due, record]
    case true =>
      simp [runningAfter, Record.Due, record, nowAfter, Running.Expired, UInt32.le_iff_toNat_le]
  case freeAllTimers =>
    rw [ends_iff_of_not_tick (by simp)]
    simp only [runningAfter, cancelled, List.not_mem_nil, false_iff, not_and, not_not]
    exact List.mem_map_of_mem

end Timetable

-- Operation `j` sent the messages that it had to send, and no others.
structure Accounted (history : List Record) (j : Nat) (r : Record) : Prop where
  sent   : ∀ k timer, Started history k timer →
    Delivers history k timer.expiryTimeDeciSeconds.toNat j r →
      r.sent.filter (·.serial = k) = [Running.sent ⟨k, timer⟩]
  silent : ∀ k timer, Started history k timer →
    ¬Delivers history k timer.expiryTimeDeciSeconds.toNat j r → r.sent.filter (·.serial = k) = []
  sender : ∀ x ∈ r.sent, ∃ timer, Started history x.serial timer
  order  : r.sent.Pairwise Sent.Sooner
  cancel : ∀ k timer, Started history k timer → k < j → r.Cancels k → r.op = .freeAllTimers ∨
    ∃ req, r.op = .actionTimerStop req ∧ timer.id = req.id ∧ timer.sourcePort = req.sourcePort
  clear  : ∀ k timer, Started history k timer → k < j → r.op = .freeAllTimers → ∃ i r', k < i ∧
    i ≤ j ∧ history[i]? = some r' ∧ r'.Ends k timer.expiryTimeDeciSeconds.toNat

theorem delivers_append_of_lt {expiry : Nat} {r r' : Record} (hj : j < history.length) :
    Delivers (history ++ [r']) k expiry j r ↔ Delivers history k expiry j r := by
  refine and_congr_right fun _ => and_congr_right fun _ => forall₂_congr fun i r'' => ?_
  refine imp_congr_right fun _ => imp_congr_right fun hij => ?_
  rw [List.getElem?_append_left (hij.trans hj)]

theorem Accounted.append {r r' : Record} (h : Accounted history j r) (hj : j < history.length) :
    Accounted (history ++ [r']) j r where
  sent k timer hs hd := by
    rw [delivers_append_of_lt hj] at hd
    rw [started_append_of_lt (hd.left.trans hj)] at hs
    exact h.sent k timer hs hd
  silent k timer hs hd := by
    rw [delivers_append_of_lt hj] at hd
    by_cases hk : k < history.length
    case pos => exact h.silent k timer ((started_append_of_lt hk).mp hs) hd
    case neg =>
      refine List.filter_eq_nil_iff.mpr fun x hx => ?_
      have ⟨_, hs⟩ := h.sender x hx
      have := hs.lt
      simp only [decide_eq_true_eq]
      omega
  sender x hx := by
    have ⟨timer, hs⟩ := h.sender x hx
    exact ⟨timer, (started_append_of_lt hs.lt).mpr hs⟩
  order := h.order
  cancel k timer hs hk hc := by
    rw [started_append_of_lt (hk.trans hj)] at hs
    exact h.cancel k timer hs hk hc
  clear k timer hs hk hop := by
    rw [started_append_of_lt (hk.trans hj)] at hs
    have ⟨i, r'', hi, hij, hr, he⟩ := h.clear k timer hs hk hop
    exact ⟨i, r'', hi, hij, by rwa [List.getElem?_append_left (hij.trans_lt hj)], he⟩

-- The history tells which timers are running, and it accounts for all messages.
structure Explained (t : Timetable) : Prop where
  running   : ∀ r, r ∈ t.running ↔ Started t.history r.serial r.timer ∧
    ∀ i r', r.serial < i → t.history[i]? = some r' →
      ¬r'.Ends r.serial r.timer.expiryTimeDeciSeconds.toNat
  accounted : ∀ j r, t.history[j]? = some r → Accounted t.history j r

theorem Explained.serial_inj (h : Explained t) : ∀ r ∈ t.running, ∀ r' ∈ t.running,
    r.serial = r'.serial → r = r' := by
  intro r hr r' hr' he
  have hs := ((h.running r).mp hr).left
  have hs' := ((h.running r').mp hr').left
  rw [he] at hs
  exact Running.ext he (hs.unique hs')

-- The timer that is to be delivered is one of those that are running and have expired.
theorem Explained.mem_expired_iff (h : Explained t) (hr : Started t.history r.serial r.timer) :
    r ∈ t.expired op ↔ Delivers (t.history ++ [t.record op]) r.serial
      r.timer.expiryTimeDeciSeconds.toNat t.history.length (t.record op) := by
  rw [Timetable.mem_expired, h.running, Delivers]
  constructor
  case mp =>
    rintro ⟨⟨_, hi⟩, hd⟩
    refine ⟨hr.lt, hd, fun i r' hk hj hr' => ?_⟩
    rw [List.getElem?_append_left hj] at hr'
    exact hi i r' hk hr'
  case mpr =>
    rintro ⟨_, hd, hi⟩
    refine ⟨⟨hr, fun i r' hk hr' => ?_⟩, hd⟩
    have hj := (List.getElem?_eq_some_iff.mp hr').fst
    exact hi i r' hk hj (by rwa [List.getElem?_append_left hj])

theorem expired_sublist : (t.expired op).Sublist t.running := by
  cases op
  case tickHandlerCallback trylock =>
    cases trylock
    case false => exact List.nil_sublist _
    case true  => exact List.filter_sublist
  all_goals exact List.nil_sublist _

-- In a list without repetitions there is one element with a key, or none.
theorem filter_key_eq {α β : Type*} [DecidableEq β] {f : α → β} {l : List α} {a : α}
    (hn : l.Nodup) (hf : ∀ a ∈ l, ∀ b ∈ l, f a = f b → a = b) (ha : a ∈ l) :
    l.filter (f · = f a) = [a] := by
  induction l
  case nil => cases ha
  case cons b l hi =>
    have ⟨hb, hn⟩ := List.nodup_cons.mp hn
    by_cases hab : b = a
    case pos =>
      subst hab
      have he : l.filter (f · = f b) = [] := by
        refine List.filter_eq_nil_iff.mpr fun c hc => ?_
        simp only [decide_eq_true_eq]
        exact fun he => hb (hf c (by simp [hc]) b (by simp) he ▸ hc)
      simp [he]
    case neg =>
      have hfab : f b ≠ f a := fun he => hab (hf b (by simp) a ha he)
      have ha : a ∈ l := (List.mem_cons.mp ha).resolve_left (Ne.symm hab)
      rw [List.filter_cons_of_neg (by simpa using hfab)]
      exact hi hn (fun a ha b hb => hf a (by simp [ha]) b (by simp [hb])) ha

-- What an operation cancels is asked for by its request.
theorem mem_cancelled (h : r ∈ t.cancelled op) : r ∈ t.running ∧ (op = .freeAllTimers ∨
    ∃ req, op = .actionTimerStop req ∧ r.timer.id = req.id ∧
      r.timer.sourcePort = req.sourcePort) := by
  cases op <;> simp only [Timetable.cancelled, List.not_mem_nil, Option.mem_toList] at h
  case actionTimerStop req =>
    have hr : r.Requested req := by simpa using List.find?_some h
    exact ⟨List.mem_of_find?_eq_some h, .inr ⟨req, rfl, hr⟩⟩
  case freeAllTimers => exact ⟨h, .inl rfl⟩

-- The messages of an operation are accounted for when it is done.
theorem Explained.accounted_record (h : Explained t) :
    Accounted (t.history ++ [t.record op]) t.history.length (t.record op) where
  sent k timer hs hd := by
    rw [started_append_of_lt hd.left] at hs
    have hm := (h.mem_expired_iff (r := ⟨k, timer⟩) hs).mpr hd
    have hf := filter_key_eq (f := Running.serial) (t.running_nodup.sublist expired_sublist)
      (fun a ha b hb => h.serial_inj a (expired_sublist.subset ha) b (expired_sublist.subset hb)) hm
    rw [Timetable.record, List.filter_map]
    exact congrArg (List.map Running.sent) hf
  silent k timer hs hd := by
    rw [Timetable.record, List.filter_map, List.map_eq_nil_iff, List.filter_eq_nil_iff]
    intro r hr he
    obtain rfl : r.serial = k := of_decide_eq_true he
    have hr' := ((h.running r).mp (expired_sublist.subset hr)).left
    rw [started_append_of_lt hr'.lt] at hs
    exact hd (hs.unique hr' ▸ (h.mem_expired_iff hr').mp hr)
  sender x hx := by
    obtain ⟨r, hr, rfl⟩ := List.mem_map.mp hx
    have hs := ((h.running r).mp (expired_sublist.subset hr)).left
    exact ⟨r.timer, (started_append_of_lt hs.lt).mpr hs⟩
  order := List.pairwise_map.mpr (t.sorted.sublist expired_sublist)
  cancel k timer hs hk hc := by
    rw [started_append_of_lt hk] at hs
    have hm := (Timetable.ends_iff_of_not_tick hc.left).mp
      (.inr hc : (t.record op).Ends k timer.expiryTimeDeciSeconds.toNat)
    obtain ⟨r, hr, rfl⟩ := List.mem_map.mp hm
    obtain ⟨hm, ha⟩ := mem_cancelled hr
    exact ((h.running r).mp hm).left.unique hs ▸ ha
  clear k timer hs hk hop := by
    rw [started_append_of_lt hk] at hs
    by_contra hn
    push Not at hn
    have hop : op = .freeAllTimers := hop
    have hr : (⟨k, timer⟩ : Running) ∈ t.running := by
      refine (h.running _).mpr ⟨hs, fun i r' hi hr' => ?_⟩
      have hl := (List.getElem?_eq_some_iff.mp hr').fst
      exact hn i r' hi hl.le (by rwa [List.getElem?_append_left hl])
    refine hn _ _ hk le_rfl List.getElem?_concat_length ?_
    rw [Timetable.ends_iff_of_not_tick (by simp [hop])]
    exact hop ▸ List.mem_map_of_mem hr

-- Every start of a timer finds a free entry.
def Timetable.Admits (t : Timetable) : Op → Prop
  | .allocTimer .. => t.running.length < maxNumTimers
  | _              => True

-- The timer that an operation starts is the new one of the timetable.
theorem started_record_iff : Started (t.history ++ [t.record op]) t.history.length timer ↔
    ∃ period port id msg beyond, op = .allocTimer period port id msg beyond ∧
      timer = (t.newTimer period port id msg beyond).timer := by
  simp only [Started, List.getElem?_concat_length, Option.some.injEq]
  constructor
  case mp =>
    rintro ⟨_, period, port, id, msg, beyond, rfl, hop, rfl⟩
    have hop : op = .allocTimer period port id msg beyond := hop
    subst hop
    exact ⟨period, port, id, msg, beyond, rfl, rfl⟩
  case mpr =>
    rintro ⟨period, port, id, msg, beyond, rfl, rfl⟩
    exact ⟨_, period, port, id, msg, beyond, rfl, rfl, rfl⟩

-- What holds of all records behind an operation holds of the last one too.
theorem forall_getElem?_concat {c : Record → Prop} {r : Record} (hk : k < history.length) :
    (∀ i r', k < i → (history ++ [r])[i]? = some r' → c r') ↔
      (∀ i r', k < i → history[i]? = some r' → c r') ∧ c r := by
  constructor
  case mp =>
    intro h
    refine ⟨fun i r' hi hr => h i r' hi ?_, h _ r hk List.getElem?_concat_length⟩
    rwa [List.getElem?_append_left (List.getElem?_eq_some_iff.mp hr).fst]
  case mpr =>
    rintro ⟨h, hr⟩ i r' hi hr'
    by_cases hl : i < history.length
    case pos => exact h i r' hi (by rwa [List.getElem?_append_left hl] at hr')
    case neg =>
      have hlen := (List.getElem?_eq_some_iff.mp hr').fst
      rw [List.length_append, List.length_singleton] at hlen
      obtain rfl : i = history.length := by omega
      rw [List.getElem?_concat_length] at hr'
      injection hr' with hr'
      exact hr' ▸ hr

-- There is nothing behind the last record.
theorem getElem?_concat_ne_some {i : Nat} {r r' : Record} (hi : history.length < i) :
    (history ++ [r])[i]? ≠ some r' := by
  intro hr
  have := (List.getElem?_eq_some_iff.mp hr).fst
  rw [List.length_append, List.length_singleton] at this
  omega

theorem Explained.accounted_step (h : Explained t) {j : Nat} {r : Record}
    (hr : (t.history ++ [t.record op])[j]? = some r) :
    Accounted (t.history ++ [t.record op]) j r := by
  rcases Nat.lt_trichotomy j t.history.length with hj | rfl | hj
  case inl =>
    rw [List.getElem?_append_left hj] at hr
    exact (h.accounted j r hr).append hj
  case inr.inl =>
    rw [List.getElem?_concat_length] at hr
    injection hr with hr
    exact hr ▸ h.accounted_record
  case inr.inr => exact absurd hr (getElem?_concat_ne_some hj)

-- The timer that has the number of the operation runs if and only if the operation has started it.
theorem Timetable.mem_runningAfter_iff_started {r : Running} (ha : t.Admits op)
    (hr : r.serial = t.history.length) :
    r ∈ t.runningAfter op ↔ Started (t.history ++ [t.record op]) r.serial r.timer := by
  rw [hr, started_record_iff]
  constructor
  case mp =>
    intro hm
    rcases Timetable.mem_runningAfter hm with hm | ⟨_, _, _, _, _, hop, _, he⟩
    case inl => exact absurd (t.started r hm) (hr ▸ Nat.lt_irrefl _)
    case inr => exact ⟨_, _, _, _, _, hop, congrArg Running.timer he⟩
  case mpr =>
    rintro ⟨period, port, id, msg, beyond, rfl, he⟩
    rw [Timetable.runningAfter, if_pos (by exact ha), Running.insert_perm.mem_iff]
    exact List.mem_cons.mpr (.inl (Running.ext hr he))

theorem Timetable.lt_of_mem_runningAfter {r : Running} (hm : r ∈ t.runningAfter op) :
    r.serial < (t.history ++ [t.record op]).length := by
  rw [List.length_append, List.length_singleton]
  rcases Timetable.mem_runningAfter hm with hm | ⟨_, _, _, _, _, _, _, rfl⟩
  case inl => exact Nat.lt_succ_of_lt (t.started r hm)
  case inr => exact Nat.lt_succ_self _

theorem Explained.running_step {r : Running} (h : Explained t) (ha : t.Admits op) :
    r ∈ t.runningAfter op ↔ Started (t.history ++ [t.record op]) r.serial r.timer ∧
      ∀ i r', r.serial < i → (t.history ++ [t.record op])[i]? = some r' →
        ¬r'.Ends r.serial r.timer.expiryTimeDeciSeconds.toNat := by
  rcases Nat.lt_trichotomy r.serial t.history.length with hr | hr | hr
  case inl =>
    rw [Timetable.mem_runningAfter_iff h.serial_inj hr, h.running, started_append_of_lt hr,
      forall_getElem?_concat hr, and_assoc]
  case inr.inl =>
    rw [Timetable.mem_runningAfter_iff_started ha hr, and_iff_left]
    exact fun i r' hi hr' => absurd hr' (getElem?_concat_ne_some (hr ▸ hi))
  case inr.inr =>
    have hl : ¬r.serial < (t.history ++ [t.record op]).length := by
      rw [List.length_append, List.length_singleton]
      omega
    exact iff_of_false (fun hm => hl (Timetable.lt_of_mem_runningAfter hm)) fun hs => hl hs.left.lt

theorem explained_preserved :
    Preserves (fun t op => some (t.step op)) Timetable.Admits Explained where
  step {t op t'} h ha hs := by
    injection hs with hs
    subst hs
    constructor
    case accounted => exact fun _ _ hr => h.accounted_step hr
    case running   => exact fun _ => h.running_step ha

-- No expiry time that has been asked for is beyond the range of the tick counter.
def NoWrap (history : List Record) : Prop :=
  ∀ r ∈ history, ∀ period port id msg beyond, r.op = .allocTimer period port id msg beyond →
    r.now.toNat + period.toNat < 2 ^ 32

def Timetable.InRange (t : Timetable) : Op → Prop
  | .allocTimer period .. => t.now.toNat + period.toNat < 2 ^ 32
  | _                     => True

theorem noWrap_preserved :
    Preserves (fun t op => some (t.step op)) Timetable.InRange (NoWrap ·.history) where
  step {t op t'} h ha hs := by
    injection hs with hs
    subst hs
    intro r hr period port id msg beyond hop
    rcases List.mem_append.mp hr with hr | hr
    case inl => exact h r hr period port id msg beyond hop
    case inr =>
      obtain rfl := List.mem_singleton.mp hr
      have hop : op = .allocTimer period port id msg beyond := hop
      subst hop
      exact ha

-- The entries of the used list, as far as `printDebugUsedTimerListUnprotected` goes through it.
def usedEntries (s : State) : Nat → Option Addr → List Addr
  | 0,     _      => []
  | _ + 1, none   => []
  | x + 1, some e => e :: usedEntries s x (s.pNextEntry e)

theorem usedEntries_eq {s : State} {p : Option Addr} {l : List Addr} {x : Nat}
    (h : s.links.Seg p l none) (hx : l.length ≤ x) : usedEntries s x l.head? = l := by
  induction l generalizing p x
  case nil => cases x <;> rfl
  case cons e l hi =>
    cases x
    case zero => contradiction
    case succ x =>
      rw [List.head?_cons, usedEntries, pNextEntry_of_seg h,
        hi h.right.right (Nat.le_of_succ_le_succ hx)]

-- A timer is started only while fewer timers than there are entries are running, and with an expiry
-- time that is not beyond the range of the tick counter.
def Regular (s : State) : Op → Prop
  | .allocTimer period .. => s.gTimerTickDeciSeconds.toNat + period.toNat < 2 ^ 32 ∧
    (usedEntries s maxNumTimers s.pgUsedTimerListHead).length < maxNumTimers
  | _                     => True

instance (s : State) : (op : Op) → Decidable (Regular s op)
  | .allocTimer ..          => inferInstanceAs (Decidable (_ ∧ _))
  | .actionTimerStop _      => inferInstanceAs (Decidable True)
  | .tickHandlerCallback _  => inferInstanceAs (Decidable True)
  | .freeAllTimers          => inferInstanceAs (Decidable True)

theorem Refines.admits {m : Malloc} {s : State} (h : Refines m s t) (hr : Regular s op) :
    t.Admits op ∧ t.InRange op := by
  have ⟨free, used, h⟩ := h
  cases op
  case allocTimer =>
    have ⟨hw, hl⟩ := hr
    rw [h.usedList.head, usedEntries_eq h.usedList.seg h.length_used] at hl
    rw [h.now] at hw
    refine ⟨?_, hw⟩
    rw [Timetable.Admits, ← h.running, List.length_map]
    exact hl
  all_goals exact ⟨trivial, trivial⟩

-- Operation `k` started a timer that is due at a tick.
def StartedFor (history : List Record) (k : Nat) (port : Int32) (id : UInt8) (msg : ShortMsg)
    (due : Nat) : Prop :=
  ∃ r period beyond, history[k]? = some r ∧ r.op = .allocTimer period port id msg beyond ∧
    due = r.now.toNat + period.toNat

-- Every timer that is started causes one message, and no other messages are sent: a tick sends the
-- message if it is the first one with the lock at which the timer is due, and if no stop and no end of
-- all timers has freed the timer before.
structure DeliversAll (history : List Record) : Prop where
  sends  : ∀ {k port id msg due} {j : Nat} {r : Record}, StartedFor history k port id msg due →
    history[j]? = some r → Delivers history k due j r → ∃ x, r.sent.filter (·.serial = k) = [x] ∧
      (x.serverPort.toNat : Int) = port.toInt % 2 ^ 16 ∧ (msg.Fits → x.bytes = msg.wire) ∧
      x.expiryTimeDeciSeconds.toNat = due
  silent : ∀ {k port id msg due} {j : Nat} {r : Record}, StartedFor history k port id msg due →
    history[j]? = some r → ¬Delivers history k due j r → r.sent.filter (·.serial = k) = []
  sender : ∀ {j : Nat} {r : Record}, history[j]? = some r → ∀ x ∈ r.sent,
    ∃ port id msg due, StartedFor history x.serial port id msg due
  order  : ∀ {j : Nat} {r : Record}, history[j]? = some r → r.sent.Pairwise Sent.Sooner
  cancel : ∀ {k port id msg due} {j : Nat} {r : Record}, StartedFor history k port id msg due →
    history[j]? = some r → k < j → r.Cancels k →
      r.op = .freeAllTimers ∨ r.op = .actionTimerStop ⟨id, port⟩
  clear  : ∀ {k port id msg due} {j : Nat} {r : Record}, StartedFor history k port id msg due →
    history[j]? = some r → k < j → r.op = .freeAllTimers →
      ∃ i r', k < i ∧ i ≤ j ∧ history[i]? = some r' ∧ r'.Ends k due

theorem StartedFor.started {port : Int32} {id : UInt8} {msg : ShortMsg} {due : Nat}
    (h : StartedFor history k port id msg due) (hw : NoWrap history) : ∃ timer,
      Started history k timer ∧ timer.expiryTimeDeciSeconds.toNat = due ∧ timer.sourcePort = port ∧
      timer.id = id ∧ ∃ beyond, timer.expiryMsg = msg.toMsg beyond := by
  obtain ⟨r, period, beyond, hr, hop, rfl⟩ := h
  have hlt := hw r (List.mem_of_getElem? hr) period port id msg beyond hop
  refine ⟨_, ⟨r, period, port, id, msg, beyond, hr, hop, rfl⟩, ?_, rfl, rfl, beyond, rfl⟩
  rw [UInt32.toNat_add, Nat.mod_eq_of_lt hlt]

theorem toNat_ofInt_port (port : Int32) :
    ((UInt16.ofInt port.toInt).toNat : Int) = port.toInt % 2 ^ 16 := by
  rw [UInt16.ofInt, UInt16.toNat_ofNat']
  omega

theorem deliversAll_of_accounted (hw : NoWrap history)
    (h : ∀ j r, history[j]? = some r → Accounted history j r) : DeliversAll history where
  sends hs hr hd := by
    have ⟨timer, hs, hdue, hport, _, beyond, hmsg⟩ := hs.started hw
    refine ⟨_, (h _ _ hr).sent _ timer hs (hdue ▸ hd), ?_, fun hf => ?_, hdue⟩
    case refine_1 => rw [← hport]; exact toNat_ofInt_port _
    case refine_2 => rw [← ShortMsg.wire_toMsg hf beyond, ← hmsg]; rfl
  silent hs hr hd := by
    have ⟨timer, hs, hdue, _⟩ := hs.started hw
    exact (h _ _ hr).silent _ timer hs (hdue ▸ hd)
  sender hr x hx := by
    have ⟨_, r, period, port, id, msg, beyond, hr, hop, _⟩ := (h _ _ hr).sender x hx
    exact ⟨port, id, msg, _, r, period, beyond, hr, hop, rfl⟩
  order hr := (h _ _ hr).order
  cancel hs hr hk hc := by
    have ⟨timer, hs, _, hport, hid, _⟩ := hs.started hw
    rcases (h _ _ hr).cancel _ timer hs hk hc with ho | ⟨req, ho, hi, hp⟩
    case inl => exact .inl ho
    case inr => exact .inr (by rw [ho, ← hid, ← hport, hi, hp])
  clear hs hr hk ho := by
    have ⟨timer, hs, hdue, _⟩ := hs.started hw
    exact hdue ▸ (h _ _ hr).clear _ timer hs hk ho

-- The messages of the timers are delivered in every run in which there is an entry for every timer
-- and in which the tick counter does not wrap before a timer expires.
theorem timers_delivered (m : Malloc) (timer : Addr → Timer) (links : Links Addr) (ops : List Op)
    (h : Along step Regular (started m timer links) ops) :
    ∃ s, run step (started m timer links) ops = some s ∧ DeliversAll s.history := by
  have ⟨s, hr, free, used, hs⟩ := run_refines m timer links ops
  have ha := along_simulates (A := fun t op => t.Admits op ∧ t.InRange op)
    (step_refines (m := m)) (fun _ _ _ => Refines.admits) (started_refines m timer links) h
  have he := explained_preserved.run (s := .start) ⟨by simp [Timetable.start, Started], by
    simp [Timetable.start]⟩ (ha.mono fun _ _ h => h.left) run_some_eq_foldl
  have hw := noWrap_preserved.run (s := .start) (by simp [NoWrap, Timetable.start])
    (ha.mono fun _ _ h => h.right) run_some_eq_foldl
  refine ⟨s, hr, ?_⟩
  rw [hs.history]
  exact deliversAll_of_accounted hw he.accounted

-- The addresses that `malloc` returns in the runs below.
def someMalloc : Malloc where
  entries := List.range maxNumTimers
  length  := List.length_range
  nodup   := List.nodup_range

def someState : State :=
  started someMalloc (fun _ => .zero) ⟨fun _ => none, fun _ => none⟩

def someMsg : ShortMsg :=
  createTimerExpiryMsg .zero 7 [] (Nat.zero_le _)

-- A timer is started, and due at the second tick, which does not get the lock.
def someRun (port : Int32) : List Op :=
  [.allocTimer 2 port 1 someMsg .zero, .tickHandlerCallback true, .tickHandlerCallback false,
    .tickHandlerCallback true]

theorem timers_delivered_someRun : ∃ s, run step someState (someRun 5232) = some s ∧
    s.history.map (·.sent.length) = [0, 0, 0, 1] ∧ DeliversAll s.history := by
  have ⟨s, hr, hd⟩ := timers_delivered someMalloc (fun _ => .zero) ⟨fun _ => none, fun _ => none⟩
    (someRun 5232) (by decide)
  have hl : (run step someState (someRun 5232)).map (·.history.map (·.sent.length)) =
      some [0, 0, 0, 1] := by decide
  have hr : run step someState (someRun 5232) = some s := hr
  rw [hr] at hl
  exact ⟨s, hr, Option.some.inj hl, hd⟩

-- The source port of a request is a `SInt32`, and its lower 16 bits are the port that is sent to.
theorem timers_not_delivered_to_port :
    ¬∀ (m : Malloc) (timer : Addr → Timer) (links : Links Addr) (ops : List Op) (s : State),
      Along step Regular (started m timer links) ops →
      run step (started m timer links) ops = some s → ∀ k port id msg due,
        StartedFor s.history k port id msg due → ∀ r ∈ s.history, ∀ x ∈ r.sent, x.serial = k →
          (x.serverPort.toNat : Int) = port.toInt := by
  intro h
  have ⟨s, hr, hs, hx⟩ : ∃ s ∈ run step someState (someRun 70000),
      StartedFor s.history 0 70000 1 someMsg 2 ∧ ∃ r ∈ s.history, ∃ x ∈ r.sent, x.serial = 0 ∧
        (x.serverPort.toNat : Int) ≠ (70000 : Int32).toInt :=
    ⟨_, rfl, ⟨_, 2, .zero, rfl, rfl, by decide⟩, by decide⟩
  have ⟨r, hm, x, hx, hk, hne⟩ := hx
  exact hne (h someMalloc _ _ _ _ (by decide) hr 0 70000 1 someMsg 2 hs r hm x hx hk)

end RoboOne.Timer
