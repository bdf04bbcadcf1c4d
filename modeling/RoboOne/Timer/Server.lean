import RoboOne.Library.DoublyLinked
import RoboOne.Library.Transition
import RoboOne.Timer.Client

set_option linter.dupNamespace false

namespace RoboOne.Timer

open Messaging

def maxNumTimers : Nat := 30

structure Timer where
  expiryTimeDeciSeconds : UInt32
  id                    : UInt8
  sourcePort            : Int32
  expiryMsg             : Msg
deriving DecidableEq

-- `memset (pTimer, 0, sizeof (*pTimer))`.
def Timer.zero : Timer where
  expiryTimeDeciSeconds := 0
  id                    := 0
  sourcePort            := 0
  expiryMsg             := .zero

-- The address of a `TimerEntry`, which is the address of its timer too. `PNULL` is `none`.
abbrev Addr := Nat

-- What a `TimerEntry ** ppEntry` points to.
inductive EntrySlot
  | pgFreeTimerListHead
  | pgUsedTimerListHead
  | pNextEntry (e : Addr)
deriving DecidableEq

-- A call of `runMessagingClient` for the timer that was started by the operation `serial` of the run.
structure Sent where
  serial                : Nat
  expiryTimeDeciSeconds : UInt32
  serverPort            : UInt16
  bytes                 : List UInt8
deriving DecidableEq

-- The operations on the lists. Each of them holds the lock while it works on the lists; a tick gets
-- the lock only if nobody else holds it.
inductive Op
  | allocTimer (periodDeciSeconds : UInt32) (sourcePort : Int32) (id : UInt8) (pExpiryMsg : ShortMsg)
      (beyond : Beyond)
  | actionTimerStop (pTimerStopReq : TimerStopReq)
  | tickHandlerCallback (trylock : Bool)
  | freeAllTimers
deriving DecidableEq

-- What an operation did: the tick counter behind it, the messages it sent, and the timers it freed.
structure Record where
  op    : Op
  now   : UInt32
  sent  : List Sent
  freed : List Nat
deriving DecidableEq

-- The memory of the entries is split by the fields of `TimerEntry`. The serial numbers and the last
-- three fields are no part of the code, they tell what has happened.
structure State where
  timer                 : Addr → Timer
  links                 : Links Addr -- `pPrevEntry` and `pNextEntry`
  pgFreeTimerListHead   : Option Addr
  pgUsedTimerListHead   : Option Addr
  gTimerTickDeciSeconds : UInt32
  serial                : Addr → Nat -- of the timer in an entry
  sent                  : List Sent  -- by the current operation
  freed                 : List Nat   -- by the current operation
  history               : List Record

namespace State

def pPrevEntry (s : State) (e : Addr) : Option Addr :=
  s.links.prev e

def pNextEntry (s : State) (e : Addr) : Option Addr :=
  s.links.next e

-- `if (pEntry != PNULL) pEntry->pPrevEntry = p`.
def setPrevEntry (pEntry p : Option Addr) (s : State) : State :=
  { s with links := s.links.setPrev pEntry p }

-- `if (pEntry != PNULL) pEntry->pNextEntry = p`.
def setNextEntry (pEntry p : Option Addr) (s : State) : State :=
  { s with links := s.links.setNext pEntry p }

def setTimer (e : Addr) (t : Timer) (s : State) : State :=
  { s with timer := Function.update s.timer e t }

-- `*ppEntry`.
def deref (s : State) : EntrySlot → Option Addr
  | .pgFreeTimerListHead => s.pgFreeTimerListHead
  | .pgUsedTimerListHead => s.pgUsedTimerListHead
  | .pNextEntry e        => s.pNextEntry e

-- `*ppEntry = p`.
def assign (p : Option Addr) (s : State) : EntrySlot → State
  | .pgFreeTimerListHead => { s with pgFreeTimerListHead := p }
  | .pgUsedTimerListHead => { s with pgUsedTimerListHead := p }
  | .pNextEntry e        => s.setNextEntry (some e) p

end State

-- `runMessagingClient` takes the port as a `UInt16`. Whether it succeeds makes no difference.
def sendTimerExpiryMsg (pTimer : Addr) (s : State) : State :=
  { s with sent := s.sent ++ [{
      serial                := s.serial pTimer
      expiryTimeDeciSeconds := (s.timer pTimer).expiryTimeDeciSeconds
      serverPort            := .ofInt (s.timer pTimer).sourcePort.toInt
      bytes                 := (s.timer pTimer).expiryMsg.wire }] }

-- The loop that looks for the entry of a timer. The first argument is what is left of the limit on `x`
-- here and in the loops below.
def findEntry (s : State) (pTimer : Addr) : Nat → Option Addr → Option Addr
  | 0,     pEntry => pEntry
  | _ + 1, none   => none
  | x + 1, some e => if e = pTimer then some e else findEntry s pTimer x (s.pNextEntry e)

-- The loop that looks for the end of a list, which returns `pPrevEntry` and `ppEntry`.
def findEnd (s : State) : Nat → Option Addr → EntrySlot → Option Addr × EntrySlot
  | 0,     pPrevEntry, ppEntry => (pPrevEntry, ppEntry)
  | x + 1, pPrevEntry, ppEntry =>
    match s.deref ppEntry with
    | none   => (pPrevEntry, ppEntry)
    | some e => findEnd s x (some e) (.pNextEntry e)

-- Puts an entry on the end of a list. The ASSERT fails if the end is not found.
def attachEntry (pWantedEntry : Addr) (head : EntrySlot) (s : State) : Option State :=
  let (pPrevEntry, ppEntry) := findEnd s maxNumTimers none head
  match s.deref ppEntry with
  | none   => some <| State.setNextEntry (some pWantedEntry) none <|
      State.setPrevEntry (some pWantedEntry) pPrevEntry <| s.assign (some pWantedEntry) ppEntry
  | some _ => none

-- `none` is one of the two ASSERTs: the timer is not in the used list, or the free list has no end.
def freeTimerUnprotected (pTimer : Addr) (s : State) : Option State :=
  match findEntry s pTimer maxNumTimers s.pgUsedTimerListHead with
  | none              => none
  | some pWantedEntry =>
    if pWantedEntry = pTimer then
      let s := { s with freed := s.freed ++ [s.serial pWantedEntry] }
      let s := s.setTimer pWantedEntry .zero
      let s := s.setNextEntry (s.pPrevEntry pWantedEntry) (s.pNextEntry pWantedEntry)
      let s :=
        if s.pgUsedTimerListHead = some pWantedEntry then
          { s with pgUsedTimerListHead := s.pNextEntry pWantedEntry }
        else
          s
      let s := s.setPrevEntry (s.pNextEntry pWantedEntry) (s.pPrevEntry pWantedEntry)
      attachEntry pWantedEntry .pgFreeTimerListHead s
    else
      none

def tickLoop : Nat → Option Addr → State → Option State
  | 0,     _,      s => some s
  | _ + 1, none,   s => some s
  | x + 1, some e, s =>
    if (s.timer e).expiryTimeDeciSeconds ≤ s.gTimerTickDeciSeconds then
      let s := sendTimerExpiryMsg e s
      let pEntry := s.pNextEntry e
      (freeTimerUnprotected e s).bind (tickLoop x pEntry)
    else
      tickLoop x (s.pNextEntry e) s

-- `trylock` tells whether `pthread_mutex_trylock` gets the lock.
def tickHandlerCallback (trylock : Bool) (s : State) : Option State :=
  let s := { s with gTimerTickDeciSeconds := s.gTimerTickDeciSeconds + 1 }
  if trylock then tickLoop maxNumTimers s.pgUsedTimerListHead s else some s

-- The exchange of two entries in `sortUsedListUnprotected`.
def swapEntries (pThisEntry pNextEntry : Addr) (s : State) : State :=
  let s := s.setNextEntry (s.pPrevEntry pThisEntry) (some pNextEntry)
  let s := s.setPrevEntry (s.pNextEntry pNextEntry) (some pThisEntry)
  let s := s.setNextEntry (some pThisEntry) (s.pNextEntry pNextEntry)
  let s := s.setPrevEntry (some pNextEntry) (s.pPrevEntry pThisEntry)
  let s := s.setPrevEntry (some pThisEntry) (some pNextEntry)
  let s := s.setNextEntry (some pNextEntry) (some pThisEntry)
  if s.pgUsedTimerListHead = some pThisEntry then
    { s with pgUsedTimerListHead := some pNextEntry }
  else
    s

-- How the loop of `sortUsedListUnprotected` ends. `left` is the difference of `x` to its limit.
structure SortEnd where
  state  : State
  pEntry : Option Addr
  left   : Nat

def sortLoop : Nat → Option Addr → State → SortEnd
  | 0,        pEntry, s => ⟨s, pEntry, 0⟩
  | left + 1, none,   s => ⟨s, none, left + 1⟩
  | left + 1, some e, s =>
    match s.pNextEntry e with
    | none   => sortLoop left none s
    | some n =>
      if (s.timer e).expiryTimeDeciSeconds > (s.timer n).expiryTimeDeciSeconds then
        let s := swapEntries e n s
        sortLoop left s.pgUsedTimerListHead s
      else
        sortLoop left (some n) s

def sortUsedListUnprotected (s : State) : SortEnd :=
  sortLoop (maxNumTimers * maxNumTimers) s.pgUsedTimerListHead s

-- The loop of `allocTimer` that looks for the last entry of the free list, which returns `pPrevEntry`.
def findLast (s : State) : Nat → Option Addr → Option Addr → Option Addr
  | 0,     pPrevEntry, _      => pPrevEntry
  | _ + 1, pPrevEntry, none   => pPrevEntry
  | x + 1, _,          some e => findLast s x (some e) (s.pNextEntry e)

-- `allocTimer` up to the sorting of the list. The address is `pAlloc`.
def allocUnsorted (periodDeciSeconds : UInt32) (sourcePort : Int32) (id : UInt8)
    (pExpiryMsg : ShortMsg) (beyond : Beyond) (s : State) : Option (Option Addr × State) :=
  match findLast s maxNumTimers none s.pgFreeTimerListHead with
  | none              => some (none, s)
  | some pWantedEntry =>
    let s := s.setNextEntry (s.pPrevEntry pWantedEntry) (s.pNextEntry pWantedEntry)
    let s :=
      if s.pgFreeTimerListHead = some pWantedEntry then
        { s with pgFreeTimerListHead := none }
      else
        s
    (attachEntry pWantedEntry .pgUsedTimerListHead s).map fun s =>
      (some pWantedEntry, {
        s.setTimer pWantedEntry {
          expiryTimeDeciSeconds := s.gTimerTickDeciSeconds + periodDeciSeconds
          id                    := id
          sourcePort            := sourcePort
          expiryMsg             := pExpiryMsg.toMsg beyond } with
        serial := Function.update s.serial pWantedEntry s.history.length })

-- The outer `none` is the ASSERT on the end of the used list, the inner one is `PNULL`.
def allocTimer (periodDeciSeconds : UInt32) (sourcePort : Int32) (id : UInt8)
    (pExpiryMsg : ShortMsg) (beyond : Beyond) (s : State) : Option (Option Addr × State) :=
  (allocUnsorted periodDeciSeconds sourcePort id pExpiryMsg beyond s).map fun
    | (none, s)        => (none, s)
    | (some pAlloc, s) => (some pAlloc, (sortUsedListUnprotected s).state)

def freeAllLoop : Nat → Option Addr → State → Option State
  | 0,     _,      s => some s
  | _ + 1, none,   s => some s
  | x + 1, some e, s =>
    let pNextEntry := s.pNextEntry e
    (freeTimerUnprotected e s).bind (freeAllLoop x pNextEntry)

def freeAllTimers (s : State) : Option State :=
  (freeAllLoop maxNumTimers s.pgUsedTimerListHead s).map ({ · with pgUsedTimerListHead := none })

-- One turn of the loop in `actionTimerServerStart`, for the entry that `malloc` returned.
def startEntry (e : Addr) (pPrevEntry : Option Addr) (ppEntry : EntrySlot) (s : State) : State :=
  State.setNextEntry pPrevEntry (some e) <| State.setNextEntry (some e) none <|
    State.setPrevEntry (some e) pPrevEntry <| State.setTimer e .zero <| s.assign (some e) ppEntry

def startLoop : List Addr → Option Addr → EntrySlot → State → State
  | [],      _,          _,       s => s
  | e :: es, pPrevEntry, ppEntry, s =>
    startLoop es (some e) (.pNextEntry e) (startEntry e pPrevEntry ppEntry s)

-- The entries that `malloc` returns are there and do not overlap.
structure Malloc where
  entries : List Addr
  length  : entries.length = maxNumTimers
  nodup   : entries.Nodup

-- The set-up of the free list. The mutex and the timer of the operating system are not modelled.
def actionTimerServerStart (m : Malloc) (s : State) : State :=
  startLoop m.entries none .pgFreeTimerListHead s

-- The ASSERT fails if no timer can be allocated.
def actionTimerStart (pTimerStartReq : TimerStartReq) (beyond : Beyond) (s : State) : Option State :=
  match allocTimer pTimerStartReq.expiryDeciSeconds pTimerStartReq.sourcePort pTimerStartReq.id
      pTimerStartReq.expiryMsg beyond s with
  | some (some _, s) => some s
  | _                => none

-- When a timer has been found and freed, `pEntry` moves on from the end of the free list.
def stopLoop (pTimerStopReq : TimerStopReq) : Nat → Option Addr → State → Option State
  | 0,     _,      s => some s
  | _ + 1, none,   s => some s
  | x + 1, some e, s =>
    if (s.timer e).id = pTimerStopReq.id ∧ (s.timer e).sourcePort = pTimerStopReq.sourcePort then
      freeTimerUnprotected e s
    else
      stopLoop pTimerStopReq x (s.pNextEntry e) s

def actionTimerStop (pTimerStopReq : TimerStopReq) (s : State) : Option State :=
  stopLoop pTimerStopReq maxNumTimers s.pgUsedTimerListHead s

def doOp : Op → State → Option State
  | .allocTimer p port id msg beyond, s => (allocTimer p port id msg beyond s).map Prod.snd
  | .actionTimerStop req,             s => actionTimerStop req s
  | .tickHandlerCallback trylock,     s => tickHandlerCallback trylock s
  | .freeAllTimers,                   s => freeAllTimers s

-- The record of an operation is written when it is done.
def step (s : State) (op : Op) : Option State :=
  (doOp op { s with sent := [], freed := [] }).map fun s =>
    { s with history := s.history ++ [⟨op, s.gTimerTickDeciSeconds, s.sent, s.freed⟩] }

-- The globals before the server is started. What `malloc` will return may contain anything.
def boot (timer : Addr → Timer) (links : Links Addr) : State where
  timer                 := timer
  links                 := links
  pgFreeTimerListHead   := none
  pgUsedTimerListHead   := none
  gTimerTickDeciSeconds := 0
  serial                := fun _ => 0
  sent                  := []
  freed                 := []
  history               := []

end RoboOne.Timer
