import RoboOne.Messaging.Msg

namespace RoboOne.Messaging

-- `memcpy (pMsg, bytes, length)`: the bytes behind the new ones keep their values.
def Msg.write (m : Msg) (bs : List UInt8) : Msg where
  bytes := (bs ++ m.bytes.drop bs.length).take sizeOfMsg
  size  := by
    have := m.size
    simp only [List.length_take, List.length_append, List.length_drop, this]
    omega

-- `pMsg->msgLength = length`.
def Msg.setLength (m : Msg) (length : UInt8) : Msg :=
  m.write [length]

-- `memcpy` to a place within the message.
def Msg.writeAt (m : Msg) (offset : Nat) (bs : List UInt8) : Msg where
  bytes := (m.bytes.take offset ++ bs ++ m.bytes.drop (offset + bs.length)).take sizeOfMsg
  size  := by
    have := m.size
    simp only [List.length_take, List.length_append, List.length_drop, this]
    omega

def Msg.msgType (m : Msg) : UInt8 :=
  m.bytes.getD sizeOfMsgLength 0

def Msg.msgBody (m : Msg) : List UInt8 :=
  m.bytes.drop offsetToMsgBody

-- Some bytes that have arrived together, at least one.
structure Chunk where
  first : UInt8
  rest  : List UInt8
deriving DecidableEq

def Chunk.bytes (c : Chunk) : List UInt8 :=
  c.first :: c.rest

-- The chunk of some bytes, if there are any.
def Chunk.ofBytes? : List UInt8 → Option Chunk
  | []      => none
  | b :: bs => some ⟨b, bs⟩

-- What `recv` does when everything that was sent has been read.
inductive StreamEnd
  | closed -- by the peer, so `recv` returns 0
  | failed -- `recv` returns -1
deriving DecidableEq

def StreamEnd.returns : StreamEnd → Int
  | .closed => 0
  | .failed => -1

-- A connected socket: the chunks that have not been read yet.
structure Socket where
  chunks : List Chunk
  ending : StreamEnd
deriving DecidableEq

-- What `recv` returns, what it leaves in the buffer, and the socket behind it. It reads from one chunk,
-- and never more than it is asked for.
def recv (socket : Socket) (pMsg : Msg) (size : Nat) : Int × Msg × Socket :=
  match socket.chunks with
  | []      => (socket.ending.returns, pMsg, socket)
  | c :: cs => ((c.bytes.take size).length, pMsg.write (c.bytes.take size),
      { socket with chunks := (Chunk.ofBytes? (c.bytes.drop size)).toList ++ cs })

-- The receive loops: the buffer, and the local variables of the same names.
structure Receiver where
  pReceivedMsg      : Msg
  rawReceivedLength : Nat
  rawBytesReceived  : Int
  socket            : Socket
deriving DecidableEq

-- The buffer of a receive loop before the first `recv`.
def Receiver.init (buffer : Msg) (socket : Socket) : Receiver where
  pReceivedMsg      := buffer.setLength (.ofNat maxMsgLength)
  rawReceivedLength := 0
  rawBytesReceived  := 0
  socket            := socket

-- The body of both loops. What `recv` reads is put at the start of the buffer, over the length of the
-- message. (The client adds up the lengths of zero as well, and takes note of a failure.)
def Receiver.receive (r : Receiver) : Receiver :=
  let (n, msg, socket) :=
    recv r.socket r.pReceivedMsg (r.pReceivedMsg.msgLength.toNat + sizeOfMsgLength)
  { pReceivedMsg      := msg
    rawReceivedLength := if n > 0 then r.rawReceivedLength + n.toNat else r.rawReceivedLength
    rawBytesReceived  := n
    socket            := socket }

end RoboOne.Messaging
