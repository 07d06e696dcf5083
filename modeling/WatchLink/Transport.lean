import WatchLink.Octets

/-!
# The radio side

The host owns the radio. What it is asked to do is batched into transactions, which it carries out
one after another and each in order; that keeps the first write of a connection behind the
subscriptions that make its answer arrive. What it found on the other side is a `Discovery`, what
came in is an `Inbound` payload.
-/

namespace WatchLink

/-- The name of a service or characteristic. -/
abbrev Uuid := BitVec 128

namespace Uuid

/-- The base that short names are numbered in. -/
def base : Uuid := 0x00000000_0000_1000_8000_00805F9B34FB#128

/-- The full name of a short one. -/
def ofShort (short : UInt16) : Uuid := (BitVec.ofNat 128 short.toNat <<< 96) ||| base

end Uuid

/-- Where bytes come from and go to. -/
inductive Endpoint where
  /-- The one byte stream of a serial connection. -/
  | stream
  /-- A characteristic. -/
  | resource (uuid : Uuid)
  deriving DecidableEq, Repr

/-- How far a connection has come. -/
inductive ConnectionState where
  | notConnected
  | connecting
  | initializing
  | initialized
  | waitingForReconnect
  deriving DecidableEq, Repr

namespace ConnectionState

/-- The state's name in reports. -/
def name : ConnectionState → String
  | notConnected => "NotConnected"
  | connecting => "Connecting"
  | initializing => "Initializing"
  | initialized => "Initialized"
  | waitingForReconnect => "WaitingForReconnect"

end ConnectionState

/-- One thing the radio is asked to do. -/
inductive RadioOp where
  | write (endpoint : Endpoint) (data : Bytes)
  | subscribe (endpoint : Endpoint)
  | requestMtu (mtu : UInt16)
  | setState (state : ConnectionState)
  | progress (message : String) (percent : UInt8)
  deriving DecidableEq, Repr

/-- Things the radio is asked to do together, in order. -/
structure Transaction where
  name : String
  ops : List RadioOp := []
  deriving DecidableEq, Repr

namespace Transaction

/-- More operations, behind those there are. -/
def add (transaction : Transaction) (ops : List RadioOp) : Transaction :=
  { transaction with ops := transaction.ops ++ ops }

/-- A write behind the operations there are. -/
def write (transaction : Transaction) (endpoint : Endpoint) (data : Bytes) : Transaction :=
  transaction.add [.write endpoint data]

@[simp] theorem add_nil (transaction : Transaction) : transaction.add [] = transaction := by
  simp [add]

@[simp] theorem add_add (transaction : Transaction) (ops more : List RadioOp) :
    (transaction.add ops).add more = transaction.add (ops ++ more) := by
  simp [add]

end Transaction

structure DiscoveredService where
  uuid : Uuid
  characteristics : List Uuid
  deriving DecidableEq, Repr

/-- What was discovered on the other side. -/
structure Discovery where
  services : List DiscoveredService := []
  deriving DecidableEq, Repr

namespace Discovery

/-- The first discovered service of that name. -/
def service? (discovery : Discovery) (uuid : Uuid) : Option DiscoveredService :=
  discovery.services.find? fun s => s.uuid = uuid

end Discovery

/-- How the two ends make themselves known. -/
inductive HandshakeMode where
  | encrypted
  | clearText
  deriving DecidableEq, Repr

/-- A payload that came in, by what it is for. -/
inductive Inbound where
  | command (bytes : Bytes)
  | activity (bytes : Bytes)
  | uploadAck (bytes : Bytes)
  deriving DecidableEq, Repr

end WatchLink
