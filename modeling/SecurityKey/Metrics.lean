/-!
# Traffic counters

A channel counts what it carries: messages, reports and payload bytes in each direction,
the interactions with the user and the errors on the link.  The counters are 64-bit words
and wrap.
-/

set_option autoImplicit false

namespace SecurityKey

/-- The counters of one session. -/
structure Metrics where
  messagesSent : UInt64
  messagesReceived : UInt64
  reportsSent : UInt64
  reportsReceived : UInt64
  bytesSent : UInt64
  bytesReceived : UInt64
  interactions : UInt64
  protocolErrors : UInt64
  deriving DecidableEq, Repr

namespace Metrics

/-- The counters of a session in which nothing has happened. -/
def zero : Metrics := ⟨0, 0, 0, 0, 0, 0, 0, 0⟩

/-- Counts a message of `bytes` bytes that was sent as `reports` reports. -/
def messageSent (bytes reports : UInt64) (metrics : Metrics) : Metrics :=
  { metrics with
    messagesSent := metrics.messagesSent + 1
    bytesSent := metrics.bytesSent + bytes
    reportsSent := metrics.reportsSent + reports }

/-- Counts a message of `bytes` bytes that was put together. -/
def messageReceived (bytes : UInt64) (metrics : Metrics) : Metrics :=
  { metrics with
    messagesReceived := metrics.messagesReceived + 1
    bytesReceived := metrics.bytesReceived + bytes }

/-- Counts a report that was read. -/
def reportReceived (metrics : Metrics) : Metrics :=
  { metrics with reportsReceived := metrics.reportsReceived + 1 }

/-- Counts a request that the user has answered. -/
def interaction (metrics : Metrics) : Metrics :=
  { metrics with interactions := metrics.interactions + 1 }

/-- Counts a framing error or a failure of the device. -/
def protocolError (metrics : Metrics) : Metrics :=
  { metrics with protocolErrors := metrics.protocolErrors + 1 }

end Metrics

end SecurityKey
