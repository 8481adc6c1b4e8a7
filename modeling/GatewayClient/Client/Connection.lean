import GatewayClient.Client.Basic
import GatewayClient.Http.Transport

/-!
# Connections

A client uses a transport. It makes one for itself, which it closes when it is done, or shares one
that someone else made, which it never closes.
-/

set_option autoImplicit false

namespace GatewayClient

/-- A client with its transport. -/
structure Connection (τ : Type) [TimeScale τ] where
  client : Client τ
  transport : Transport τ
  ownsTransport : Bool

namespace Connection

variable {τ : Type} [TimeScale τ]

/-- Connect with a transport of the client's own. -/
def start (client : Client τ) : Except (TimeoutFault τ) (Connection τ) :=
  (Transport.start client.config.timeout).map fun transport =>
    { client, transport, ownsTransport := true }

/-- Connect with a transport that is shared. -/
def share (client : Client τ) (transport : Transport τ) : Connection τ :=
  { client, transport, ownsTransport := false }

/-- The connection when the client is done. -/
def close (c : Connection τ) : Connection τ :=
  if c.ownsTransport then { c with transport := c.transport.close } else c

end Connection
end GatewayClient
