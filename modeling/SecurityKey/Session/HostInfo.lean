import SecurityKey.Message.Catalogue

/-!
# Host information

Who asks for a secret: the application, the user and the host, and the text that the
device shows while it signs.  The texts that a derivation is bound to are made of these.
-/

set_option autoImplicit false

namespace SecurityKey

/-- The application name when none is set. -/
def defaultApp : String := "macer"

/-- Who a secret is derived for. -/
structure HostInfo where
  app : String
  user : String
  host : String
  /-- The text that the device shows. -/
  message : String
  deriving DecidableEq, Repr

namespace HostInfo

/-- The identity that the device is asked for. -/
def identity (info : HostInfo) : Identity := ⟨info.app, info.user, info.host⟩

/-- The text that the device signs. -/
def challenge (info : HostInfo) : String := info.app ++ "_luks_drive"

/-- The locator of the peer key, whose digest is the derivation path. -/
def peerLocator (info : HostInfo) : String :=
  info.app ++ "_peerkey://" ++ info.user ++ "@" ++ info.host

end HostInfo

end SecurityKey
