import FtyDiscovery.Expected

/-! Whether a host can be reached. -/

namespace FtyDiscovery

open Base

/-- One address a host resolves to: whether a socket for it opens and connects. -/
structure AddrInfo where
  socket : Bool
  connect : Bool
  deriving DecidableEq, Repr

/-- `getaddrinfo` for datagrams; no value is a failure. -/
structure Resolver where
  getaddrinfo : Text → Option (List AddrInfo)

def httpPrefix : Text := "http://".toList

def checkAddress (address : Text) : Text :=
  if Text.find httpPrefix address = some 0 then address.drop httpPrefix.length else address

def available (resolver : Resolver) (address : Text) : Bool :=
  match resolver.getaddrinfo (cString (checkAddress address)) with
  | none => false
  | some result => result.any (fun rp => rp.socket && rp.connect)

end FtyDiscovery
