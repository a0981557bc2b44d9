import FtyDiscovery.Expected

/-! The security wallet as its consumer sees it, and the documents it hands out. -/

namespace FtyDiscovery

open Base

/-- `secw::Snmpv3SecurityLevel`; `max` also stands for a value outside the enumeration. -/
inductive SecurityLevel where
  | noAuthNoPriv
  | authNoPriv
  | authPriv
  | max
  deriving DecidableEq, Repr

inductive AuthProtocol where
  | md5
  | sha
  | max
  deriving DecidableEq, Repr

inductive PrivProtocol where
  | des
  | aes
  | max
  deriving DecidableEq, Repr

structure Snmpv3 where
  securityName : Text
  securityLevel : SecurityLevel
  authProtocol : AuthProtocol
  authPassword : Text
  privProtocol : PrivProtocol
  privPassword : Text
  deriving DecidableEq, Repr

inductive Document where
  | snmpv3 (cred : Snmpv3)
  | snmpv1 (communityName : Text)
  | userAndPassword (username password : Text)
  | unknown
  deriving DecidableEq, Repr

/-- Opening the client socket and fetching a document with its private data can both throw. -/
structure Wallet where
  socket : Except Exn Unit
  document : Text → Except Exn Document

end FtyDiscovery
