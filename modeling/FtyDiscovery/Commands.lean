import FtyDiscovery.Expected

/-! The commands of the channel: their subjects, inputs and outputs, with the values that the
fields are declared with. -/

namespace FtyDiscovery.Commands

open Base

namespace Protocols

def Subject : Text := "protocols".toList

structure In where
  address : Text := []
  deriving DecidableEq, Repr

abbrev Out := List Text

end Protocols

namespace Mibs

def Subject : Text := "mibs".toList

/-- The timeout is in milliseconds. -/
structure In where
  address : Text := []
  port : UInt32 := 161
  credentialId : Text := []
  community : Text := []
  timeout : UInt32 := 1000
  deriving DecidableEq, Repr

abbrev Out := List Text

end Mibs

namespace Assets

def Subject : Text := "assets".toList

structure Settings where
  credentialId : Text := []
  mib : Text := []
  community : Text := []
  timeout : UInt32 := 1000
  username : Text := []
  password : Text := []
  deriving DecidableEq, Repr

structure In where
  address : Text := []
  protocol : Text := []
  port : UInt32 := 0
  settings : Settings := {}
  deriving DecidableEq, Repr

/-- One map of the list `ext`, as `addAssetVal` fills it: the attribute under its key, and
`read_only`. -/
structure Attr where
  key : Text
  val : Text
  readOnly : Bool
  deriving DecidableEq, Repr

structure Asset where
  type : Text := []
  subtype : Text := []
  ext : List Attr := []
  deriving DecidableEq, Repr

structure Return where
  subAddress : Text := "-1".toList
  asset : Asset := {}
  deriving DecidableEq, Repr

abbrev Out := List Return

end Assets

end FtyDiscovery.Commands
