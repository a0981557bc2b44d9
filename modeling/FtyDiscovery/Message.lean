import FtyDiscovery.Expected

/-! The message of the discovery channel and its form on the bus. -/

namespace FtyDiscovery

open Base

inductive Status where
  | ok
  | error
  deriving DecidableEq, Repr

def Status.write : Status → Text
  | .ok => "ok".toList
  | .error => "ko".toList

/-- The word `ss >> str` extracts. -/
def word (text : Text) : Text :=
  (text.dropWhile Text.isSpace).takeWhile (fun c => !Text.isSpace c)

/-- `operator>>`: an unknown word leaves the status as it was. -/
def Status.read (text : Text) (status : Status) : Status :=
  if word text = "ok".toList then .ok
  else if word text = "ko".toList then .error
  else status

theorem Status.read_write (status previous : Status) : Status.read status.write previous = status := by
  cases status <;> cases previous <;> decide

/-- `Message::Meta`; its `from` and `to` are `fromName` and `toName`. -/
structure Meta where
  replyTo : Text := []
  fromName : Text := []
  toName : Text := []
  subject : Text := []
  status : Status := .ok
  timeout : Text := []
  correlationId : Text := []
  deriving DecidableEq, Repr

structure Message where
  userData : Text := []
  metaData : Meta := {}
  deriving DecidableEq, Repr

inductive MetaKey where
  | to
  | from
  | replyTo
  | subject
  | timeout
  | correlationId
  | status
  deriving DecidableEq, Repr

/-- `messagebus::Message`: its metadata map and its frames. -/
structure BusMessage where
  metaData : MetaKey → Option Text
  userData : List Text

def value (map : MetaKey → Option Text) (key : MetaKey) (default : Text := []) : Text :=
  (map key).getD default

def Message.ofBus (msg : BusMessage) : Message where
  userData := msg.userData.headD []
  metaData :=
    { toName := value msg.metaData .to
      fromName := value msg.metaData .from
      replyTo := value msg.metaData .replyTo
      subject := value msg.metaData .subject
      timeout := value msg.metaData .timeout
      correlationId := value msg.metaData .correlationId
      status := Status.read (value msg.metaData .status "ok".toList) .ok }

def Message.toMessageBus (msg : Message) : BusMessage where
  userData := [msg.userData]
  metaData
    | .to => some msg.metaData.toName
    | .from => some msg.metaData.fromName
    | .replyTo => some msg.metaData.replyTo
    | .subject => some msg.metaData.subject
    | .timeout => some msg.metaData.timeout
    | .correlationId => some msg.metaData.correlationId
    | .status => some msg.metaData.status.write

theorem Message.ofBus_toMessageBus (msg : Message) : Message.ofBus msg.toMessageBus = msg := by
  rcases msg with ⟨userData, metaData⟩
  simp [Message.ofBus, Message.toMessageBus, value, Status.read_write]

end FtyDiscovery
