import FtyDiscovery.Jobs.Protocols

/-! When the probe for SNMP tells what became of its socket. -/

namespace FtyDiscovery.Jobs.SnmpProbe

open Base Protocols Commands.Protocols

def Established (sock : Datagrams) : Prop :=
  sock.connect = .ok () ∨ sock.connect = .error EINPROGRESS ∧ sock.polled = .ready (.ok 0)

def Written (sock : Datagrams) : Prop := ∀ i < 4, sock.write i = 1

def PollFails (sock : Datagrams) : Prop :=
  sock.connect = .error EINPROGRESS ∧ ∃ errno, sock.polled = .failed errno

def Opens (net : Network) (input : In) (sock : Datagrams) : Prop :=
  net.datagrams (cString input.address) "161".toList = .ok sock ∧ sock.socket = .ok ()

/-- A probe that succeeds was connected and wrote all its bytes, and a connection is reported exactly
where there is one. -/
structure Tells (net : Network) (input : In) : Prop where
  probe : (trySnmp net input).result = .ok (.ok ()) → ∃ sock, Opens net input sock ∧ Established sock ∧ Written sock
  connect : ∀ sock, Opens net input sock → ((timeoutConnect sock).1 = .ok () ↔ Established sock)

theorem timeoutConnect_ok_iff (sock : Datagrams) : (timeoutConnect sock).1 = .ok () ↔ ¬PollFails sock := by
  unfold timeoutConnect PollFails
  cases sock.connect with
  | ok => simp
  | error errno =>
    by_cases waits : errno = EINPROGRESS
    · cases sock.polled with
      | ready soError => cases soError <;> simp [waits]
      | timedOut => simp [waits]
      | failed failed => simp [waits]
    · simp [waits]

/-- The last write overwrites what the others came to. -/
theorem trySocket_ok_iff (strerror : Int → Text) (sock : Datagrams) :
    trySocket strerror sock = .ok () ↔ sock.socket = .ok () ∧ ¬PollFails sock ∧ sock.write 3 = 1 := by
  have last : (List.range 4).foldl (fun (_ : Int) i => if sock.write i = 1 then 1 else -1) 1 =
      if sock.write 3 = 1 then 1 else -1 := rfl
  rw [← timeoutConnect_ok_iff, trySocket, last]
  cases sock.socket with
  | error errno => simp
  | ok =>
    rcases timeoutConnect sock with ⟨connected, errno⟩
    cases connected with
    | error failed => simp
    | ok => by_cases taken : sock.write 3 = 1 <;> simp [taken]

theorem trySnmp_ok_iff (net : Network) (input : In) :
    (trySnmp net input).result = .ok (.ok ()) ↔
      ∃ sock, Opens net input sock ∧ ¬PollFails sock ∧ sock.write 3 = 1 := by
  have result : (trySnmp net input).result =
      .ok ((net.datagrams (cString input.address) "161".toList).bind (trySocket net.strerror)) := rfl
  rw [result, Except.ok.injEq]
  unfold Opens
  cases net.datagrams (cString input.address) "161".toList with
  | error failed => simp [Except.bind]
  | ok sock =>
    simp only [Except.bind, trySocket_ok_iff, Except.ok.injEq]
    constructor
    · intro ⟨socket, rest⟩
      exact ⟨sock, ⟨rfl, socket⟩, rest⟩
    · rintro ⟨sock', ⟨rfl, socket⟩, rest⟩
      exact ⟨socket, rest⟩

theorem not_established_of_pollFails {sock : Datagrams} (fails : PollFails sock) : ¬Established sock := by
  obtain ⟨waits, errno, failed⟩ := fails
  unfold Established
  rw [waits, failed]
  simp

/-- The probe tells what became of its socket exactly where the wait for the connection fails, or the
connection came about and no write but the last fails without the last. -/
theorem tells_iff (net : Network) (input : In) :
    Tells net input ↔ ∀ sock, Opens net input sock →
      PollFails sock ∨ Established sock ∧ (sock.write 3 = 1 → Written sock) := by
  constructor
  · intro tells sock opens
    by_cases fails : PollFails sock
    · exact .inl fails
    · right
      have established := (tells.connect sock opens).mp ((timeoutConnect_ok_iff sock).mpr fails)
      refine ⟨established, fun taken => ?_⟩
      obtain ⟨sock', opens', -, written⟩ := tells.probe ((trySnmp_ok_iff net input).mpr ⟨sock, opens, fails, taken⟩)
      obtain rfl : sock' = sock := Except.ok.inj (opens'.1.symm.trans opens.1)
      exact written
  · intro fits
    constructor
    · intro ok
      obtain ⟨sock, opens, lasted, taken⟩ := (trySnmp_ok_iff net input).mp ok
      obtain ⟨established, written⟩ := (fits sock opens).resolve_left lasted
      exact ⟨sock, opens, established, written taken⟩
    · intro sock opens
      rw [timeoutConnect_ok_iff]
      constructor
      · intro lasted
        exact ((fits sock opens).resolve_left lasted).1
      · intro established fails
        exact not_established_of_pollFails fails established

def oneSocket (sock : Datagrams) : Network where
  resolver := ⟨fun _ => some [⟨true, true⟩]⟩
  http _ _ _ := { began := false, code := 0, blocks := [] }
  datagrams _ _ := .ok sock
  strerror _ := "Unknown error".toList
  moves := Vectors.doubling
  parseXml _ := []
  deviceType _ := .error "bad conversion".toList
  serialize _ := .ok "[]".toList

def refusing : Datagrams where
  write i := if i = 1 then -1 else 1

def unreachable : Datagrams where
  connect := .error 101
  write _ := -1

theorem refused_unnoticed :
    (trySnmp (oneSocket refusing) { address := "ups".toList }).result = .ok (.ok ()) ∧ ¬Written refusing ∧
      (timeoutConnect unreachable).1 = .ok () ∧ ¬Established unreachable ∧
      ¬Tells (oneSocket refusing) { address := "ups".toList } ∧
      ¬Tells (oneSocket unreachable) { address := "ups".toList } := by
  have unwritten : ¬Written refusing := by
    intro written
    exact absurd (written 1 (by decide)) (by decide)
  have unconnected : ¬Established unreachable := by
    intro established
    rcases established with done | ⟨waits, -⟩
    · cases done
    · exact absurd (Except.error.inj waits) (by decide)
  refine ⟨rfl, unwritten, rfl, unconnected, ?_, ?_⟩
  · intro tells
    obtain ⟨sock, opens, -, written⟩ := tells.probe rfl
    obtain rfl := Except.ok.inj opens.1
    exact unwritten written
  · intro tells
    exact unconnected ((tells.connect unreachable ⟨rfl, rfl⟩).mp rfl)

end FtyDiscovery.Jobs.SnmpProbe
