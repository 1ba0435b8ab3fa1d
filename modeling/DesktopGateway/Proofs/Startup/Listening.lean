import DesktopGateway.Proofs.Net.Address
import DesktopGateway.Startup.Launch

/-!
# The addresses to listen on

The address in the settings gets a port behind a colon, for the gateway and for its monitoring page.
An address of four bytes is read back from that in both places. An address of groups is read back
with brackets around it only: without them the gateway itself still finds it, as the name in front
of the last colon, but the monitoring page has no address then and ends the launch.
-/

namespace DesktopGateway.Startup

open DesktopGateway.Net
open DesktopGateway.Net.SocketAddress (written)
open DesktopGateway.Text

theorem listenAddress_eq (settings : Settings) :
    settings.listenAddress = written settings.network.address settings.network.port := rfl

theorem monitoringAddress_eq (settings : Settings) :
    settings.monitoringAddress = written settings.network.address settings.monitoring.port := rfl

theorem port?_toDigits (port : UInt16) :
    Network.port? (Nat.toDigits 10 port.toNat) = some port := by
  have small := port.toNat_lt
  have unsigned : '+' ∉ Nat.toDigits 10 port.toNat := IpAddress.not_mem_toDigits (by decide) _
  unfold Network.port?
  split
  · next rest plus => exact absurd (plus ▸ List.mem_cons_self ..) unsigned
  · dsimp only
    rw [IpAddress.readNumber_toDigits]
    simp [small]

/-- A host in front of a port is found, be it an address with a port or a name with a port. -/
theorem addresses_written (network : Network) {text : String} {host : IpAddress}
    (parsed : IpAddress.ofText? text = some host) (port : UInt16) :
    network.addresses (written text port) = .ok [⟨host, port, 0⟩] := by
  cases host with
  | four octets =>
      rw [Network.addresses, SocketAddress.ofText?_written_four parsed]
  | six groups =>
      have plain : ':' ∉ Nat.toDigits 10 port.toNat := IpAddress.not_mem_toDigits (by decide) _
      rw [Network.addresses, SocketAddress.ofText?_written_six parsed,
        SocketAddress.toList_written, Parts.atLast?_append plain]
      dsimp only
      rw [port?_toDigits]
      dsimp only
      rw [String.ofList_toList, parsed]

theorem openMonitoring_of_none (network : Network) {settings : Settings}
    (enabled : settings.monitoring.enabled = true)
    (unread : SocketAddress.ofText? settings.monitoringAddress = none) (notices : List Notice) :
    (Launch.openMonitoring network settings).run.run notices =
      (.error .monitoringAddress, notices) := by
  rw [Launch.openMonitoring, if_pos enabled, unread]
  rfl

theorem openMonitoring_of_some (network : Network) {settings : Settings} {address : SocketAddress}
    (read : SocketAddress.ofText? settings.monitoringAddress = some address)
    (notices : List Notice) :
    ((Launch.openMonitoring network settings).run.run notices).1 = .ok () := by
  rw [Launch.openMonitoring]
  split
  · rw [read]
    dsimp only
    cases network.listen address <;> rfl
  · rfl

/-- Let a text be the address of a host, and any two ports be set.
* With the text in the settings, the gateway finds just this host with its port to listen on.
* If the host has four bytes, both addresses are read as this host with its port, and the monitoring
  page never ends the launch.
* If it has groups, neither is read as an address with a port, and the monitoring page ends the
  launch if it is wanted.
* With brackets around groups, both are read as this host with its port. -/
theorem addresses_exact {text : String} {host : IpAddress}
    (parsed : IpAddress.ofText? text = some host) (network : Network) (settings : Settings)
    (notices : List Notice) :
    let page := (Launch.openMonitoring network settings).run.run notices
    (settings.network.address = text →
      network.addresses settings.listenAddress = .ok [⟨host, settings.network.port, 0⟩] ∧
        (∀ octets, host = .four octets →
          SocketAddress.ofText? settings.listenAddress =
              some ⟨host, settings.network.port, 0⟩ ∧
            SocketAddress.ofText? settings.monitoringAddress =
              some ⟨host, settings.monitoring.port, 0⟩ ∧
            page.1 = .ok ()) ∧
        (∀ groups, host = .six groups →
          SocketAddress.ofText? settings.listenAddress = none ∧
            SocketAddress.ofText? settings.monitoringAddress = none ∧
            (settings.monitoring.enabled = true →
              page = (.error .monitoringAddress, notices)))) ∧
      (settings.network.address = "[" ++ text ++ "]" → ∀ groups, host = .six groups →
        SocketAddress.ofText? settings.listenAddress = some ⟨host, settings.network.port, 0⟩ ∧
          SocketAddress.ofText? settings.monitoringAddress =
            some ⟨host, settings.monitoring.port, 0⟩ ∧
          page.1 = .ok ()) := by
  constructor
  · rintro rfl
    refine ⟨addresses_written network parsed _, ?_, ?_⟩
    · rintro octets rfl
      have read := SocketAddress.ofText?_written_four parsed
      exact ⟨read _, read _, openMonitoring_of_some network (read _) notices⟩
    · rintro groups rfl
      have unread := SocketAddress.ofText?_written_six parsed
      exact ⟨unread _, unread _, fun enabled =>
        openMonitoring_of_none network enabled (unread _) notices⟩
  · rintro bracketed groups rfl
    have read := SocketAddress.ofText?_written_bracketed parsed
    have page : SocketAddress.ofText? settings.monitoringAddress =
        some ⟨.six groups, settings.monitoring.port, 0⟩ := by
      rw [monitoringAddress_eq, bracketed]
      exact read _
    refine ⟨?_, page, openMonitoring_of_some network page notices⟩
    rw [listenAddress_eq, bracketed]
    exact read _

/-- A network without names that lets every address be listened on. -/
def plainNetwork : Network where
  lookUp _ := .error (.refused .networkUnreachable)
  connect _ := .error (.refused .networkUnreachable)
  listen _ := .ok ()

/-- With the unspecified address of groups the gateway would listen, but the launch ends before. -/
theorem addresses_exact_unspecified :
    let settings : Settings := { network := ⟨"::", 8443⟩, monitoring := ⟨true, 9300⟩ }
    let host : IpAddress := .six [0, 0, 0, 0, 0, 0, 0, 0]
    IpAddress.ofText? "::" = some host ∧
      settings.network.address = "::" ∧
      settings.monitoring.enabled = true ∧
      plainNetwork.addresses settings.listenAddress = .ok [⟨host, 8443, 0⟩] ∧
      SocketAddress.ofText? settings.monitoringAddress = none ∧
      (Launch.openMonitoring plainNetwork settings).run.run [] =
        (.error .monitoringAddress, []) := by
  intro settings host
  have parsed : IpAddress.ofText? "::" = some host := by decide
  have exactly := (addresses_exact parsed plainNetwork settings []).1 rfl
  have unread := exactly.2.2 _ rfl
  exact ⟨parsed, rfl, rfl, exactly.1, unread.2.1, unread.2.2 rfl⟩

end DesktopGateway.Startup
