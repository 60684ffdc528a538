import Rsbtd.Verified.SettingsGroups

/-!
# Lists of endpoints and the outgoing port range

What a setter accepts is what its getter returns, whatever the pack held before.
-/

namespace Rsbtd.Settings

open Rsbtd.Keyed

variable {d e : SettingsPack}

theorem listenInterfaces_parsed {endpoints : List Lt.ListenEndpoint}
    (accepted : Lt.listenInterfaces endpoints d = .ok () e) :
    Lt.getListenInterfacesParsed e = some endpoints := by
  simp (disch := decide) only [Lt.listenInterfaces, bind_eq_ok, check_eq_ok, Lt.setStr_ok, and_assoc,
    exists_eq_left, exists_and_left, exists_unit, forM_ok] at accepted
  obtain ⟨tokens, rfl⟩ := accepted
  rw [Lt.getListenInterfacesParsed, getStr_set_self, Option.bind_some,
    parseEntries_endpoints tokens]

theorem outgoingInterfaces_read {entries : List Text}
    (accepted : Lt.outgoingInterfaces entries d = .ok () e) :
    readOutgoingInterfaces e = .ok entries := by
  simp (disch := decide) only [Lt.outgoingInterfaces, bind_eq_ok, check_eq_ok, Lt.setStr_ok, and_assoc,
    exists_eq_left, exists_and_left, exists_unit, forM_ok] at accepted
  obtain ⟨tokens, rfl⟩ := accepted
  exact readOutgoingInterfaces_join tokens getStr_set_self

theorem dhtBootstrapNodes_parsed {nodes : List Lt.HostPort}
    (accepted : Lt.dhtBootstrapNodes nodes d = .ok () e) :
    Lt.getDhtBootstrapNodesParsed e = some nodes := by
  simp (disch := decide) only [Lt.dhtBootstrapNodes, bind_eq_ok, check_eq_ok, Lt.setStr_ok, and_assoc,
    exists_eq_left, exists_and_left, exists_unit, forM_ok] at accepted
  obtain ⟨tokens, rfl⟩ := accepted
  rw [Lt.getDhtBootstrapNodesParsed, getStr_set_self, Option.bind_some, parseEntries_nodes tokens]

/-- The getter reads the two keys the setter sets. -/
theorem getOutgoingPorts_set (first count : Int32) :
    Lt.getOutgoingPorts ((d.set .outgoingPort (.int first)).set .numOutgoingPorts (.int count)) =
      Lt.getOutgoingPorts (portsPack first count) := by
  simp [Lt.getOutgoingPorts, portsPack]

theorem outgoingPorts_get {range : Option (UInt16 × UInt16)}
    (accepted : Lt.outgoingPorts range d = .ok () e) : Lt.getOutgoingPorts e = some range := by
  cases range with
  | none =>
    simp (disch := decide) only [Lt.outgoingPorts, bind_eq_ok, Lt.setInt_ok, exists_eq_left,
      exists_unit] at accepted
    rw [accepted, getOutgoingPorts_set]
    simp [Lt.getOutgoingPorts, portsPack]
  | some range =>
    obtain ⟨first, last⟩ := range
    simp (disch := decide) only [Lt.outgoingPorts, bind_eq_ok, check_eq_ok, reject_ok, Lt.setInt_ok,
      and_assoc, exists_eq_left, exists_and_left, exists_unit] at accepted
    obtain ⟨started, ordered, rfl⟩ := accepted
    rw [getOutgoingPorts_set]
    exact getOutgoingPorts_pack (r := ⟨first, last⟩) started ordered

/-- Every list and every range a setter accepts is read back as it was given. -/
theorem endpoint_lists_round_trip (d e : SettingsPack) :
    (∀ endpoints, Lt.listenInterfaces endpoints d = .ok () e →
      Lt.getListenInterfacesParsed e = some endpoints) ∧
    (∀ entries, Lt.outgoingInterfaces entries d = .ok () e →
      readOutgoingInterfaces e = .ok entries) ∧
    (∀ nodes, Lt.dhtBootstrapNodes nodes d = .ok () e →
      Lt.getDhtBootstrapNodesParsed e = some nodes) ∧
    ∀ range, Lt.outgoingPorts range d = .ok () e → Lt.getOutgoingPorts e = some range := by
  refine ⟨?_, ?_, ?_, ?_⟩
  · exact fun _ => listenInterfaces_parsed
  · exact fun _ => outgoingInterfaces_read
  · exact fun _ => dhtBootstrapNodes_parsed
  · exact fun _ => outgoingPorts_get

section Scoped

def scopedEndpoints : List Lt.ListenEndpoint :=
  [⟨"[fe80::1%a:b]".toList, 6881, true, true⟩, ⟨"eth0".toList, 0, false, false⟩,
    ⟨"[fe80::1%a:b]".toList, 6881, true, true⟩]

def scopedInterfaces : List Text := ["fe80::1%a:b".toList, "eth0".toList, "fe80::1%a:b".toList]

def scopedNodes : List Lt.HostPort :=
  [⟨"[::1%x%y]".toList, ⟨1, by decide⟩⟩, ⟨"h".toList, ⟨2, by decide⟩⟩]

theorem endpoint_lists_round_trip_scoped : ∃ e f g h : SettingsPack,
    Lt.getListenInterfacesParsed e = some scopedEndpoints ∧
    readOutgoingInterfaces f = .ok scopedInterfaces ∧
    Lt.getDhtBootstrapNodesParsed g = some scopedNodes ∧
    Lt.getOutgoingPorts h = some (some (65535, 65535)) := by
  have listen : ∃ e, Lt.listenInterfaces scopedEndpoints .empty = .ok () e := ⟨_, rfl⟩
  have outgoing : ∃ e, Lt.outgoingInterfaces scopedInterfaces .empty = .ok () e := ⟨_, rfl⟩
  have nodes : ∃ e, Lt.dhtBootstrapNodes scopedNodes .empty = .ok () e := ⟨_, rfl⟩
  have ports : ∃ e, Lt.outgoingPorts (some (65535, 65535)) .empty = .ok () e := ⟨_, rfl⟩
  obtain ⟨e, listen⟩ := listen
  obtain ⟨f, outgoing⟩ := outgoing
  obtain ⟨g, nodes⟩ := nodes
  obtain ⟨h, ports⟩ := ports
  exact ⟨e, f, g, h, (endpoint_lists_round_trip _ e).1 _ listen,
    (endpoint_lists_round_trip _ f).2.1 _ outgoing,
    (endpoint_lists_round_trip _ g).2.2.1 _ nodes,
    (endpoint_lists_round_trip _ h).2.2.2 _ ports⟩

end Scoped

end Rsbtd.Settings
