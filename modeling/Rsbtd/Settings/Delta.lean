import Rsbtd.Settings.Api

/-!
# An `applySettings` delta on the wire

The input types of the schema: its integers are of any size, and a field with a default may be
left out.  The daemon takes them into the types of its input, and rejects what does not fit.
-/

namespace Rsbtd.Settings

namespace Wire

/-- Takes an integer into a type with the given range. -/
def decodeInt (low high n : Int) : Option Int := if low ≤ n ∧ n ≤ high then some n else none

def decodeU16 (n : Int) : Option UInt16 := (decodeInt 0 65535 n).map fun n => UInt16.ofNat n.toNat

def decodeU8 (n : Int) : Option UInt8 := (decodeInt 0 255 n).map fun n => UInt8.ofNat n.toNat

def decodeI8 (n : Int) : Option Int8 := (decodeInt (-128) 127 n).map Int8.ofInt

def decodeI32 (n : Int) : Option Int32 :=
  (decodeInt (-2147483648) 2147483647 n).map Int32.ofInt

/-- Takes the value of a field that may be left out or null. -/
def decodeField {α β : Type} (decode : α → Option β) :
    MaybeUndefined α → Option (MaybeUndefined β)
  | .undefined => some .undefined
  | .null => some .null
  | .value a => (decode a).map .value

def decodeList {α β : Type} (decode : α → Option β) : List α → Option (List β)
  | [] => some []
  | a :: rest => do
    let b ← decode a
    let others ← decodeList decode rest
    some (b :: others)

abbrev Value : ScalarType → Type
  | .string | .stringChecked => Text
  | .i32 | .i32Checked _ _ | .i32Dscp | .u16 | .u8 => Int
  | .bool => Bool

def decodeScalar : (ty : ScalarType) → Value ty → Option ty.Value
  | .string, value | .stringChecked, value => some value
  | .i32, value | .i32Checked _ _, value | .i32Dscp, value => decodeI32 value
  | .bool, value => some value
  | .u16, value => decodeU16 value
  | .u8, value => decodeU8 value

def decodeScalars :
    (table : List Scalar) → Fields (fun ty => MaybeUndefined (Value ty)) table →
      Option (Fields (fun ty => MaybeUndefined ty.Value) table)
  | [], () => some ()
  | s :: rest, (value, values) => do
    let own ← decodeField (decodeScalar s.ty) value
    let others ← decodeScalars rest values
    some (own, others)

def omittedScalars :
    (table : List Scalar) → Fields (fun ty => MaybeUndefined (Value ty)) table
  | [] => ()
  | _ :: rest => (.undefined, omittedScalars rest)

end Wire

open Wire

structure PortRangeInput where
  first : Int
  last : Int

def PortRangeInput.decode (r : PortRangeInput) : Option PortRange := do
  let first ← decodeU16 r.first
  let last ← decodeU16 r.last
  some ⟨first, last⟩

/-- `ssl` and `local` are false if left out. -/
structure ListenInterfaceInput where
  interface : Text
  port : Int
  ssl : Option Bool
  local_ : Option Bool

def ListenInterfaceInput.decode (e : ListenInterfaceInput) : Option ListenInterface := do
  let port ← decodeU16 e.port
  some ⟨e.interface, port, e.ssl.getD false, e.local_.getD false⟩

structure HostPortInput where
  hostname : Text
  port : Int

def HostPortInput.decode (n : HostPortInput) : Option HostPort := do
  let port ← decodeU16 n.port
  some ⟨n.hostname, port⟩

/-- The credentials are empty and the last two flags false if left out. -/
structure ProxySettingsInput where
  protocol : ProxyProtocol
  hostname : Text
  port : Int
  username : Option Text
  password : Option Text
  resolveHostnames : Bool
  peerConnections : Bool
  trackerConnections : Bool
  socks5UdpSendLocalEndpoint : Option Bool
  sendHostnameInConnect : Option Bool

def ProxySettingsInput.decode (p : ProxySettingsInput) : Option ProxySettings := do
  let port ← decodeU16 p.port
  some {
    protocol := p.protocol
    hostname := p.hostname
    port := port
    username := p.username.getD []
    password := p.password.getD []
    resolveHostnames := p.resolveHostnames
    peerConnections := p.peerConnections
    trackerConnections := p.trackerConnections
    socks5UdpSendLocalEndpoint := p.socks5UdpSendLocalEndpoint.getD false
    sendHostnameInConnect := p.sendHostnameInConnect.getD false }

structure I2pTunnelInput where
  tunnels : Int
  hops : Int
  hopVariance : Int

def I2pTunnelInput.decode (t : I2pTunnelInput) : Option I2pTunnel := do
  let tunnels ← decodeU8 t.tunnels
  let hops ← decodeU8 t.hops
  let hopVariance ← decodeI8 t.hopVariance
  some ⟨tunnels, hops, hopVariance⟩

structure I2pSettingsInput where
  hostname : Text
  port : Int
  allowMixed : Bool
  inbound : I2pTunnelInput
  outbound : I2pTunnelInput

def I2pSettingsInput.decode (c : I2pSettingsInput) : Option I2pSettings := do
  let port ← decodeU16 c.port
  let inbound ← c.inbound.decode
  let outbound ← c.outbound.decode
  some ⟨c.hostname, port, c.allowMixed, inbound, outbound⟩

/-- A delta as a client sends it. -/
structure SettingsDelta where
  scalars : Fields (fun ty => MaybeUndefined (Wire.Value ty)) SCALARS
  userAgent : MaybeUndefined UserAgent
  proxy : MaybeUndefined ProxySettingsInput
  i2p : MaybeUndefined I2pSettingsInput
  encryption : MaybeUndefined EncryptionSettings
  peerTransports : MaybeUndefined PeerTransports
  outgoingPortRange : MaybeUndefined PortRangeInput
  diskIoCache : MaybeUndefined DiskIoCache
  mmapWriteMode : MaybeUndefined MmapWriteMode
  suggestMode : MaybeUndefined SuggestMode
  chokingAlgorithm : MaybeUndefined ChokingAlgorithm
  seedChokingAlgorithm : MaybeUndefined SeedChokingAlgorithm
  mixedModeAlgorithm : MaybeUndefined MixedModeAlgorithm
  outgoingInterfaces : MaybeUndefined (List Text)
  listenInterfaces : MaybeUndefined (List ListenInterfaceInput)
  dhtBootstrapNodes : MaybeUndefined (List HostPortInput)

def SettingsDelta.decode (delta : SettingsDelta) : Option SettingsInput := do
  let scalars ← decodeScalars SCALARS delta.scalars
  let proxy ← decodeField ProxySettingsInput.decode delta.proxy
  let i2p ← decodeField I2pSettingsInput.decode delta.i2p
  let outgoingPortRange ← decodeField PortRangeInput.decode delta.outgoingPortRange
  let listenInterfaces ←
    decodeField (decodeList ListenInterfaceInput.decode) delta.listenInterfaces
  let dhtBootstrapNodes ← decodeField (decodeList HostPortInput.decode) delta.dhtBootstrapNodes
  some {
    scalars, proxy, i2p, outgoingPortRange, listenInterfaces, dhtBootstrapNodes
    userAgent := delta.userAgent
    encryption := delta.encryption
    peerTransports := delta.peerTransports
    diskIoCache := delta.diskIoCache
    mmapWriteMode := delta.mmapWriteMode
    suggestMode := delta.suggestMode
    chokingAlgorithm := delta.chokingAlgorithm
    seedChokingAlgorithm := delta.seedChokingAlgorithm
    mixedModeAlgorithm := delta.mixedModeAlgorithm
    outgoingInterfaces := delta.outgoingInterfaces }

/-- A delta that changes nothing. -/
def SettingsDelta.omitted : SettingsDelta where
  scalars := omittedScalars SCALARS
  userAgent := .undefined
  proxy := .undefined
  i2p := .undefined
  encryption := .undefined
  peerTransports := .undefined
  outgoingPortRange := .undefined
  diskIoCache := .undefined
  mmapWriteMode := .undefined
  suggestMode := .undefined
  chokingAlgorithm := .undefined
  seedChokingAlgorithm := .undefined
  mixedModeAlgorithm := .undefined
  outgoingInterfaces := .undefined
  listenInterfaces := .undefined
  dhtBootstrapNodes := .undefined

end Rsbtd.Settings
