import Mathlib.Logic.Basic
import Rsbtd.Transition.Runs

/-!
# Tokens and endpoints in the web UI

`auth.ts` keeps a token for each endpoint identity and `endpoint.ts` the endpoint
itself, both in web storage, part of which other tabs write.  A task of this tab
runs to completion, but another tab may write between any two of its accesses, so
a step is one access to the storage and `Frame` says what remains of the task.
Any access may throw.

`client.ts` looks the token up and then the endpoint; `ws.ts` the endpoint when a
socket is opened and the token when it has opened.  Requests may be sent and sockets
opened at any time, which covers the probes of `connect`, `reconnect` and the
storage listener, and the retries of a client, also after it was disposed.
-/

namespace Rsbtd.WebUi

open Transition (Run)

abbrev Token := String

/-- Origin and path. -/
abbrev Identity := String

structure Url where
  protocol : String
  host : String
  pathname : String
deriving DecidableEq, Repr

namespace Url

def special (url : Url) : Bool :=
  url.protocol ∈ ["http:", "https:", "ws:", "wss:", "ftp:", "file:"]

/-- Of the special schemes, a file has an opaque origin. -/
def origin (url : Url) : String :=
  if url.special = true ∧ url.protocol ≠ "file:" then url.protocol ++ "//" ++ url.host else "null"

def identity (url : Url) : Identity := url.origin ++ url.pathname

/-- Setting the protocol, to other than `file:`, is ignored where it would make the URL special or
not special, and of a file without a host. -/
def setProtocol (url : Url) (protocol : String) : Url :=
  if url.special = { url with protocol }.special ∧ ¬(url.protocol = "file:" ∧ url.host = "") then
    { url with protocol }
  else url

/-- The identity a WebSocket connects to: its origin and path, over HTTP. -/
def socketIdentity (url : Url) : Option Identity :=
  if url.protocol = "wss:" then some { url with protocol := "https:" }.identity
  else if url.protocol = "ws:" then some { url with protocol := "http:" }.identity
  else none

/-- The identity `fetch` connects to. -/
def fetchIdentity (url : Url) : Option Identity :=
  if url.protocol = "https:" ∨ url.protocol = "http:" then some url.identity else none

end Url

/-- What the browser and the build supply. -/
structure Platform where
  /-- `__DEV_GRAPHQL_URL__ ?? '/graphql'`. -/
  DEFAULT_ENDPOINT : String
  trim : String → String
  /-- `new URL(endpoint, window.location.href)`, or none where it throws. -/
  parse : String → Option Url

namespace Platform

/-- `httpEndpoint` over what `getEndpointSetting` found. -/
def httpEndpoint (p : Platform) (setting : Option String) : String :=
  setting.getD p.DEFAULT_ENDPOINT

def endpointIdentity (p : Platform) (setting : Option String) : Identity :=
  match p.parse (p.httpEndpoint setting) with
  | some url => url.identity
  | none => p.httpEndpoint setting

def wsEndpoint (p : Platform) (setting : Option String) : Option Url :=
  (p.parse (p.httpEndpoint setting)).map fun url =>
    url.setProtocol (if url.protocol = "https:" then "wss:" else "ws:")

end Platform

/-- What a token is looked up for. -/
inductive Use where
  | http
  | socket (id : Nat)
deriving DecidableEq, Repr

/-- What remains of the running task. -/
inductive Frame where
  | idle
  /-- `getToken`, before `tokenStorageKey`. -/
  | getToken (use : Use)
  | getSession (use : Use) (key : Identity)
  | getLocal (use : Use) (key : Identity)
  /-- `post`, before `fetch(httpEndpoint())`. -/
  | fetch (key : Identity) (token : Option Token)
  /-- `clearToken`, and the token to set after it. -/
  | clearToken (next : Option (Token × Bool))
  | removeSession (key : Identity) (next : Option (Token × Bool))
  | removeLocal (key : Identity) (next : Option (Token × Bool))
  /-- `setToken`, before the in-memory copy. -/
  | setMemory (token : Token) (remember : Bool)
  | setKey (token : Token) (remember : Bool)
  | setItem (key : Identity) (token : Token) (remember : Bool)
deriving DecidableEq, Repr

structure Socket where
  /-- What its URL connects to. -/
  identity : Identity
  opened : Bool
deriving DecidableEq, Repr

structure Tab where
  /-- The stored endpoint, in local storage. -/
  endpoint : Option String
  localTokens : Identity → Option Token
  sessionTokens : Identity → Option Token
  memoryToken : Option (Identity × Token)
  frame : Frame
  sockets : List Socket
  /-- A history: the tokens stored, and under which identity. -/
  stored : List (Identity × Token)
  /-- A history: the tokens transmitted, and what they were sent to. -/
  sent : List (Identity × Token)

inductive StorageKey where
  | endpoint
  | token (key : Identity)
deriving DecidableEq, Repr

inductive TabAction where
  /-- The next access of the running task, and whether it does not throw. -/
  | run (available : Bool)
  /-- A task sends a request. -/
  | request
  /-- A client opens a socket. -/
  | openSocket (available : Bool)
  /-- A socket has opened, and its `connectionParams` are asked for. -/
  | opened (id : Nat)
  | setEndpointSetting (value : Option String) (available : Bool)
  | setToken (token : Token) (remember : Bool)
  | clearToken
  /-- A storage event, with the key that was written. -/
  | storage (key : Option StorageKey) (available : Bool)
  /-- Another tab rewrites the endpoint, or stores or removes a token. -/
  | foreignEndpoint (value : Option String)
  | foreignToken (key : Identity) (token : Token)
  | foreignRemove (key : Identity)
deriving DecidableEq, Repr

namespace Tab

/-- A page just loaded: the storage holds what was stored before. -/
structure Fresh (t : Tab) : Prop where
  localTokens : ∀ key token, t.localTokens key = some token → (key, token) ∈ t.stored
  sessionTokens : ∀ key token, t.sessionTokens key = some token → (key, token) ∈ t.stored
  memoryToken : t.memoryToken = none
  frame : t.frame = .idle
  sockets : t.sockets = []
  sent : t.sent = []

/-- `getEndpointSetting`. -/
def getEndpointSetting (t : Tab) (available : Bool) : Option String :=
  if available then t.endpoint else none

/-- The current identity, as one read of the endpoint gives it. -/
def identity (p : Platform) (t : Tab) (available : Bool) : Identity :=
  p.endpointIdentity (t.getEndpointSetting available)

def update (tokens : Identity → Option Token) (key : Identity) (value : Option Token) :
    Identity → Option Token :=
  fun other => if other = key then value else tokens other

/-- The in-memory copy, if it is for this key. -/
def fallback (t : Tab) (key : Identity) : Option Token :=
  match t.memoryToken with
  | some (own, token) => if own = key then some token else none
  | none => none

def transmit (t : Tab) (target : Identity) (token : Option Token) : Tab :=
  { t with sent := t.sent ++ (token.map (target, ·)).toList }

/-- What follows `getToken`: a request goes on, `connectionParams` is sent. -/
def gotToken (t : Tab) (use : Use) (key : Identity) (token : Option Token) : Tab :=
  match use with
  | .http => { t with frame := .fetch key token }
  | .socket id =>
    match t.sockets[id]? with
    | some socket => { t.transmit socket.identity token with frame := .idle }
    | none => { t with frame := .idle }

def after : Option (Token × Bool) → Frame
  | none => .idle
  | some (token, remember) => .setMemory token remember

/-- One access of the running task. -/
def run (p : Platform) (t : Tab) (available : Bool) : Option Tab :=
  match t.frame with
  | .idle => none
  | .getToken use => some { t with frame := .getSession use (t.identity p available) }
  | .getSession use key =>
    if available then
      match t.sessionTokens key with
      | some token => some (t.gotToken use key (some token))
      | none => some { t with frame := .getLocal use key }
    else some (t.gotToken use key (t.fallback key))
  | .getLocal use key =>
    if available then
      match t.localTokens key with
      | some token => some (t.gotToken use key (some token))
      | none => some (t.gotToken use key (t.fallback key))
    else some (t.gotToken use key (t.fallback key))
  | .fetch _ token =>
    match (p.parse (p.httpEndpoint (t.getEndpointSetting available))).bind Url.fetchIdentity with
    | some target => some { t.transmit target token with frame := .idle }
    | none => some { t with frame := .idle }
  | .clearToken next =>
    some { t with memoryToken := none, frame := .removeSession (t.identity p available) next }
  | .removeSession key next =>
    if available then
      some { t with
        sessionTokens := update t.sessionTokens key none, frame := .removeLocal key next }
    else some { t with frame := after next }
  | .removeLocal key next =>
    -- the token without a namespace is removed after it, and nothing reads that
    if available then
      some { t with localTokens := update t.localTokens key none, frame := after next }
    else some { t with frame := after next }
  | .setMemory token remember =>
    let key := t.identity p available
    some { t with
      memoryToken := some (key, token)
      stored := t.stored ++ [(key, token)]
      frame := .setKey token remember }
  | .setKey token remember =>
    some { t with frame := .setItem (t.identity p available) token remember }
  | .setItem key token remember =>
    if available then
      let stored := { t with stored := t.stored ++ [(key, token)], frame := .idle }
      if remember then
        some { stored with localTokens := update t.localTokens key (some token) }
      else some { stored with sessionTokens := update t.sessionTokens key (some token) }
    else some { t with frame := .idle }

def setEndpointSetting (p : Platform) (t : Tab) (value : Option String) : Tab :=
  match value with
  | some value =>
    if value ≠ "" ∧ p.trim value ≠ "" ∧ p.trim value ≠ p.DEFAULT_ENDPOINT then
      { t with endpoint := some (p.trim value) }
    else { t with endpoint := none }
  | none => { t with endpoint := none }

/-- Whether the listener of `start` reconnects. -/
def watches (p : Platform) (t : Tab) (key : Option StorageKey) (available : Bool) : Bool :=
  match key with
  | none => true
  | some .endpoint => true
  | some (.token key) => key = t.identity p available

/-- Starts a task. -/
def start (t : Tab) (frame : Frame) : Option Tab :=
  if t.frame = .idle then some { t with frame } else none

def step (p : Platform) (t : Tab) : TabAction → Option Tab
  | .run available => t.run p available
  | .request => t.start (.getToken .http)
  | .openSocket available =>
    if t.frame = .idle then
      match (p.wsEndpoint (t.getEndpointSetting available)).bind Url.socketIdentity with
      | some identity => some { t with sockets := t.sockets ++ [⟨identity, false⟩] }
      | none => some t
    else none
  | .opened id =>
    match t.sockets[id]? with
    | some socket =>
      if socket.opened then none
      else { t with sockets := t.sockets.set id { socket with opened := true } }.start
        (.getToken (.socket id))
    | none => none
  | .setEndpointSetting value available =>
    if t.frame = .idle then some (if available then t.setEndpointSetting p value else t) else none
  | .setToken token remember => t.start (.clearToken (some (token, remember)))
  | .clearToken => t.start (.clearToken none)
  | .storage key available =>
    if t.watches p key available then t.start (.getToken .http) else some t
  | .foreignEndpoint value => some { t with endpoint := value }
  | .foreignToken key token =>
    some { t with
      localTokens := update t.localTokens key (some token)
      stored := t.stored ++ [(key, token)] }
  | .foreignRemove key => some { t with localTokens := update t.localTokens key none }

end Tab

end Rsbtd.WebUi
