import Rsbtd.Text.Str

/-!
# Bearer tokens

The daemon keeps the digest of its token and compares digests.  `digest` stands for
SHA-256, and headers are what `HeaderValue::to_str` gives, so a value that is not
visible ASCII is `none`.
-/

namespace Rsbtd.Api

variable {δ : Type*} [DecidableEq δ] (digest : Text → δ)

structure Auth (δ : Type*) where
  /-- The digest of the configured token; without one the API is open. -/
  tokenHash : Option δ

namespace Auth

def new (token : Option Text) : Auth δ := ⟨token.map digest⟩

def checkToken (auth : Auth δ) (token : Text) : Bool :=
  match auth.tokenHash with
  | none => true
  | some expected => digest token = expected

def bearer : Text := "Bearer ".toList

def checkAuthorization (auth : Auth δ) (header : Option Text) : Bool :=
  if auth.tokenHash.isNone then true
  else
    match header with
    | none => false
    | some value =>
      match Text.stripStart bearer value with
      | none => false
      | some token => auth.checkToken digest token

end Auth

inductive Method where
  | get | post | other
deriving DecidableEq, Repr

/-- What the handlers of `/graphql` read of a request. -/
structure Request where
  method : Method
  upgrade : Option Text
  authorization : Option Text
  /-- A subprotocol that the server speaks is offered. -/
  protocol : Bool
  /-- The other headers of a WebSocket handshake are there. -/
  handshake : Bool
deriving DecidableEq, Repr

def Request.isWsUpgrade (request : Request) : Bool :=
  request.method = .get && request.upgrade.any (Text.eqIgnoreAsciiCase · "websocket".toList)

/-- Whether the middleware lets a request through. -/
def requireBearer (auth : Auth δ) (request : Request) : Bool :=
  request.isWsUpgrade || auth.checkAuthorization digest request.authorization

/-! ## What is accepted -/

variable {digest} {token secret : Text} {auth : Auth δ} {header : Option Text}

/-- A request that is not a WebSocket upgrade needs the header. -/
theorem requireBearer_of_post {request : Request} (post : request.method = .post) :
    requireBearer digest auth request = auth.checkAuthorization digest request.authorization := by
  simp [requireBearer, Request.isWsUpgrade, post]

end Rsbtd.Api
