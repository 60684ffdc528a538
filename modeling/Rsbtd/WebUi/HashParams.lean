import Rsbtd.Text.FormData
import Rsbtd.WebUi.Units

/-!
# Parameters in the hash

`applyHashParams` of `hashParams.ts`, with what it stores by `endpoint.ts` and `auth.ts`.  The
hash is what follows the `#`; it is ASCII, as the fragments of URLs are.  Web storage is
available, and tokens without an endpoint are left out.
-/

namespace Rsbtd.WebUi

open FormData

/-- What the browser and the build supply. -/
structure Browser (U : Type) where
  utf8 : Utf8
  /-- `__DEV_GRAPHQL_URL__ ?? '/graphql'`. -/
  DEFAULT_ENDPOINT : JsString
  /-- `new URL(raw, window.location.href)`, or none where it throws. -/
  parse : JsString → Option U
  origin : U → JsString
  pathname : U → JsString
  setPathname : U → JsString → U
  toString : U → JsString
  /-- URLs are written without white space around them. -/
  trim_toString : ∀ url, trim (toString url) = toString url
  toString_ne_nil : ∀ url, toString url ≠ []

structure HashState where
  hash : Bytes
  /-- The stored endpoint. -/
  endpoint : Option JsString
  localTokens : JsString → Option JsString
  sessionTokens : JsString → Option JsString
  memoryToken : Option (JsString × JsString)

section

variable {U : Type} (browser : Browser U)

/-- A URL without a path is the daemon itself; the API lives on /graphql. -/
def normalizeEndpoint (raw : JsString) : JsString :=
  match browser.parse raw with
  | none => raw
  | some url =>
    if browser.pathname url = [] ∨ browser.pathname url = js "/" then
      browser.toString (browser.setPathname url (js "/graphql"))
    else browser.toString url

namespace HashState

def httpEndpoint (s : HashState) : JsString := s.endpoint.getD browser.DEFAULT_ENDPOINT

def endpointIdentity (s : HashState) : JsString :=
  match browser.parse (s.httpEndpoint browser) with
  | some url => browser.origin url ++ browser.pathname url
  | none => s.httpEndpoint browser

def getToken (s : HashState) : Option JsString :=
  match (s.sessionTokens (s.endpointIdentity browser)).or
    (s.localTokens (s.endpointIdentity browser)) with
  | some stored => some stored
  | none =>
    (s.memoryToken.filter fun memory => memory.1 = s.endpointIdentity browser).map (·.2)

def setEndpointSetting (s : HashState) (value : JsString) : HashState :=
  if value ≠ [] ∧ trim value ≠ [] ∧ trim value ≠ browser.DEFAULT_ENDPOINT then
    { s with endpoint := some (trim value) }
  else { s with endpoint := none }

/-- `setToken(token, false)`, which clears the tokens of the endpoint first. -/
def setToken (s : HashState) (token : JsString) : HashState where
  hash := s.hash
  endpoint := s.endpoint
  localTokens key := if key = s.endpointIdentity browser then none else s.localTokens key
  sessionTokens key :=
    if key = s.endpointIdentity browser then some token else s.sessionTokens key
  memoryToken := some (s.endpointIdentity browser, token)

def storeUrl (s : HashState) (url : Option JsString) : HashState :=
  match url with
  | none => s
  | some url =>
    if trim url ≠ [] then s.setEndpointSetting browser (normalizeEndpoint browser (trim url)) else s

def storeToken (s : HashState) (token : Option JsString) : HashState :=
  match token with
  | none => s
  | some token => if token ≠ [] then s.setToken browser token else s

end HashState

/-- The route and the query. -/
def splitHash (hash : Bytes) : Bytes × Bytes :=
  match hash.idxOf? (byte '?') with
  | some queryStart => (hash.take queryStart, hash.drop (queryStart + 1))
  | none => if hash.head? = some (byte '/') then (hash, []) else ([], hash)

/-- The parameters without those that are consumed. -/
def withoutConsumed (params : List (JsString × JsString)) : List (JsString × JsString) :=
  (params.filter fun param => param.1 ≠ js "url").filter fun param => param.1 ≠ js "token"

/-- The route, with the parameters that are left. -/
def restoredHash (route rest : Bytes) : Bytes := route ++ if rest ≠ [] then byte '?' :: rest else []

/-- The part of `applyHashParams` behind the query. -/
def applyQuery (s : HashState) (route query : Bytes) : HashState :=
  let params := searchParams browser.utf8 query
  let url := params.lookup (js "url")
  let token := params.lookup (js "token")
  if url = none ∧ token = none then s
  else
    { (s.storeUrl browser url).storeToken browser token with
      hash := restoredHash route (serialize browser.utf8 (withoutConsumed params)) }

def applyHashParams (s : HashState) : HashState :=
  if s.hash = [] then s
  else if (splitHash s.hash).2 = [] then s
  else applyQuery browser s (splitHash s.hash).1 (splitHash s.hash).2

end

end Rsbtd.WebUi
