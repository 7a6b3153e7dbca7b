import ArbEngine.Core.Serializer
import ArbEngine.Exchange.Client
import Mathlib.Data.List.DropRight

/-!
# Signed requests to Coinbase (`exchange/src/client.rs`)

A request carries a token that names its method, its host and its path, and is signed with the key
of the client. Parsing a URL, writing JSON and base64, and the arithmetic of the curve are left to
crates; what they answer is a parameter.
-/

namespace ArbEngine

open CanonicalSerializer (serializationError)

/-- `str::trim_start_matches` -/
def trimStartMatches (s : String) (c : Char) : String :=
  String.ofList (s.toList.dropWhile (· == c))

/-- `str::trim_end_matches` -/
def trimEndMatches (s : String) (c : Char) : String :=
  String.ofList (s.toList.rdropWhile (· == c))

/-! ## Crates -/

/-- What is asked of a parsed URL. -/
structure Url where
  hostStr : Option String
  path : String
  query : Option String
deriving DecidableEq, Repr

/-- The path with the query, as it is sent. -/
def Url.pathAndQuery (url : Url) : String :=
  match url.query with
  | some query => url.path ++ "?" ++ query
  | none => url.path

structure CoinbaseJwtHeader where
  alg : String
  typ : String
  kid : String
  nonce : String
deriving DecidableEq, Repr

structure CoinbaseJwtClaims where
  sub : String
  iss : String
  nbf : ℕ
  exp : ℕ
  uri : String
deriving DecidableEq, Repr

/-- The crates behind a token. `sign` has the key in PEM and what is to be signed, and answers the
    two numbers of the signature, or the step that failed with its error. -/
structure CoinbaseCrates where
  parseUrl : String → Except String Url
  headerJson : CoinbaseJwtHeader → Except String (List UInt8)
  claimsJson : CoinbaseJwtClaims → Except String (List UInt8)
  encode : List UInt8 → String
  sign : String → String → Except (String × String) (List UInt8 × List UInt8)

/-- `map_err(|e| ArbError::SerializationError(e.to_string()))?` -/
def orSerializationError {α : Type} : Except String α → Outcome α
  | .ok a => .ok a
  | .error e => .err (serializationError e)

/-! ## The signature -/

/-- The place of the first byte that counts: that of the last one if all are zero. -/
def firstNonZero (coord : List UInt8) : ℕ :=
  (coord.findIdx? (· != 0)).getD (coord.length - 1)

/-- The target with the coordinate at its end. -/
def appendEs256Coord (target coord : List UInt8) : Outcome (List UInt8) :=
  let coord := coord.drop (firstNonZero coord)
  if 32 < coord.length then
    .err (serializationError "Coinbase JWT coordinate is larger than ES256 size")
  else
    .ok (target ++ List.replicate (32 - coord.length) 0 ++ coord)

/-- The two numbers of a signature, one after the other. -/
def rawSignature (r s : List UInt8) : Outcome (List UInt8) := do
  let raw ← appendEs256Coord [] r
  appendEs256Coord raw s

namespace ExchangeClient

def baseUrlHost (client : ExchangeClient) (crates : CoinbaseCrates) : Outcome String := do
  let base ← orSerializationError (crates.parseUrl client.baseUrl)
  Outcome.okOr (serializationError "Exchange base URL missing host") base.hostStr

/-- The token; `keyName` and `secret` are the key of the client, `now` its clock in seconds. -/
def coinbaseJwt (client : ExchangeClient) (crates : CoinbaseCrates) (keyName secret : String)
    (now : ℕ) (nonce method requestPath : String) : Outcome String := do
  let host ← client.baseUrlHost crates
  let uri := client.caseTable.toUppercase method ++ " " ++ host ++ requestPath
  let header ← orSerializationError
    (crates.headerJson { alg := "ES256", typ := "JWT", kid := keyName, nonce := nonce })
  let claims ← orSerializationError
    (crates.claimsJson { sub := keyName, iss := "cdp", nbf := now, exp := now + 120, uri := uri })
  let signingInput := crates.encode header ++ "." ++ crates.encode claims
  match crates.sign (replaceText secret "\\n" "\n") signingInput with
  | .error (step, e) => .err (serializationError ("Coinbase JWT " ++ step ++ ": " ++ e))
  | .ok (r, s) =>
      let raw ← rawSignature r s
      return signingInput ++ "." ++ crates.encode raw

/-! ## The request -/

def coinbaseRequestPath (client : ExchangeClient) (parseUrl : String → Except String Url)
    (endpoint : String) (query : Option String) : Outcome String := do
  let base ← orSerializationError (parseUrl client.baseUrl)
  let basePath := trimEndMatches base.path '/'
  let endpointPath := trimStartMatches endpoint '/'
  let path :=
    if basePath = "" then "/" ++ endpointPath else basePath ++ "/" ++ endpointPath
  match query with
  | some query => return if query = "" then path else path ++ "?" ++ query
  | none => return path

/-- Only a `GET` carries its parameters in the URL. -/
def coinbaseQuery (method params : String) : Option String :=
  if method = "GET" ∧ params ≠ "" then some params else none

/-- The URL of a request. -/
def coinbaseUrl (client : ExchangeClient) (method endpoint params : String) : String :=
  match coinbaseQuery method params with
  | some query => client.baseUrl ++ endpoint ++ "?" ++ query
  | none => client.baseUrl ++ endpoint

end ExchangeClient

/-- A request as it is sent. -/
structure CoinbaseRequest where
  method : String
  url : String
  token : String
  contentType : Option String
  body : Option String
deriving DecidableEq, Repr

/-- `request_builder` -/
def requestBuilder (method : String) : Outcome Unit :=
  if method = "GET" ∨ method = "POST" ∨ method = "DELETE" then .ok ()
  else .err "Invalid type for operation"

namespace ExchangeClient

/-- `coinbase_signed_request`, up to the sending of the request. -/
def coinbaseSignedRequest (client : ExchangeClient) (crates : CoinbaseCrates)
    (keyName secret : String) (now : ℕ) (nonce method endpoint params : String) :
    Outcome CoinbaseRequest := do
  let requestPath ←
    client.coinbaseRequestPath crates.parseUrl endpoint (coinbaseQuery method params)
  let token ← client.coinbaseJwt crates keyName secret now nonce method requestPath
  requestBuilder method
  return { method
           url := client.coinbaseUrl method endpoint params
           token
           contentType := if method = "GET" then none else some "application/json"
           body := if method = "GET" then none else some params }

end ExchangeClient

end ArbEngine
