import Pingoo.Geoip

namespace Pingoo

/-!
# HTTP utilities

What all HTTP services share: the context the listener attaches to a request,
the path that rules and routes see, and the error responses.
-/

/-- `CACHE_CONTROL_NO_CACHE`. -/
def cacheControlNoCache : HeaderValue where
  bytes :=
    Str.asBytes "private, no-cache, no-store, must-revalidate".toList
  valid := by
    decide

/-- `CACHE_CONTROL_DYNAMIC`. -/
def cacheControlDynamic : HeaderValue where
  bytes :=
    Str.asBytes "public, no-cache, must-revalidate".toList
  valid := by
    decide

/-- `USER_AGENT_MAX_LENGTH`. -/
def userAgentMaxLength : Nat :=
  256

/-- `HOSTNAME_MAX_LENGTH`. -/
def hostnameMaxLength : Nat :=
  256

/--
What the listener knows about a request besides its content.  The host is read
from visible text, so it is visible text.
-/
structure RequestContext where
  clientAddress : SocketAddr
  serverAddress : SocketAddr
  asn : UInt32
  country : CountryCode
  geoipEnabled : Bool
  tls : Bool
  host : HeaplessString hostnameMaxLength
  hostVisible : ∀ character ∈ host.text, isVisibleAscii character = true
  deriving DecidableEq

/-- A request.  `extension` holds the `RequestExtensionContext`. -/
structure Request where
  method : Method
  uri : Uri
  version : Version
  headers : HeaderMap
  extension : Option RequestContext
  body : Bytes
  deriving DecidableEq

/-- A request for a path that says nothing else. -/
def Request.ofPath (method : Method) (path : Str) : Request where
  method :=
    method
  uri := {
    host := none
    pathAndQuery := some ⟨path, none⟩
    hostVisible := by
      simp
  }
  version :=
    .http11
  headers :=
    ∅
  extension :=
    none
  body :=
    []

/-- The path of a request as rules and routes see it. -/
def getPath (req : Request) : Str :=
  req.uri.path.trimEndMatches '/'

/-- A response that is only a status and a text. -/
def errorResponse (status : StatusCode) (message : String) : Response where
  status :=
    status
  headers :=
    (∅ : HeaderMap).append .cacheControl cacheControlNoCache
  body :=
    .full (Str.asBytes message.toList)

def newInternalErrorResponse500 : Response :=
  errorResponse .internalServerError "500 Internal Server Error"

def newBadGatewayError : Response :=
  errorResponse .badGateway "502 Bad Gateway"

def newServiceUnavailableError503 : Response :=
  errorResponse .serviceUnavailable "503 Service Unavailable"

def newNotFoundError : Response :=
  errorResponse .notFound "404 Not Found."

def newBlockedResponse : Response :=
  errorResponse .forbidden "Permission Denied"

def newMethodNotAllowedError : Response :=
  errorResponse .methodNotAllowed "405 Method Not Allowed"

def newTooManyRequestsResponse429 : Response :=
  errorResponse .tooManyRequests "429 Too Many Requests"

end Pingoo
