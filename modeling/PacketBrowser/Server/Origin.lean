import PacketBrowser.Protocol.Message
import PacketBrowser.Foundation.Text

/-!
# The probe of the origin

While the browser loads a page, its origin is asked for the header lines of the same URL,
through the proxy of the browser. What they say about caching becomes one number: how many
seconds the client may keep the page, zero if it has to ask each time, and a negative number
if it may not keep the page at all.

HTTP dates and the HTTP client come from libraries and are parameters.
-/

namespace PacketBrowser.Server

open Protocol Foundation

/-- The age of a page without useful directives, and the greatest one that is granted. -/
structure CcDefaults where
  defaultMaxAge : Int32
  maxMaxAge : Int32
  deriving DecidableEq

section Directives

/-- The directive that forbids storing. -/
def noStore : Text := "no-store".toList

/-- The directive that allows only the browser to store. -/
def privately : Text := "private".toList

/-- The directive that asks to be asked again. -/
def noCache : Text := "no-cache".toList

/-- What stands in front of an age for shared caches. -/
def sMaxageKey : Text := "s-maxage=".toList

/-- What stands in front of an age. -/
def maxAgeKey : Text := "max-age=".toList

/-- The number behind the first of the tokens that start like this, as an `i64`. -/
def findSeconds (key : Text) (tokens : List Text) : Option Int :=
  (tokens.findSome? (Text.stripPrefix key)).bind (Decimal.parseSigned 9223372036854775808)

/-- The seconds from zero to the cap. `Ord::clamp` panics if there are none. -/
def clampSeconds (secs : Int) (cap : Int32) : Option Int32 :=
  if 0 ≤ cap.toInt then some (Int32.ofInt (max 0 (min secs cap.toInt))) else none

/-- The age a `Cache-Control` header grants; none for a panic. -/
def parseDirectives (cc : Text) (defaults : CcDefaults) : Option Int32 :=
  let tokens := ((Text.toAsciiLowercase cc).splitOn ',').map Text.trim
  if tokens.any fun token => token == noStore || token == privately then some (-1)
  else if tokens.any fun token => token == noCache then some 0
  else
    match (findSeconds sMaxageKey tokens).or (findSeconds maxAgeKey tokens) with
    | some secs => clampSeconds secs defaults.maxMaxAge
    | none => some defaults.defaultMaxAge

variable (parseHttpDate : Text → Option UInt64)

/-- The age that the dates grant. The casts are those of the code: the cap is extended to 64
bits with its sign, the result cut to 32. -/
def parseDates (expires date : Option Text) (defaults : CcDefaults) : Int32 :=
  match expires.bind parseHttpDate, date.bind parseHttpDate with
  | some expTs, some dtTs =>
    if dtTs ≤ expTs then
      (min (expTs - dtTs) defaults.maxMaxAge.toInt64.toUInt64).toUInt32.toInt32
    else defaults.defaultMaxAge
  | _, _ => defaults.defaultMaxAge

/-- The age that the header lines of an origin grant; none for a panic. -/
def parseCacheControl (cc expires date : Option Text) (defaults : CcDefaults) : Option Int32 :=
  match cc with
  | some cc => parseDirectives cc defaults
  | none => some (parseDates parseHttpDate expires date defaults)

end Directives

section Probe

/-- A header line as it was sent. -/
structure HeaderLine where
  name : Text
  value : Bytes
  deriving DecidableEq

/-- The line is one of that name; names are compared in lower case. -/
def HeaderLine.called (name : Text) (line : HeaderLine) : Bool :=
  Text.toAsciiLowercase line.name == name

/-- The header of directives. -/
def cacheControlName : Text := "cache-control".toList

/-- The header of the date when a page is stale. -/
def expiresName : Text := "expires".toList

/-- The header of the date when it was sent. -/
def dateName : Text := "date".toList

/-- The value of the first line of a name. -/
def getHeader (headers : List HeaderLine) (name : Text) : Option Bytes :=
  (headers.find? (HeaderLine.called name)).map HeaderLine.value

/-- A visible ASCII character or a tab. -/
def visibleByte (b : UInt8) : Bool := (32 ≤ b && b < 127) || b == 9

/-- A character for each byte. -/
def characters (value : Bytes) : Text := value.map fun b => Char.ofNat b.toNat

/-- `HeaderValue::to_str`: the text of a visible value. -/
def toStr (value : Bytes) : Option Text :=
  if value.all visibleByte then some (characters value) else none

/-- What the origin answers to a probe. -/
structure OriginResponse where
  status : Nat
  headers : List HeaderLine

/-- Success or redirection. -/
def OriginResponse.accepted (response : OriginResponse) : Bool :=
  decide (200 ≤ response.status) && decide (response.status < 400)

/-- How requests to the origin end; none for an error. -/
structure HttpClient where
  head : Text → Option OriginResponse
  get : Text → Option OriginResponse

/-- What the probe finds: the port of the proxy, if one runs, whether the URL of a proxy is
one, and the client for a proxy and a timeout. -/
structure Network where
  currentProxyPort : Option UInt16
  proxy : Text → Bool
  client : Text → Nat → Option HttpClient

/-- The part of the configuration the probe reads. -/
structure ProbeConfig where
  originCcHeadTimeoutMs : Nat
  defaultMaxAgeSeconds : Int32
  maxMaxAgeSeconds : Int32
  deriving DecidableEq

/-- The ages of the configuration. -/
def ProbeConfig.defaults (config : ProbeConfig) : CcDefaults :=
  ⟨config.defaultMaxAgeSeconds, config.maxMaxAgeSeconds⟩

/-- The address of the proxy. -/
def proxyUrl (port : UInt16) : Text := "http://127.0.0.1:".toList ++ Decimal.printNat port.toNat

/-- The header lines of the origin. A HEAD that is not allowed is repeated as a GET. -/
def HttpClient.headersOf (client : HttpClient) (url : Text) : Option (List HeaderLine) :=
  match client.head url with
  | none => none
  | some response =>
    if response.accepted then some response.headers
    else if response.status = 405 then
      ((client.get url).filter OriginResponse.accepted).map OriginResponse.headers
    else none

variable (parseHttpDate : Text → Option UInt64)

/-- The age that header lines grant. -/
def ageOf (headers : List HeaderLine) (defaults : CcDefaults) : Option Int32 :=
  parseCacheControl parseHttpDate ((getHeader headers cacheControlName).bind toStr)
    ((getHeader headers expiresName).bind toStr) ((getHeader headers dateName).bind toStr) defaults

/-- The client of the probe, if there is a proxy to send its requests through. -/
def Network.probeClient (network : Network) (config : ProbeConfig) : Option HttpClient :=
  match network.currentProxyPort with
  | none => none
  | some port =>
    if network.proxy (proxyUrl port) then
      network.client (proxyUrl port) config.originCcHeadTimeoutMs
    else none

/-- The age to announce for a URL; none for a panic. -/
def probeOriginCc (network : Network) (url : Text) (config : ProbeConfig) : Option Int32 :=
  match (network.probeClient config).bind fun client => client.headersOf url with
  | none => some config.defaultMaxAgeSeconds
  | some headers => ageOf parseHttpDate headers config.defaults

end Probe

end PacketBrowser.Server
