import PacketBrowser.Foundation.Base64
import PacketBrowser.Foundation.Decimal
import PacketBrowser.Foundation.Search
import PacketBrowser.Foundation.Utf8

/-!
# Requests and responses on the wire

A byte is `UInt8` and a text is its list of scalar values, so a text is turned
into bytes by UTF-8 wherever the program sends it. Requests are a line, and for
a POST a length and a body; responses are a line of printable ASCII behind the
four magic bytes, and a base64 payload of the announced length.

The decoder answers in three ways: a header, none yet, or a malformed header.
Requests are read back on the server by a separate line reader;
`Request.decode` is the reader of a request that is there as a whole.
-/

namespace PacketBrowser.Protocol

open Foundation

/-- The data of a connection. -/
abbrev Bytes := List UInt8

/-- A text, character by character. -/
abbrev Text := List Char

/-- Bytes of an ASCII literal. -/
def ascii (literal : String) : Bytes := literal.toList.map fun c => c.toNat.toUInt8

/-- Line feed. -/
def lineFeed : UInt8 := 10

/-- Carriage return. -/
def carriageReturn : UInt8 := 13

/-- Errors of encoding and decoding messages. -/
inductive ProtocolError where
  | invalidRequest
  | invalidResponse
  | urlTooLong
  | payloadTooLarge
  deriving DecidableEq, Repr

/-- The text shown for an error. -/
def ProtocolError.display : ProtocolError → Text
  | .invalidRequest => "Invalid request format".toList
  | .invalidResponse => "Invalid response format".toList
  | .urlTooLong => "URL too long".toList
  | .payloadTooLarge => "Payload too large".toList

/-- The name of an error in debug output. -/
def ProtocolError.debug : ProtocolError → Text
  | .invalidRequest => "InvalidRequest".toList
  | .invalidResponse => "InvalidResponse".toList
  | .urlTooLong => "UrlTooLong".toList
  | .payloadTooLarge => "PayloadTooLarge".toList

/-- What a client asks for: a page, with the ETag it has of it, or a form that is sent. -/
inductive Request where
  | get (url : Text) (ifNoneMatch : Option Text)
  | post (url : Text) (body : Bytes)
  deriving DecidableEq, Repr

/-- How a request has ended. -/
inductive Status where
  | ok
  | err
  | blocked
  | notModified
  deriving DecidableEq, Repr

/-- What a server answers. Its maximal age is in seconds, and negative where the page is not to be
kept. -/
structure Response where
  status : Status
  etag : Text
  maxAge : Int32
  payload : Bytes
  deriving DecidableEq

/-- The separator between a URL and the etag the client already has. -/
def ifNoneMatchSentinel : Text := " IF-NONE-MATCH ".toList

/-- A 32-bit length in big-endian order. -/
def toBeBytes (value : UInt32) : Bytes :=
  [(value >>> 24).toUInt8, (value >>> 16).toUInt8, (value >>> 8).toUInt8, value.toUInt8]

/-- Wire form of a request. The announced body length wraps at 32 bits. -/
def Request.encode : Request → Bytes
  | .get url none => ascii "GET " ++ Utf8.encode url ++ [lineFeed]
  | .get url (some etag) =>
    ascii "GET " ++ Utf8.encode url ++ ascii " IF-NONE-MATCH " ++ Utf8.encode etag ++ [lineFeed]
  | .post url body =>
    ascii "POST " ++ Utf8.encode url ++ [lineFeed] ++ toBeBytes (UInt32.ofNat body.length) ++ body

/-- The number behind bytes in big-endian order. -/
def fromBeBytes (bytes : Bytes) : Nat := bytes.foldl (fun value b => value * 256 + b.toNat) 0

/-- A request line behind `GET `. -/
def decodeGetLine (line : Text) : Request :=
  match Search.splitOnce ifNoneMatchSentinel line with
  | some (url, etag) => .get url (some etag)
  | none => .get line none

/-- Read a request back from its complete wire form. -/
def Request.decode (data : Bytes) : Except ProtocolError Request :=
  if data = [] then .error .invalidRequest
  else if (ascii "GET ").isPrefixOf data then
    match (data.drop 4).findIdx? (· == lineFeed) with
    | none => .error .invalidRequest
    | some lineEnd =>
      match Utf8.decode ((data.drop 4).take lineEnd) with
      | none => .error .invalidRequest
      | some line => .ok (decodeGetLine line)
  else if (ascii "POST ").isPrefixOf data then
    match (data.drop 5).findIdx? (· == lineFeed) with
    | none => .error .invalidRequest
    | some urlEnd =>
      match Utf8.decode ((data.drop 5).take urlEnd) with
      | none => .error .invalidRequest
      | some url =>
        let behind := data.drop (5 + urlEnd + 1)
        if behind.length < 4 then .error .invalidRequest
        else
          let bodyLen := fromBeBytes (behind.take 4)
          if behind.length < 4 + bodyLen then .error .invalidRequest
          else .ok (.post url ((behind.drop 4).take bodyLen))
  else .error .invalidRequest

/-- The bytes that start every response frame. -/
def Response.magic : Bytes := ascii "RESP"

/-- The byte of a status in a frame. -/
def Status.digit : Status → UInt8
  | .ok => 48
  | .err => 49
  | .blocked => 50
  | .notModified => 51

/-- Status of a digit on the wire. -/
def statusOfDigit : UInt8 → Option Status
  | 48 => some .ok
  | 49 => some .err
  | 50 => some .blocked
  | 51 => some .notModified
  | _ => none

/-- Wire form of a response. -/
def Response.encode (response : Response) : Bytes :=
  let encodedPayload := Base64.encode response.payload
  Response.magic ++ [response.status.digit, 32] ++
    Utf8.encode (Decimal.printNat encodedPayload.length) ++ [32] ++
    Utf8.encode response.etag ++ [32] ++
    Utf8.encode (Decimal.printInt response.maxAge.toInt) ++ [lineFeed] ++
    encodedPayload ++ [lineFeed]

/-- What `decodeHeader` finds: the fields of the header line and the offset of
the first payload byte. -/
structure Header where
  status : Status
  payloadLen : UInt32
  etag : Text
  maxAge : Int32
  headerEnd : Nat
  deriving DecidableEq, Repr

/-- A byte of the base64url alphabet. -/
def etagByte (b : UInt8) : Bool :=
  (48 ≤ b && b ≤ 57) || (65 ≤ b && b ≤ 90) || (97 ≤ b && b ≤ 122) || b == 45 || b == 95

/-- An etag is a dash or sixteen base64url bytes. -/
def validEtag (etag : Text) : Bool :=
  etag == ['-'] || ((Utf8.encode etag).length == 16 && (Utf8.encode etag).all etagByte)

/-- The three fields of a header line, separated by single spaces. -/
def decodeFields (status : Status) (headerEnd : Nat) (line : Text) :
    Except ProtocolError Header :=
  match line.splitOn ' ' with
  | lenStr :: etag :: more =>
    if ¬ validEtag etag then .error .invalidResponse
    else match more with
      | [maxAgeStr] =>
        match Decimal.parseUnsigned UInt32.size lenStr with
        | none => .error .invalidResponse
        | some payloadLen =>
          match Decimal.parseSigned 2147483648 maxAgeStr with
          | none => .error .invalidResponse
          | some maxAge => .ok ⟨status, UInt32.ofNat payloadLen, etag, Int32.ofInt maxAge, headerEnd⟩
      | _ => .error .invalidResponse
  | _ => .error .invalidResponse

/-- The header line ends at a line feed, or at the carriage return a telnet
driver made of it. -/
def lineEnd (b : UInt8) : Bool := b == lineFeed || b == carriageReturn

/-- What stands behind the magic bytes, at offset `afterMagic`: a status digit, a
space, and the fields up to the end of the line. -/
def decodeAfterMagic (afterMagic : Nat) : Bytes → Except ProtocolError (Option Header)
  | digit :: space :: fields =>
    match statusOfDigit digit with
    | none => .error .invalidResponse
    | some status =>
      if space ≠ 32 then .error .invalidResponse
      else match fields.findIdx? lineEnd with
        | none => .ok none
        | some nlOffset =>
          match Utf8.decode (fields.take nlOffset) with
          | none => .error .invalidResponse
          | some headerLine =>
            (decodeFields status (afterMagic + 2 + nlOffset + 1) headerLine).map some
  | _ => .ok none

/-- Look for the first frame in the data received so far. -/
def decodeHeader (data : Bytes) : Except ProtocolError (Option Header) :=
  match Search.position Response.magic data with
  | none => .ok none
  | some magicPos =>
    let afterMagic := magicPos + Response.magic.length
    decodeAfterMagic afterMagic (data.drop afterMagic)

/-- Payload bytes of base64 text. -/
def decodePayload (base64Bytes : Bytes) : Except ProtocolError Bytes :=
  match Base64.decode base64Bytes with
  | some payload => .ok payload
  | none => .error .invalidResponse

end PacketBrowser.Protocol
