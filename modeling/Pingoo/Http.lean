import Pingoo.Library.FieldMap
import Pingoo.Text

namespace Pingoo

/-!
# HTTP messages

The parts of an HTTP message that the services and the listener read and write:
methods, header maps, request targets and responses.
-/

/-- A request method. -/
inductive Method where
  | get
  | head
  | post
  | put
  | delete
  | options
  | connect
  | trace
  | patch
  | extension (name : Str)
  deriving Repr, DecidableEq

/-- `http::Version`. -/
inductive Version where
  | http09
  | http10
  | http11
  | http2
  | http3
  deriving Repr, DecidableEq

/-- `http::StatusCode`. -/
abbrev StatusCode := Nat

namespace StatusCode

def ok : StatusCode := 200
def notModified : StatusCode := 304
def forbidden : StatusCode := 403
def notFound : StatusCode := 404
def methodNotAllowed : StatusCode := 405
def tooManyRequests : StatusCode := 429
def internalServerError : StatusCode := 500
def badGateway : StatusCode := 502
def serviceUnavailable : StatusCode := 503

end StatusCode

/-- What a header name is made of after normalization. -/
def isHeaderNameChar (character : Char) : Bool :=
  character.isLower || character.isDigit ||
    "!#$%&'*+-.^_`|~".toList.contains character

/-- A header name, in lower case. -/
structure HeaderName where
  text : Str
  nonempty : text ≠ []
  valid : ∀ character ∈ text, isHeaderNameChar character = true
  deriving DecidableEq

namespace HeaderName

/-- A header name is looked up by its text in lower case. -/
def parse (text : Str) : Option HeaderName :=
  let lowered := text.map Char.toLower
  if valid :
      lowered ≠ [] ∧
        ∀ character ∈ lowered, isHeaderNameChar character = true then
    some ⟨lowered, valid.1, valid.2⟩
  else
    none

def cacheControl : HeaderName :=
  ⟨"cache-control".toList, by decide, by decide⟩

def contentLength : HeaderName :=
  ⟨"content-length".toList, by decide, by decide⟩

def contentType : HeaderName :=
  ⟨"content-type".toList, by decide, by decide⟩

def cookie : HeaderName :=
  ⟨"cookie".toList, by decide, by decide⟩

def etag : HeaderName :=
  ⟨"etag".toList, by decide, by decide⟩

def host : HeaderName :=
  ⟨"host".toList, by decide, by decide⟩

def ifNoneMatch : HeaderName :=
  ⟨"if-none-match".toList, by decide, by decide⟩

def server : HeaderName :=
  ⟨"server".toList, by decide, by decide⟩

def setCookie : HeaderName :=
  ⟨"set-cookie".toList, by decide, by decide⟩

def userAgent : HeaderName :=
  ⟨"user-agent".toList, by decide, by decide⟩

end HeaderName

/-- Visible ASCII, or a tab: what `HeaderValue::to_str` lets through. -/
def isVisibleAscii (character : Char) : Bool :=
  (32 ≤ character.toNat && character.toNat < 127) || character == '\t'

/-- A byte that may stand in a header value. -/
def isHeaderValueByte (byte : UInt8) : Bool :=
  (32 ≤ byte && byte != 127) || byte == 9

/-- A header value. -/
structure HeaderValue where
  bytes : Bytes
  valid : ∀ byte ∈ bytes, isHeaderValueByte byte = true
  deriving DecidableEq

namespace HeaderValue

/-- `HeaderValue::from_str`. -/
def fromStr (text : Str) : Option HeaderValue :=
  if valid : ∀ byte ∈ text.asBytes, isHeaderValueByte byte = true then
    some ⟨text.asBytes, valid⟩
  else
    none

/-- `HeaderValue::to_str`: the text of a value that is visible ASCII. -/
def toStr (value : HeaderValue) : Option Str :=
  let text := value.bytes.map Char.ofUInt8
  if text.all isVisibleAscii then some text else none

end HeaderValue

/-- `http::HeaderMap`. -/
abbrev HeaderMap := FieldMap HeaderName HeaderValue

/-- The path and the query of a request target. -/
structure PathAndQuery where
  rawPath : Str
  query : Option Str
  deriving Repr, DecidableEq

namespace PathAndQuery

def path (target : PathAndQuery) : Str :=
  if target.rawPath = [] then ['/'] else target.rawPath

def asStr (target : PathAndQuery) : Str :=
  let text :=
    match target.query with
    | none => target.rawPath
    | some query => target.rawPath ++ '?' :: query
  if text = [] then ['/'] else text

end PathAndQuery

/-- A request target.  The host of an authority is visible ASCII. -/
structure Uri where
  host : Option Str
  pathAndQuery : Option PathAndQuery
  hostVisible :
    ∀ name ∈ host, ∀ character ∈ name, isVisibleAscii character = true
  deriving DecidableEq

/-- `Uri::path`. -/
def Uri.path (uri : Uri) : Str :=
  match uri.pathAndQuery with
  | none => []
  | some target => target.path

/-- The body of a response: its bytes, or a file that is streamed. -/
inductive Body where
  | full (data : Bytes)
  | stream (path : Str)
  deriving Repr, DecidableEq

structure Response where
  status : StatusCode
  headers : HeaderMap
  body : Body
  deriving DecidableEq

/-- The parts of a response under construction; `none` after an error. -/
structure ResponseBuilder where
  parts : Option (StatusCode × HeaderMap)
  deriving DecidableEq

/-- `Response::builder`. -/
def Response.builder : ResponseBuilder where
  parts :=
    some (StatusCode.ok, ∅)

namespace ResponseBuilder

def status (builder : ResponseBuilder) (code : StatusCode) :
    ResponseBuilder where
  parts :=
    builder.parts.map fun parts => (code, parts.2)

/-- Add a header; `none` stands for a text that is no header value. -/
def header
    (builder : ResponseBuilder)
    (name : HeaderName)
    (value : Option HeaderValue) : ResponseBuilder where
  parts :=
    match builder.parts, value with
    | some (code, headers), some value =>
        some (code, headers.append name value)
    | _, _ => none

/-- Finish the response, or report the error met on the way. -/
def body (builder : ResponseBuilder) (content : Body) : Option Response :=
  builder.parts.map fun parts => {
    status := parts.1
    headers := parts.2
    body := content
  }

end ResponseBuilder

section VisibleText

/-- The number of a visible character fits in one byte, and may stand there. -/
private theorem toNat_of_isVisibleAscii
    {character : Char}
    (visible : isVisibleAscii character = true) :
    character.toNat < 127 ∧
      (32 ≤ character.toNat ∨ character.toNat = 9) := by
  simp only [isVisibleAscii, Bool.or_eq_true, Bool.and_eq_true,
    decide_eq_true_eq, beq_iff_eq] at visible
  rcases visible with range | isTab
  · omega
  · simp [isTab]

/-- A visible character is encoded as one byte. -/
theorem utf8EncodeChar_of_isVisibleAscii
    {character : Char}
    (visible : isVisibleAscii character = true) :
    String.utf8EncodeChar character = [character.toNat.toUInt8] := by
  have range := toNat_of_isVisibleAscii visible
  have small : character.val.toNat ≤ 127 :=
    Nat.le_of_lt range.1
  rw [String.utf8EncodeChar]
  exact if_pos small

/-- The encoding of a visible text is its characters, one byte each. -/
theorem asBytes_of_isVisibleAscii
    {text : Str}
    (visible : ∀ character ∈ text, isVisibleAscii character = true) :
    text.asBytes = text.map fun character => character.toNat.toUInt8 := by
  induction text with
  | nil =>
      rfl
  | cons character rest inductionHypothesis =>
      have split :
          Str.asBytes (character :: rest) =
            String.utf8EncodeChar character ++ Str.asBytes rest :=
        rfl
      rw [split, inductionHypothesis fun other member =>
          visible other (List.mem_cons_of_mem character member),
        utf8EncodeChar_of_isVisibleAscii
          (visible character List.mem_cons_self)]
      rfl

/-- A visible text is read back from its bytes. -/
theorem map_ofUInt8_asBytes
    {text : Str}
    (visible : ∀ character ∈ text, isVisibleAscii character = true) :
    text.asBytes.map Char.ofUInt8 = text := by
  rw [asBytes_of_isVisibleAscii visible, List.map_map]
  conv_rhs => rw [← List.map_id text]
  apply List.map_congr_left
  intro character inText
  have range := toNat_of_isVisibleAscii (visible character inText)
  have same : character.toNat.toUInt8.toNat = character.toNat := by
    simp only [UInt8.toNat_ofNat']
    omega
  exact Char.ext (UInt32.toNat_inj.mp same)

/-- A visible text is a header value, and is read back from it. -/
theorem HeaderValue.fromStr_of_isVisibleAscii
    {text : Str}
    (visible : ∀ character ∈ text, isVisibleAscii character = true) :
    ∃ value,
      HeaderValue.fromStr text = some value ∧
      value.toStr = some text := by
  have valid : ∀ byte ∈ text.asBytes, isHeaderValueByte byte = true := by
    intro byte member
    rw [asBytes_of_isVisibleAscii visible] at member
    obtain ⟨character, inText, rfl⟩ := List.mem_map.mp member
    have range := toNat_of_isVisibleAscii (visible character inText)
    simp only [isHeaderValueByte, Bool.or_eq_true, Bool.and_eq_true,
      decide_eq_true_eq, bne_iff_ne, beq_iff_eq, UInt8.le_iff_toNat_le, ne_eq,
      ← UInt8.toNat_inj]
    simp only [UInt8.toNat_ofNat', UInt8.reduceToNat]
    omega
  refine ⟨⟨text.asBytes, valid⟩, dif_pos valid, ?_⟩
  simp only [HeaderValue.toStr, map_ofUInt8_asBytes visible,
    List.all_eq_true.mpr visible, if_true]

/-- What is read from a header value is visible. -/
theorem HeaderValue.isVisibleAscii_of_toStr
    {value : HeaderValue}
    {text : Str}
    (read : value.toStr = some text) :
    ∀ character ∈ text, isVisibleAscii character = true := by
  unfold HeaderValue.toStr at read
  dsimp only at read
  split at read
  · next visible =>
      cases read
      exact List.all_eq_true.mp visible
  · cases read

/-- A visible character that is no white space. -/
structure IsGraphic (character : Char) : Prop where
  large : 33 ≤ character.toNat
  small : character.toNat < 127

theorem IsGraphic.isVisibleAscii
    {character : Char}
    (graphic : IsGraphic character) :
    isVisibleAscii character = true := by
  simp only [Pingoo.isVisibleAscii, Bool.or_eq_true, Bool.and_eq_true,
    decide_eq_true_eq]
  exact Or.inl ⟨graphic.large.trans' (by decide), graphic.small⟩

/-- A letter or a digit is graphic. -/
theorem isGraphic_of_isAlphanum
    {character : Char}
    (plain : character.isAlphanum = true) : IsGraphic character := by
  rw [isAlphanum_iff, isUpper_iff_toNat, isLower_iff_toNat,
    Char.isDigit_iff_toNat] at plain
  have ofRange :
      ∀ {low high : Nat},
        low ≤ character.toNat ∧ character.toNat ≤ high →
        33 ≤ low → high < 127 → IsGraphic character := by
    intro low high range large small
    exact ⟨by omega, by omega⟩
  rcases plain with (upper | lower) | digit
  · exact ofRange upper (by decide) (by decide)
  · exact ofRange lower (by decide) (by decide)
  · exact ofRange digit (by decide) (by decide)

theorem isVisibleAscii_of_isAlphanum
    {character : Char}
    (plain : character.isAlphanum = true) :
    isVisibleAscii character = true :=
  (isGraphic_of_isAlphanum plain).isVisibleAscii

theorem IsGraphic.isWhitespace_eq_false
    {character : Char}
    (graphic : IsGraphic character) :
    Str.isWhitespace character = false := by
  have large := graphic.large
  have small := graphic.small
  simp only [Str.isWhitespace, Bool.or_eq_false_iff, beq_eq_false_iff_ne,
    Bool.and_eq_false_iff, decide_eq_false_iff_not]
  omega

/-- There is nothing to trim from a text of graphic characters. -/
theorem trim_of_isGraphic
    {text : Str}
    (solid : ∀ character ∈ text, IsGraphic character) :
    text.trim = text :=
  Str.trim_eq_self fun character member =>
    (solid character member).isWhitespace_eq_false

/-- A header value with a visible text. -/
def HeaderValue.ofVisible
    (text : Str)
    (visible : ∀ character ∈ text, isVisibleAscii character = true) :
    HeaderValue :=
  (HeaderValue.fromStr text).get
    (Option.isSome_iff_exists.mpr
      ((HeaderValue.fromStr_of_isVisibleAscii visible).imp
        fun _ found => found.1))

/-- The text of such a header value is read back. -/
theorem HeaderValue.toStr_ofVisible
    {text : Str}
    (visible : ∀ character ∈ text, isVisibleAscii character = true) :
    (HeaderValue.ofVisible text visible).toStr = some text := by
  obtain ⟨value, made, read⟩ := HeaderValue.fromStr_of_isVisibleAscii visible
  simp only [HeaderValue.ofVisible, made, Option.get_some]
  exact read

end VisibleText

end Pingoo
