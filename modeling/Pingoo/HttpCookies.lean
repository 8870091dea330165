import Pingoo.HttpPipeline
import Pingoo.Library.Separated

namespace Pingoo

/-!
# The cookies of a request

A client may send its cookies in one `cookie` field or in several.  The handler
parses the first field only, so it sees the same cookies in both forms exactly
when there was at most one field to begin with.
-/

open Interaction

/-- A character of the name of a cookie: one of a token. -/
def isTokenChar (character : Char) : Bool :=
  isHeaderNameChar character || character.isUpper

/-- A character of the value of a cookie. -/
def isCookieOctet (character : Char) : Bool :=
  33 ≤ character.toNat && character.toNat < 127 &&
    !"\",;\\".toList.contains character

/-- A cookie that can be sent. -/
structure Cookie.IsPair (cookie : Cookie) : Prop where
  nameNonempty : cookie.name ≠ []
  name : ∀ character ∈ cookie.name, isTokenChar character = true
  value :
    ∃ octets : Str,
      (∀ character ∈ octets, isCookieOctet character = true) ∧
      (cookie.value = octets ∨ cookie.value = '"' :: (octets ++ ['"']))

/-- A cookie as it is sent. -/
def Cookie.pair (cookie : Cookie) : Str :=
  cookie.name ++ '=' :: cookie.value

/-- What separates the cookies of a field. -/
def cookieSeparator : Str :=
  "; ".toList

/-- Cookies as they are sent in one field. -/
def cookieText (cookies : List Cookie) : Str :=
  cookieSeparator.intercalate (cookies.map Cookie.pair)

/-- The cookies of a valid cookie string. -/
structure CookieString where
  cookies : List Cookie
  nonempty : cookies ≠ []
  pairs : ∀ cookie ∈ cookies, cookie.IsPair

/-- What `Cookie::split_parse` reads from cookies as they are sent. -/
structure ReadsCookies
    (splitParse : Str → List (Except Unit Cookie)) : Prop where
  pairs :
    ∀ cookies : List Cookie,
      (∀ cookie ∈ cookies, cookie.IsPair) →
      splitParse (cookieText cookies) = cookies.map Except.ok

section Texts

/-- Visible, and neither white space nor a semicolon. -/
structure IsPairChar (character : Char) : Prop extends IsGraphic character where
  notSemicolon : character ≠ ';'

/-- No character of a name ends the name or the pair. -/
theorem isPairChar_of_isTokenChar
    {character : Char}
    (token : isTokenChar character = true) :
    IsPairChar character ∧ character ≠ '=' := by
  simp only [isTokenChar, isHeaderNameChar, Bool.or_eq_true,
    List.contains_iff_mem, isLower_iff_toNat, Char.isDigit_iff_toNat,
    isUpper_iff_toNat] at token
  have ofRange :
      ∀ {low high : Nat},
        low ≤ character.toNat ∧ character.toNat ≤ high →
        33 ≤ low → high < 127 → (high < 59 ∨ 61 < low) →
        IsPairChar character ∧ character ≠ '=' := by
    intro low high range large small outside
    have notSemicolon : character.toNat ≠ 59 := by
      omega
    have notEquals : character.toNat ≠ 61 := by
      omega
    exact ⟨⟨⟨by omega, by omega⟩, ne_of_apply_ne Char.toNat notSemicolon⟩,
      ne_of_apply_ne Char.toNat notEquals⟩
  rcases token with ((lower | digit) | symbol) | upper
  · exact ofRange lower (by decide) (by decide) (by decide)
  · exact ofRange digit (by decide) (by decide) (by decide)
  · have symbols :
        ∀ one ∈ "!#$%&'*+-.^_`|~".toList,
          33 ≤ one.toNat ∧ one.toNat < 127 ∧ one ≠ ';' ∧ one ≠ '=' := by
      decide
    obtain ⟨large, small, notSemicolon, notEquals⟩ := symbols _ symbol
    exact ⟨⟨⟨large, small⟩, notSemicolon⟩, notEquals⟩
  · exact ofRange upper (by decide) (by decide) (by decide)

theorem isPairChar_of_isCookieOctet
    {character : Char}
    (octet : isCookieOctet character = true) : IsPairChar character := by
  simp only [isCookieOctet, Bool.and_eq_true, decide_eq_true_eq,
    Bool.not_eq_true', List.contains_eq_mem] at octet
  obtain ⟨⟨large, small⟩, other⟩ := octet
  refine ⟨⟨large, small⟩, ?_⟩
  rintro rfl
  revert other
  decide

/-- A pair is visible text without white space and semicolons. -/
theorem Cookie.IsPair.isPairChar
    {cookie : Cookie}
    (isPair : cookie.IsPair) :
    ∀ character ∈ cookie.pair, IsPairChar character := by
  intro character member
  have ofQuote : IsPairChar '"' :=
    ⟨⟨by decide, by decide⟩, by decide⟩
  simp only [Cookie.pair, List.mem_append, List.mem_cons] at member
  rcases member with inName | rfl | inValue
  · exact (isPairChar_of_isTokenChar (isPair.name character inName)).1
  · exact ⟨⟨by decide, by decide⟩, by decide⟩
  · obtain ⟨octets, valid, same | quoted⟩ := isPair.value
    · rw [same] at inValue
      exact isPairChar_of_isCookieOctet (valid character inValue)
    · simp only [quoted, List.mem_cons, List.mem_append, List.not_mem_nil,
        or_false] at inValue
      rcases inValue with rfl | inOctets | rfl
      · exact ofQuote
      · exact isPairChar_of_isCookieOctet (valid character inOctets)
      · exact ofQuote

/-- Cookies are sent as visible text. -/
theorem isVisibleAscii_cookieText
    {cookies : List Cookie}
    (pairs : ∀ cookie ∈ cookies, cookie.IsPair) :
    ∀ character ∈ cookieText cookies, isVisibleAscii character = true := by
  have ofSeparator :
      ∀ character ∈ cookieSeparator, isVisibleAscii character = true := by
    decide
  intro character member
  rcases Str.mem_intercalate member with inSeparator | ⟨part, inParts, inPart⟩
  · exact ofSeparator character inSeparator
  · obtain ⟨cookie, inCookies, rfl⟩ := List.mem_map.mp inParts
    exact ((pairs cookie inCookies).isPairChar character inPart).isVisibleAscii

end Texts

section Fields

/-- The field that consists of a cookie string. -/
def CookieString.field (string : CookieString) : HeaderValue :=
  .ofVisible (cookieText string.cookies)
    (isVisibleAscii_cookieText string.pairs)

/-- The cookies of several strings. -/
def cookiesOf (strings : List CookieString) : List Cookie :=
  (strings.map CookieString.cookies).flatten

theorem isPair_cookiesOf (strings : List CookieString) :
    ∀ cookie ∈ cookiesOf strings, cookie.IsPair := by
  intro cookie member
  obtain ⟨cookies, inStrings, inCookies⟩ := List.mem_flatten.mp member
  obtain ⟨string, _, rfl⟩ := List.mem_map.mp inStrings
  exact string.pairs cookie inCookies

/-- Several cookie strings in one text. -/
def joinedText (strings : List CookieString) : Str :=
  cookieSeparator.intercalate
    (strings.map fun string => cookieText string.cookies)

/-- Joined cookie strings are the cookies of all of them. -/
theorem joinedText_eq (strings : List CookieString) :
    joinedText strings = cookieText (cookiesOf strings) := by
  have nonempty :
      ∀ group ∈ strings.map fun string => string.cookies.map Cookie.pair,
        group ≠ [] := by
    intro group member
    obtain ⟨string, _, rfl⟩ := List.mem_map.mp member
    simpa using string.nonempty
  have joined :=
    Separated.intercalate_map_intercalate cookieSeparator nonempty
  rw [List.map_map] at joined
  rw [cookieText, cookiesOf, List.map_flatten, List.map_map]
  exact joined

/-- The one field that joins several cookie strings. -/
def joinedField (strings : List CookieString) : HeaderValue :=
  .ofVisible (joinedText strings) (by
    rw [joinedText_eq]
    exact isVisibleAscii_cookieText (isPair_cookiesOf strings))

/-- A request that carries its cookies in some fields, and no others. -/
def Request.withCookieFields
    (req : Request)
    (fields : List HeaderValue) : Request :=
  { req with
    headers := (req.headers.remove .cookie).appendAll .cookie fields }

@[simp] theorem getAll_withCookieFields
    (req : Request)
    (fields : List HeaderValue) :
    (req.withCookieFields fields).headers.getAll .cookie = fields := by
  simp [Request.withCookieFields]

/-- Other fields are not changed. -/
@[simp] theorem getAll_withCookieFields_of_ne
    (req : Request)
    (fields : List HeaderValue)
    {name : HeaderName}
    (different : name ≠ .cookie) :
    (req.withCookieFields fields).headers.getAll name =
      req.headers.getAll name := by
  simp [Request.withCookieFields, different]

@[simp] theorem getHost_withCookieFields
    (req : Request)
    (fields : List HeaderValue) :
    getHost (req.withCookieFields fields) = getHost req := by
  have notCookie : HeaderName.host ≠ .cookie := by
    decide
  have sameUri : (req.withCookieFields fields).uri = req.uri :=
    rfl
  rw [getHost, sameUri, FieldMap.get,
    getAll_withCookieFields_of_ne req fields notCookie]
  rfl

@[simp] theorem getUserAgent_withCookieFields
    (req : Request)
    (fields : List HeaderValue) :
    getUserAgent (req.withCookieFields fields) = getUserAgent req := by
  have notCookie : HeaderName.userAgent ≠ .cookie := by
    decide
  rw [getUserAgent, FieldMap.get,
    getAll_withCookieFields_of_ne req fields notCookie]
  rfl

end Fields

section Parsing

variable {splitParse : Str → List (Except Unit Cookie)}

/-- A field with a text that is read as some cookies. -/
theorem parseCookies_of_head
    (reads : ReadsCookies splitParse)
    {req : Request}
    {field : HeaderValue}
    {cookies : List Cookie}
    (first : req.headers.get .cookie = some field)
    (read : field.toStr = some (cookieText cookies))
    (pairs : ∀ cookie ∈ cookies, cookie.IsPair) :
    parseCookies splitParse req = cookies := by
  have allOk :
      (cookies.map (Except.ok (ε := Unit))).filterMap Except.toOption =
        cookies := by
    rw [List.filterMap_map]
    exact List.filterMap_some
  rw [parseCookies_of_first first read, reads.pairs cookies pairs]
  exact allOk

/-- Of several fields the first one is parsed. -/
theorem parseCookies_separate
    (reads : ReadsCookies splitParse)
    (req : Request)
    (strings : List CookieString) :
    parseCookies splitParse
        (req.withCookieFields (strings.map CookieString.field)) =
      cookiesOf strings.head?.toList := by
  cases strings with
  | nil =>
      have noField :
          (req.withCookieFields []).headers.get .cookie = none := by
        simp [FieldMap.get]
      simp [parseCookies, noField, cookiesOf]
  | cons string rest =>
      have first :
          (req.withCookieFields
            ((string :: rest).map CookieString.field)).headers.get .cookie =
              some string.field := by
        simp [FieldMap.get]
      rw [parseCookies_of_head reads first (HeaderValue.toStr_ofVisible _)
        string.pairs]
      simp [cookiesOf]

/-- All cookies are parsed when they are in one field. -/
theorem parseCookies_joined
    (reads : ReadsCookies splitParse)
    (req : Request)
    (strings : List CookieString) :
    parseCookies splitParse (req.withCookieFields [joinedField strings]) =
      cookiesOf strings := by
  have first :
      (req.withCookieFields [joinedField strings]).headers.get .cookie =
        some (joinedField strings) := by
    simp [FieldMap.get]
  have read :
      (joinedField strings).toStr = some (cookieText (cookiesOf strings)) := by
    rw [← joinedText_eq]
    exact HeaderValue.toStr_ofVisible _
  exact parseCookies_of_head reads first read (isPair_cookiesOf strings)

end Parsing

section Response

variable {Expression Context Value : Type}
variable {language : ExpressionLanguage Expression Context Value}
variable {splitParse : Str → List (Except Unit Cookie)}
variable {captchaPage : Response} {sha256 : Sha256}
variable {oracle : ListenerOracle Expression}

/-- An environment that does not look at the cookie fields of a request. -/
structure IgnoresCookieFields
    (oracle : ListenerOracle Expression) : Prop where
  service :
    ∀ log service (req : Request) fields others,
      oracle log (.handle service (req.withCookieFields fields)) =
        oracle log (.handle service (req.withCookieFields others))
  captcha :
    ∀ log (req : Request) cookies clientId fields others,
      oracle log
          (.serveCaptchaRequest (req.withCookieFields fields) cookies
            clientId) =
        oracle log
          (.serveCaptchaRequest (req.withCookieFields others) cookies clientId)

/-- The same service is found, and its response is the same. -/
theorem run_routeRequest_withCookieFields
    (ignores : IgnoresCookieFields oracle)
    (log : List (ListenerQuery Expression))
    (rulesCtx : Context)
    (req : Request)
    (fields others : List HeaderValue)
    (services : List (HttpService Expression)) :
    ((routeRequest language rulesCtx (req.withCookieFields fields)
        services).run oracle log).1 =
      ((routeRequest language rulesCtx (req.withCookieFields others)
        services).run oracle log).1 := by
  induction services with
  | nil =>
      rfl
  | cons service rest inductionHypothesis =>
      rw [routeRequest, routeRequest]
      split
      · exact ignores.service log service req fields others
      · exact inductionHypothesis

/-- The rules do not see the fields, and then a service handles the request. -/
theorem run_applyRulesAndRoute_withCookieFields
    (ignores : IgnoresCookieFields oracle)
    (log : List (ListenerQuery Expression))
    (listener : HttpListener Expression Value)
    (client : SocketAddr)
    (rulesCtx : Context)
    (captchaVerified : Bool)
    (req : Request)
    (fields others : List HeaderValue) :
    ((applyRulesAndRoute language captchaPage listener client rulesCtx
        captchaVerified (req.withCookieFields fields)).run oracle log).1 =
      ((applyRulesAndRoute language captchaPage listener client rulesCtx
        captchaVerified (req.withCookieFields others)).run oracle log).1 := by
  rw [applyRulesAndRoute, applyRulesAndRoute, Program.run_bind,
    Program.run_bind]
  split
  · rfl
  · exact run_routeRequest_withCookieFields ignores _ rulesCtx req fields
      others listener.services

/-- Two requests with the same cookies get the same response. -/
theorem run_serveHttpRequest_withCookieFields
    (ignores : IgnoresCookieFields oracle)
    (listener : HttpListener Expression Value)
    (client : SocketAddr)
    {req : Request}
    {fields others : List HeaderValue}
    (same :
      parseCookies splitParse (req.withCookieFields fields) =
        parseCookies splitParse (req.withCookieFields others)) :
    ((serveHttpRequest language splitParse captchaPage sha256 listener client
        (req.withCookieFields fields)).run oracle []).1 =
      ((serveHttpRequest language splitParse captchaPage sha256 listener client
        (req.withCookieFields others)).run oracle []).1 := by
  have sameContext :
      ∀ record carried,
        rulesContext language listener client record
            (req.withCookieFields carried) =
          rulesContext language listener client record req := by
    intro record carried
    simp only [rulesContext, getHost_withCookieFields,
      getUserAgent_withCookieFields]
    rfl
  have sameExtension :
      ∀ record carried,
        requestContext listener client record
            (req.withCookieFields carried) =
          requestContext listener client record req := by
    intro record carried
    simp only [requestContext, getHost_withCookieFields]
  have samePath :
      ∀ carried, getPath (req.withCookieFields carried) = getPath req :=
    fun _ => rfl
  simp only [serveHttpRequest, Program.run_bind, same, sameContext,
    sameExtension, samePath, getHost_withCookieFields,
    getUserAgent_withCookieFields]
  generalize (clientGeoipRecord listener.geoip client.ip).run oracle [] =
    lookedUp
  obtain ⟨record, log⟩ := lookedUp
  let handed : Request :=
    { req with
      extension := some (requestContext listener client record req) }
  split
  · rfl
  · split
    · exact ignores.captcha log handed _ _ fields others
    · split
      · rw [Program.run_bind, Program.run_bind]
        split
        · exact run_applyRulesAndRoute_withCookieFields ignores _ listener
            client _ true handed fields others
        · rfl
      · exact run_applyRulesAndRoute_withCookieFields ignores log listener
          client _ false handed fields others

end Response

section Forms

variable {Expression Context Value : Type}
variable (language : ExpressionLanguage Expression Context Value)
variable (splitParse : Str → List (Except Unit Cookie))
variable (captchaPage : Response) (sha256 : Sha256)

/-- The cookie the handler finds under a name. -/
def findCookie (req : Request) (name : Str) : Option Cookie :=
  (parseCookies splitParse req).find? fun cookie => cookie.name = name

/-- A cookie string has a cookie with a name. -/
def CookieString.Names (string : CookieString) (name : Str) : Prop :=
  ∃ cookie ∈ string.cookies, cookie.name = name

/--
Two requests are handled alike: with the same cookies, the same cookie under
each name, and the same response in every environment that does not look at the
cookie fields itself.
-/
structure HandledAlike (separate joined : Request) : Prop where
  cookies : parseCookies splitParse separate = parseCookies splitParse joined
  found :
    ∀ name,
      findCookie splitParse separate name = findCookie splitParse joined name
  response :
    ∀ (listener : HttpListener Expression Value) (client : SocketAddr)
        (oracle : ListenerOracle Expression),
      IgnoresCookieFields oracle →
      ((serveHttpRequest language splitParse captchaPage sha256 listener client
          separate).run oracle []).1 =
        ((serveHttpRequest language splitParse captchaPage sha256 listener
          client joined).run oracle []).1

variable {language splitParse captchaPage sha256}

/-- More than one cookie string has more cookies than the first one. -/
theorem cookiesOf_head_eq_iff (strings : List CookieString) :
    cookiesOf strings.head?.toList = cookiesOf strings ↔
      strings.length ≤ 1 := by
  match strings with
  | [] =>
      simp [cookiesOf]
  | [string] =>
      simp [cookiesOf]
  | string :: second :: rest =>
      have nonempty := second.nonempty
      simp [cookiesOf, nonempty]

/-- A cookie is missed when only a later field has one with its name. -/
theorem findCookie_eq_iff
    (reads : ReadsCookies splitParse)
    (req : Request)
    (strings : List CookieString)
    (name : Str) :
    findCookie splitParse
          (req.withCookieFields (strings.map CookieString.field)) name =
        findCookie splitParse (req.withCookieFields [joinedField strings])
          name ↔
      ((∃ string ∈ strings, string.Names name) →
        ∃ string ∈ strings.head?, string.Names name) := by
  simp only [findCookie, parseCookies_separate reads,
    parseCookies_joined reads]
  cases strings with
  | nil =>
      simp
  | cons string rest =>
      have whole :
          cookiesOf (string :: rest) = string.cookies ++ cookiesOf rest :=
        List.flatten_cons
      have first :
          cookiesOf (string :: rest).head?.toList = string.cookies := by
        simp [cookiesOf]
      rw [whole, first, List.find?_append]
      cases found :
          string.cookies.find? fun cookie => cookie.name = name with
      | some cookie =>
          have named : string.Names name :=
            ⟨cookie, List.mem_of_find?_eq_some found,
              by simpa using List.find?_some found⟩
          simp [named]
      | none =>
          have notNamed : ¬ string.Names name := by
            rintro ⟨cookie, member, isNamed⟩
            simpa [isNamed] using List.find?_eq_none.mp found cookie member
          have missed :
              (cookiesOf rest).find? (fun cookie => cookie.name = name) =
                  none ↔
                ¬ ∃ other ∈ rest, other.Names name := by
            simp only [List.find?_eq_none, cookiesOf, List.mem_flatten,
              List.mem_map, CookieString.Names]
            constructor
            · rintro absent ⟨other, inRest, cookie, member, isNamed⟩
              exact absent cookie ⟨_, ⟨other, inRest, rfl⟩, member⟩
                (decide_eq_true isNamed)
            · rintro absent cookie ⟨_, ⟨other, inRest, rfl⟩, member⟩ isNamed
              exact absent ⟨other, inRest, cookie, member,
                of_decide_eq_true isNamed⟩
          rw [Option.none_or, eq_comm, missed]
          simp [notNamed]

/--
Cookies in several fields are handled as in one field exactly when there is at
most one field; a single cookie is found alike exactly when the first field has
one with its name or no field has.
-/
theorem handledAlike_iff
    (reads : ReadsCookies splitParse)
    (language : ExpressionLanguage Expression Context Value)
    (captchaPage : Response)
    (sha256 : Sha256)
    (req : Request)
    (strings : List CookieString) :
    (HandledAlike language splitParse captchaPage sha256
        (req.withCookieFields (strings.map CookieString.field))
        (req.withCookieFields [joinedField strings]) ↔
      strings.length ≤ 1) ∧
    ∀ name,
      findCookie splitParse
            (req.withCookieFields (strings.map CookieString.field)) name =
          findCookie splitParse (req.withCookieFields [joinedField strings])
            name ↔
        ((∃ string ∈ strings, string.Names name) →
          ∃ string ∈ strings.head?, string.Names name) := by
  have sameCookies :
      parseCookies splitParse
            (req.withCookieFields (strings.map CookieString.field)) =
          parseCookies splitParse
            (req.withCookieFields [joinedField strings]) ↔
        strings.length ≤ 1 := by
    rw [parseCookies_separate reads, parseCookies_joined reads]
    exact cookiesOf_head_eq_iff strings
  refine ⟨?_, findCookie_eq_iff reads req strings⟩
  constructor
  · intro alike
    exact sameCookies.mp alike.cookies
  · intro atMostOne
    have same := sameCookies.mpr atMostOne
    exact {
      cookies := same
      found := fun name => by
        rw [findCookie, same, findCookie]
      response := fun listener client _ ignores =>
        run_serveHttpRequest_withCookieFields ignores listener client same
    }

end Forms

section Sample

/-- One piece of a field: white space is skipped, other text is a pair. -/
def samplePiece (piece : Str) : Option (Except Unit Cookie) :=
  let pair := piece.trim
  if pair = [] then
    none
  else
    match pair.dropWhile (· ≠ '=') with
    | [] => some (.error ())
    | _ :: value =>
        let name := Str.trim (pair.takeWhile (· ≠ '='))
        if name = [] then
          some (.error ())
        else
          some (.ok ⟨name, Str.trim value⟩)

/-- The pieces between the semicolons of a text. -/
def sampleSplitParse (text : Str) : List (Except Unit Cookie) :=
  (text.splitOn ';').filterMap samplePiece

theorem trim_of_isPairChar
    {text : Str}
    (solid : ∀ character ∈ text, IsPairChar character) :
    text.trim = text :=
  trim_of_isGraphic fun character member =>
    (solid character member).toIsGraphic

theorem samplePiece_of_trim
    {cookie : Cookie}
    (isPair : cookie.IsPair)
    {piece : Str}
    (trimmed : piece.trim = cookie.pair) :
    samplePiece piece = some (.ok cookie) := by
  have noEquals : '=' ∉ cookie.name :=
    fun member => (isPairChar_of_isTokenChar (isPair.name '=' member)).2 rfl
  have nonempty : cookie.pair ≠ [] := by
    simp [Cookie.pair]
  have dropped :
      cookie.pair.dropWhile (· ≠ '=') = '=' :: cookie.value :=
    Separated.dropWhile_ne_append_cons noEquals cookie.value
  have taken : cookie.pair.takeWhile (· ≠ '=') = cookie.name :=
    Separated.takeWhile_ne_append_cons noEquals cookie.value
  have trimmedName : Str.trim cookie.name = cookie.name :=
    trim_of_isPairChar fun character member =>
      isPair.isPairChar character (List.mem_append_left _ member)
  have trimmedValue : Str.trim cookie.value = cookie.value :=
    trim_of_isPairChar fun character member =>
      isPair.isPairChar character
        (List.mem_append_right _ (List.mem_cons_of_mem '=' member))
  simp only [samplePiece, trimmed, if_neg nonempty, dropped, taken,
    trimmedName, if_neg isPair.nameNonempty, trimmedValue]

/-- The sample reads cookies back. -/
theorem sampleSplitParse_readsCookies : ReadsCookies sampleSplitParse where
  pairs cookies pairs := by
    cases cookies with
    | nil =>
        rfl
    | cons first rest =>
        have separated :
            cookieText (first :: rest) =
              [';'].intercalate
                (first.pair :: rest.map fun cookie => ' ' :: cookie.pair) := by
          have whole :=
            Separated.intercalate_cons_separator ';' [' '] first.pair
              (rest.map Cookie.pair)
          rw [List.map_map] at whole
          exact whole
        have noSemicolon :
            ∀ cookie ∈ first :: rest, ';' ∉ cookie.pair :=
          fun cookie member inPair =>
            ((pairs cookie member).isPairChar ';' inPair).notSemicolon rfl
        have pieces :
            (cookieText (first :: rest)).splitOn ';' =
              first.pair :: rest.map fun cookie => ' ' :: cookie.pair := by
          rw [separated]
          apply List.splitOn_intercalate
          · intro piece member
            rcases List.mem_cons.mp member with rfl | inRest
            · exact noSemicolon first List.mem_cons_self
            · obtain ⟨cookie, inCookies, rfl⟩ := List.mem_map.mp inRest
              have inPair :=
                noSemicolon cookie (List.mem_cons_of_mem first inCookies)
              simpa using inPair
          · exact List.cons_ne_nil _ _
        have firstRead : samplePiece first.pair = some (.ok first) :=
          samplePiece_of_trim (pairs first List.mem_cons_self)
            (trim_of_isPairChar (pairs first List.mem_cons_self).isPairChar)
        have restRead :
            (rest.map fun cookie => ' ' :: cookie.pair).filterMap samplePiece =
              rest.map Except.ok := by
          rw [List.filterMap_map, ← List.filterMap_eq_map]
          apply List.filterMap_congr
          intro cookie member
          have isPair := pairs cookie (List.mem_cons_of_mem first member)
          apply samplePiece_of_trim isPair
          rw [Str.trim_cons_space]
          exact trim_of_isPairChar isPair.isPairChar
        rw [sampleSplitParse, pieces, List.filterMap_cons_some firstRead,
          restRead, List.map_cons]

/-- A cookie the captcha has nothing to do with. -/
def sampleTheme : CookieString where
  cookies :=
    [⟨"theme".toList, "dark".toList⟩]
  nonempty :=
    List.cons_ne_nil _ _
  pairs :=
    List.forall_mem_singleton.mpr
      ⟨by decide, by decide, _, by decide, Or.inl rfl⟩

/-- The proof of a passed challenge. -/
def sampleVerified : CookieString where
  cookies :=
    [⟨captchaVerifiedCookie, "token".toList⟩]
  nonempty :=
    List.cons_ne_nil _ _
  pairs :=
    List.forall_mem_singleton.mpr
      ⟨by decide, by decide, _, by decide, Or.inl rfl⟩

/-- A language whose expressions all hold. -/
def sampleLanguage : ExpressionLanguage Unit Unit Unit where
  context :=
    fun _ _ _ => ()
  execute :=
    fun _ _ => .ok ()
  isTrue :=
    fun _ => true

theorem handledAlike_iff_sample :
    (HandledAlike sampleLanguage sampleSplitParse newBlockedResponse
        (fun _ => Vector.replicate 32 0)
        ((Request.ofPath .get ['/']).withCookieFields
          ([sampleTheme, sampleVerified].map CookieString.field))
        ((Request.ofPath .get ['/']).withCookieFields
          [joinedField [sampleTheme, sampleVerified]]) ↔
      [sampleTheme, sampleVerified].length ≤ 1) ∧
    ∀ name,
      findCookie sampleSplitParse
            ((Request.ofPath .get ['/']).withCookieFields
              ([sampleTheme, sampleVerified].map CookieString.field)) name =
          findCookie sampleSplitParse
            ((Request.ofPath .get ['/']).withCookieFields
              [joinedField [sampleTheme, sampleVerified]]) name ↔
        ((∃ string ∈ [sampleTheme, sampleVerified], string.Names name) →
          ∃ string ∈ [sampleTheme, sampleVerified].head?,
            string.Names name) :=
  handledAlike_iff sampleSplitParse_readsCookies sampleLanguage
    newBlockedResponse _ _ _

/--
The proof of a passed challenge is missed when it is sent in a field of its own
after another one.
-/
theorem not_handledAlike_verified_in_second_field :
    ¬ ∀ (splitParse : Str → List (Except Unit Cookie))
        (language : ExpressionLanguage Unit Unit Unit)
        (captchaPage : Response) (sha256 : Sha256) (req : Request)
        (strings : List CookieString),
      ReadsCookies splitParse →
      HandledAlike language splitParse captchaPage sha256
        (req.withCookieFields (strings.map CookieString.field))
        (req.withCookieFields [joinedField strings]) := by
  intro alike
  have found :=
    (alike sampleSplitParse sampleLanguage newBlockedResponse
      (fun _ => Vector.replicate 32 0) (Request.ofPath .get ['/'])
      [sampleTheme, sampleVerified] sampleSplitParse_readsCookies).found
      captchaVerifiedCookie
  have inFirst :=
    (findCookie_eq_iff sampleSplitParse_readsCookies _ _ _).mp found
      ⟨sampleVerified, by simp, _, List.mem_singleton_self _, rfl⟩
  obtain ⟨string, isFirst, cookie, member, named⟩ := inFirst
  cases isFirst
  cases List.mem_singleton.mp member
  revert named
  decide

end Sample

end Pingoo
