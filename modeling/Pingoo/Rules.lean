import Pingoo.HttpUtils

namespace Pingoo

/-!
# Rules

A rule is an expression with the actions for the requests that it is true of.
The expression language is a parameter: what a compiled expression is, and what
it computes in a context.
-/

inductive Action where
  | block
  | captcha
  | limit
  deriving Repr, DecidableEq

/-- The sending half of the channel to a limiter, `Sender<Probe>`. -/
structure ProbeSender where
  channel : Nat
  deriving Repr, DecidableEq

/-- What expressions see of a request. -/
structure RequestData where
  host : Str
  url : Uri
  path : Str
  method : Method
  userAgent : Str
  deriving DecidableEq

/-- What expressions see of a client. -/
structure ClientData where
  ip : IpAddr
  remotePort : Int32
  asn : Int64
  country : CountryCode
  deriving DecidableEq

/--
The expression language: `context` makes the context of a request from its data,
its client and the lists, `execute` runs an expression there, and `isTrue` is
the comparison with `true`.
-/
structure ExpressionLanguage (Expression Context Value : Type) where
  context : RequestData → ClientData → Value → Context
  execute : Expression → Context → Except Str Value
  isTrue : Value → Bool

section

variable {Expression Context Value : Type}
variable (language : ExpressionLanguage Expression Context Value)

/-- A condition holds when there is none, or when its value is `true`. -/
def ExpressionLanguage.holds
    (condition : Option Expression)
    (ctx : Context) : Bool :=
  match condition with
  | none => true
  | some expression =>
      match language.execute expression ctx with
      | .ok value => language.isTrue value
      | .error _ => false

structure Rule (Expression : Type) where
  name : String
  expression : Option Expression
  actions : List Action
  limiterTx : Option ProbeSender

/-- `Rule::match_request`. -/
def Rule.matchRequest (rule : Rule Expression) (ctx : Context) : Bool :=
  language.holds rule.expression ctx

/-- A service, as far as the listener knows it. -/
structure HttpService (Expression : Type) where
  name : String
  route : Option Expression

/-- `HttpService::match_request`, the same for all kinds of service. -/
def HttpService.matchRequest
    (service : HttpService Expression)
    (ctx : Context) : Bool :=
  language.holds service.route ctx

end

end Pingoo
