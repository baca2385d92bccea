import SignedUpload.Policy
import SignedUpload.Config
import SignedUpload.Http.Fault
import SignedUpload.Json.Reader
import SignedUpload.Json.Printer
import SignedUpload.Decimal.Literal

/-! Reading a policy out of the answer of the policy endpoint. The first check that fails decides. -/
namespace SignedUpload

open Json (Value)

inductive PolicyError where
  | transport (fault : Http.Fault)
  | status (code : Nat)
  | notJson
  | rejected (field expected actual : String)
  | missingField (name : String)
  | expired (since : Instant)
  deriving DecidableEq, Repr

def PolicyError.message : PolicyError → String
  | .transport fault => "Policy request failed: " ++ fault.message
  | .status code => "Policy endpoint answered with status " ++ Decimal.natText code
  | .notJson => "Policy response is not a JSON object"
  | .rejected field expected actual =>
    "Policy status field '" ++ field ++ "' is " ++ actual ++ ", expected " ++ expected
  | .missingField name => "Policy response is missing field '" ++ name ++ "'"
  | .expired t => "Policy expired at " ++ t.text

def looseText : Value → String
  | .string s => Text.trim s
  | v => v.text

def sameNumber (a b : String) : Bool :=
  match Decimal.binary64? a,Decimal.binary64? b with
  | some x,some y => x.same y
  | _,_ => false

def statusMatches (actual : Value) (expected : String) : Bool :=
  let a := looseText actual
  let b := Text.trim expected
  a == b || sameNumber a b

/-- Seconds as a number or as text; anything else, or a time without a date, is no expiry. -/
def expiry? (value : Value) : Option Instant :=
  let seconds := match value with
    | .number n => n.signed?
    | .string s => Decimal.signed? Decimal.signedBound (Text.trimChars s.toList)
    | _ => none
  seconds.bind Instant.ofSeconds?

namespace ResponseFields

def dataObject (fields : ResponseFields) (response : Value) : Except PolicyError Value :=
  if fields.data = "" then .ok response
  else match (response.get? fields.data).filter (·.isObject) with
    | some data => .ok data
    | none => .error (.missingField fields.data)

def textField (data : Value) (name : String) : Except PolicyError String :=
  match ((data.get? name).bind (·.text?)).filter (· ≠ "") with
  | some text => .ok text
  | none => .error (.missingField name)

def expiryField (fields : ResponseFields) (data : Value) : Option Instant :=
  if fields.expire = "" then none else (data.get? fields.expire).bind expiry?

def read (fields : ResponseFields) (response : Value) : Except PolicyError Policy := do
  let data ← fields.dataObject response
  let accessId ← textField data fields.accessId
  let signature ← textField data fields.signature
  let document ← textField data fields.policy
  .ok ⟨accessId,signature,document,fields.expiryField data⟩

end ResponseFields

namespace Config

def checkCode (config : Config) (response : Value) : Except PolicyError Unit :=
  if config.codeField = "" then .ok ()
  else
    let actual := (response.get? config.codeField).getD .null
    if statusMatches actual config.codeStatus then .ok ()
    else .error (.rejected config.codeField config.codeStatus (looseText actual))

def responseObject (body : String) : Except PolicyError Value :=
  match Json.parse body with
  | .ok value => if value.isObject then .ok value else .error .notJson
  | .error _ => .error .notJson

def accept (config : Config) (status : Nat) (body : String) (now : Instant) :
    Except PolicyError Policy := do
  if status < 200 ∨ 300 ≤ status then throw (.status status)
  let response ← responseObject body
  config.checkCode response
  let policy ← config.responseFields.read response
  match policy.expiresAt with
  | some t => if policy.isExpired now then .error (.expired t) else .ok policy
  | none => .ok policy

end Config
end SignedUpload
