import CloudApi.Http.Status
import CloudApi.Http.Response
import CloudApi.Json.Parse
import CloudApi.Json.ValueSource
import CloudApi.Json.Print
import CloudApi.Text.Utf8
import CloudApi.Text.Blank

/-!
# Errors the API reports

A failed response carries an error body `{"errors": [{"field": …, "reason": …}, …]}`.
`classify` turns a response into an `ApiError`: none for a 2xx status; the reasons and the
first one as message when the body lists some; the status text when the body is empty, is not
JSON, or lists no reasons; and otherwise the body text itself, cut to at most 4096 bytes on a
character boundary, as message and raw message.
-/

namespace CloudApi

open Json

/-- One entry of an error body: the field it is about, if any, and why the request failed. -/
structure Reason where
  field : Option String := none
  reason : String := ""
  deriving Repr, BEq, Inhabited

/-- How a reason reads: `[field] reason` when the field is a non-empty string. -/
def Reason.text (r : Reason) : String :=
  match r.field with
  | some f => if f.isEmpty then r.reason else "[" ++ f ++ "] " ++ r.reason
  | none => r.reason

/-- Decodes a reason. -/
def Reason.decode {m : Type → Type} [Source m] : m Reason :=
  Source.record "ErrorReason"
    [Field.dflt "field" (Source.option Source.string) fun r v => { r with field := v },
     Field.req "reason" Source.string fun r v => { r with reason := v }] {}

/-- The JSON of a reason; an absent field is left out. -/
def Reason.toJson (r : Reason) : Json :=
  .mkObj ((match r.field with
    | some f => [("field", Json.str f)]
    | none => []) ++ [("reason", .str r.reason)])

/-- An error the API reported: status code, message, reasons, and the body text kept when the
body had no list of reasons. -/
structure ApiError where
  code : Nat
  message : String
  reasons : List Reason := []
  rawMessage : Option String := none
  deriving Repr, Inhabited

namespace ApiError

/-- An error with reasons: the first one is its message, the status text when there is none. -/
def ofReasons (code : Nat) (reasons : List Reason) : ApiError :=
  { code, reasons, message := match reasons with
      | r :: _ => r.text
      | [] => Http.Status.text code }

/-- An error with the status text only. -/
def ofStatus (code : Nat) : ApiError := ofReasons code []

/-- A code written with at least three digits. -/
def paddedCode (code : Nat) : String :=
  let s := toString code
  String.ofList (List.replicate (3 - s.length) '0') ++ s

/-- How an API error reads: `[404] Not Found`. -/
def display (e : ApiError) : String := "[" ++ paddedCode e.code ++ "] " ++ e.message

/-- Whether some reason contains `needle`, ASCII letters compared without case. -/
def hasReasonContaining (e : ApiError) (needle : String) : Bool :=
  let n := needle.toLower
  e.reasons.any fun r => Text.hasInfix r.reason.toLower n

end ApiError

/-- The part of an error body that classification reads. -/
structure ErrorBody where
  errors : Option (List Reason) := none

/-- Decodes an error body. -/
def ErrorBody.decode {m : Type → Type} [Source m] : m ErrorBody :=
  Source.record "ErrorBody"
    [Field.opt "errors" (Source.option (Source.list Reason.decode)) fun _ v => ⟨v⟩] {}

/-- The longest body text an error keeps. -/
def rawMessageLimit : Nat := 4096

/-- The API error a response stands for, `none` for a 2xx status. -/
def classify (r : Http.Response) : Option ApiError :=
  if Http.Status.isSuccess r.status then none
  else if r.body.isEmpty then some (.ofStatus r.status)
  else match Json.parse r.body with
    | .error _ => some (.ofStatus r.status)
    | .ok v =>
      match decodeValue ErrorBody.decode v with
      | .ok ⟨some (x :: xs)⟩ => some (.ofReasons r.status (x :: xs))
      | .ok ⟨some []⟩ => some (.ofStatus r.status)
      | _ =>
        let raw := Utf8.truncateBytes (Utf8.decodeLossy r.body) rawMessageLimit
        some { code := r.status, message := raw, rawMessage := some raw }

end CloudApi
