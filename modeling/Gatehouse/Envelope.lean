import Gatehouse.Field

/-! Envelopes: every reply of the service carries a code, data and a message. The code is that of
    the application; two of its values have a meaning of their own. -/

namespace Gatehouse

/-- The shape of every reply. -/
structure Envelope where
  code : Int
  data : Json
  message : String
  extra : Record Json

namespace Envelope

/-- The code of a success. -/
def successCode : Int := 200

/-- The code of a credential that was rejected. -/
def rejectionCode : Int := 401

/-- The names of the fields that are known here. -/
def fieldNames : List String := ["code", "data", "message"]

/-- Reads an envelope: only the code is required. -/
def check (data : Json) : Checked Envelope :=
  data.fields.andThen fun r =>
    Envelope.mk <$> r.required "code" Field.whole
      <*> r.optional "data" .null Checked.good
      <*> r.optional "message" "" Field.text
      <*> pure (r.without fieldNames)

/-- Whether the envelope reports a success. -/
def isSuccess (e : Envelope) : Bool := e.code == successCode

/-- Whether the envelope reports that the credential was rejected. -/
def isRejection (e : Envelope) : Bool := e.code == rejectionCode

end Envelope

end Gatehouse
