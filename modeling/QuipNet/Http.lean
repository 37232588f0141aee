import QuipNet.Model

/-!
# Requests of the control servers

A request as the HTTP library hands it over, and the reading of its body. Both the daemon
and the relay ask for a length, bound it, and then read that many bytes.
-/

namespace QuipNet

structure HttpRequest where
  method : String
  url : String
  bodyLength : Option ℕ
  /-- What `read_exact` makes of the body: its bytes, or the text of the error. -/
  body : Except String (List UInt8)

inductive BodyError
  | lengthMissing
  | tooLong
  | unreadable (detail : String)
deriving DecidableEq, Repr

def maxControlBodyBytes : ℕ := 64 * 1024

def HttpRequest.readBody (request : HttpRequest) : Except BodyError (List UInt8) :=
  match request.bodyLength with
  | none => .error .lengthMissing
  | some limit =>
    if maxControlBodyBytes < limit then .error .tooLong
    else request.body.mapError .unreadable

end QuipNet
