/-
Passkey/Browser/Submission.lean

Posting a credential and reading the reply.

A request gets a timer that aborts it, so that a server that never answers
does not keep the trigger for ever.  The status of a response does not matter:
a server states its refusals in the body, too.
-/
import Passkey.Browser

namespace Passkey.Browser

open Text

/-- The name of an error that says that a request was aborted. -/
def abortName : String := "AbortError"

/-- A request that was aborted. -/
def aborted : FetchFault := .named abortName "The user aborted a request."

/-- A request that came to nothing as a failure of the transport. -/
def FetchFault.failure : FetchFault → Failure
  | .named name message =>
    .transport (some name)
      (if name = abortName then "Request timed out. Please try again."
        else "Unable to reach the server: " ++ message)
  | .other message => .transport none message

/-- How much of a body an error message quotes. -/
def quotedLength : Nat := 200

/-- The part of a body that an error message quotes. -/
def quotedBody (body : String) : String :=
  String.ofList ((trimBlank body.toList).take quotedLength)

/-- The reply in the body of a response. -/
def Response.reply (r : Response) : Except Failure Reply :=
  match r.body with
  | .error fault => .error fault.failure
  | .ok body =>
    (Reply.parse body).mapError fun f =>
      .transport none ("Failed to decode response (" ++ toString r.status ++ "): "
        ++ f.report body.toList ++ ": " ++ quotedBody body)

/-- Sends a request for a run.  Answers the timer that will abort it, or the failure if the
request could not be made. -/
def post (run : Nat) (timeout : Nat) (url body : String) : StateM Browser (Except Failure Nat) := do
  if (← get).lacks .abortController then
    return .error (.transport none "Failed to initialize request timeout.")
  let timer ← arm timeout (.abort run)
  if (← get).lacks .request then
    disarm timer
    return .error (FetchFault.named "TypeError" "Request").failure
  record (.fetch url body)
  return .ok timer

/-- Reads a response; the console is told the status if the body could be read. -/
def readReply (r : Response) : StateM Browser (Except Failure Reply) := do
  if let .ok _ := r.body then
    log .submission .debug "Credential submission answered" [("status", toString r.status)]
  return r.reply

end Passkey.Browser
