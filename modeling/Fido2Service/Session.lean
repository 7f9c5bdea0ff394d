import Fido2Service.MakeCredential
import Mathlib.Data.List.Forall2

set_option autoImplicit false

/- A session of `AuthenticatorAPI` requests, served one after another in the world the one
before left. Whatever the collaborators answer and whatever state they start in, the calls a
session makes are, request by request, a prefix of that request's protocol: make_credential asks
the presence gate, then has the secret store create a credential for the first ES256 entry and
attest it with `up` set and `uv` clear, and stops at the first error. -/
namespace Fido2Service

/-- A request the authenticator answers; `get_assertion` panics at its first statement and
`version` reads build metadata. -/
inductive Request where
  | makeCredential (cmd : MakeCredentialCommand)
  | getInfo
  | wink
  deriving DecidableEq, Repr

inductive Response where
  | makeCredential (response : MakeCredentialResponse)
  | getInfo (info : GetInfoResponse)
  | wink
  deriving DecidableEq, Repr

/-- The value a request returned, or the error it failed with. -/
def resultValue {σ α : Type} : EStateM.Result Error (World σ) α → Except Error α
  | .ok value _ => .ok value
  | .error e _ => .error e

namespace Authenticator

variable {σ SE PE : Type}

/-- The `AuthenticatorAPI` method a request calls. -/
def handle (self : Authenticator σ SE PE) : Request → AuthM σ Response
  | .makeCredential cmd => Response.makeCredential <$> self.makeCredential cmd
  | .getInfo =>
    match self.getInfo with
    | .ok info => pure (.getInfo info)
    | .error e => throw e
  | .wink => (fun _ => Response.wink) <$> self.wink

/-- Requests served in order: an error is the caller's answer, and the next request is served
all the same, in the world the failed one left. -/
def serve (self : Authenticator σ SE PE) :
    List Request → World σ → List (Request × Except Error Response) × World σ
  | [], w => ([], w)
  | req :: reqs, w =>
    let (replies, last) := self.serve reqs (resultWorld (self.handle req w))
    ((req, resultValue (self.handle req w)) :: replies, last)

end Authenticator

/-- The calls make_credential makes for a request that passes the parameter gates, once the
secret store has answered with `credential`. -/
def makeCredentialProtocol (cmd : MakeCredentialCommand) (p : PublicKeyCredentialParameters)
    (credential : PublicKeyCredentialDescriptor) : List Call :=
  [.approveMakeCredential cmd.rp.name, .makeCredential p cmd.rp.id cmd.user.id,
    .attest cmd.rp.id credential cmd.clientDataHash true false]

/-- What a make_credential request that passed the parameter gates, `p` its first ES256 entry,
may return and call when the secret store answers with `credential`: it asks the presence gate,
and its calls are a prefix of the protocol, all of it when it returns; when it fails, the error
is the last collaborator's, converted. -/
def MakeCredentialServed {σ SE PE : Type} (self : Authenticator σ SE PE)
    (cmd : MakeCredentialCommand) (p : PublicKeyCredentialParameters)
    (credential : PublicKeyCredentialDescriptor) (reply : Except Error Response)
    (calls : List Call) : Prop :=
  calls ≠ [] ∧ calls <+: makeCredentialProtocol cmd p credential ∧
    match reply with
    | .ok response =>
      calls = makeCredentialProtocol cmd p credential ∧ ∃ r, response = .makeCredential r
    | .error e =>
      (calls = [.approveMakeCredential cmd.rp.name] ∧ ∃ cause, e = self.fromPresence cause) ∨
        (2 ≤ calls.length ∧ ∃ cause, e = self.fromSecrets cause)

/-- What serving a request may return and which calls it may make, in order. A request a
parameter gate rejects fails with that gate's error and calls nobody; get_info calls nobody;
wink calls the presence gate's wink and fails only with its error. -/
def Served {σ SE PE : Type} (self : Authenticator σ SE PE) :
    Request → Except Error Response → List Call → Prop
  | .makeCredential cmd, reply, calls =>
    match parameterGate cmd with
    | some e => reply = .error e ∧ calls = []
    | none => ∃ p credential, cmd.pubKeyCredParams.find? (·.alg == .es256) = some p ∧
        MakeCredentialServed self cmd p credential reply calls
  | .getInfo, reply, calls => reply = .ok (.getInfo self.getInfoInternal) ∧ calls = []
  | .wink, reply, calls =>
    calls = [.wink] ∧ (reply = .ok .wink ∨ ∃ cause, reply = .error (self.fromPresence cause))

namespace Authenticator

variable {σ SE PE : Type}

theorem handle_makeCredential_served (self : Authenticator σ SE PE) (cmd : MakeCredentialCommand)
    (w : World σ) :
    ∃ calls, (resultWorld (self.handle (.makeCredential cmd) w)).calls = w.calls ++ calls ∧
      Served self (.makeCredential cmd) (resultValue (self.handle (.makeCredential cmd) w)) calls := by
  rcases gate : parameterGate cmd with _ | e
  case some =>
    refine ⟨[], ?_, ?_⟩ <;>
      simp [Served, handle, gate, makeCredential_of_parameterGate self cmd w e gate, resultWorld,
        resultValue]
  obtain ⟨pin, ea, el, p, selected⟩ := parameterGate_eq_none gate
  suffices passed : ∃ credential calls,
      (resultWorld (self.handle (.makeCredential cmd) w)).calls = w.calls ++ calls ∧
      MakeCredentialServed self cmd p credential (resultValue (self.handle (.makeCredential cmd) w))
        calls by
    obtain ⟨credential, calls, logged, served⟩ := passed
    refine ⟨calls, logged, ?_⟩
    simp only [Served, gate]
    exact ⟨p, credential, selected, served⟩
  rcases answered : self.presence.approveMakeCredential cmd.rp.name w.env with ⟨e | present, env⟩
  case error =>
    refine ⟨⟨⟨[]⟩⟩, [.approveMakeCredential cmd.rp.name], ?_⟩
    simp [handle, MakeCredentialServed, makeCredentialProtocol, resultWorld, resultValue,
      makeCredential_of_presence_error self cmd w p e env pin ea el selected answered]
  rw [handle, AuthM.map_apply, makeCredential_of_answer self cmd w p present env pin ea el selected
    answered]
  rcases created : self.secrets.makeCredential p cmd.rp.id cmd.user.id env with ⟨e | credential, env⟩
  case error =>
    refine ⟨⟨⟨[]⟩⟩, (makeCredentialProtocol cmd p ⟨⟨[]⟩⟩).take 2, ?_⟩
    simp [MakeCredentialServed, makeCredentialProtocol, resultWorld, resultValue]
  refine ⟨credential, makeCredentialProtocol cmd p credential, ?_⟩
  rcases attested : self.secrets.attest cmd.rp.id credential cmd.clientDataHash true false env
    with ⟨e | ⟨authData, attStmt⟩, env⟩ <;>
    simp [MakeCredentialServed, makeCredentialProtocol, resultWorld, resultValue, attested]

/-- Serving one request appends to the log exactly the calls its protocol allows. -/
theorem handle_served (self : Authenticator σ SE PE) (req : Request) (w : World σ) :
    ∃ calls, (resultWorld (self.handle req w)).calls = w.calls ++ calls ∧
      Served self req (resultValue (self.handle req w)) calls := by
  cases req with
  | makeCredential cmd => exact handle_makeCredential_served self cmd w
  | getInfo =>
    exact ⟨[], by simp [handle, getInfo, resultWorld],
      by simp [Served, handle, getInfo, getInfoInternal, resultValue]⟩
  | wink =>
    refine ⟨[.wink], ?_, ?_⟩ <;>
      rcases winked : self.presence.wink w.env with ⟨e | ⟨⟩, env⟩ <;>
      simp [Served, handle, wink, invoke, winked, resultWorld, resultValue]

/-- Over every session, whatever the collaborators answer and whatever state they start in, the
log grows by one segment per request, and each segment with the reply beside it is what that
request's protocol allows. -/
theorem serve_follows_protocol (self : Authenticator σ SE PE) (reqs : List Request)
    (w : World σ) :
    ∃ traces : List (List Call),
      List.Forall₂ (fun (entry : Request × Except Error Response) calls =>
        Served self entry.1 entry.2 calls) (self.serve reqs w).1 traces ∧
      (self.serve reqs w).2.calls = w.calls ++ traces.flatten := by
  induction reqs generalizing w with
  | nil => exact ⟨[], .nil, by simp [serve]⟩
  | cons req reqs ih =>
    obtain ⟨calls, logged, served⟩ := handle_served self req w
    obtain ⟨traces, rest, log⟩ := ih (resultWorld (self.handle req w))
    exact ⟨calls :: traces, .cons served rest, by simp [serve, log, logged]⟩

end Authenticator

/-! ## What the secret store is never asked -/

/-- What may stand right before a call in the log (`none` at its start): the secret store is asked
to create a credential only right after the presence gate was asked, and to attest only right
after creating a credential for the same relying party, with `up` set and `uv` clear. -/
def Call.MayFollow : Option Call → Call → Prop
  | before, .makeCredential _ _ _ => ∃ name, before = some (.approveMakeCredential name)
  | before, .attest rpId _ _ up uv =>
    (∃ p userHandle, before = some (.makeCredential p rpId userHandle)) ∧ up = true ∧ uv = false
  | _, _ => True

/-- Every call of `calls` may follow the one before it, the first one `before`. -/
def Ordered : Option Call → List Call → Prop
  | _, [] => True
  | before, call :: calls => Call.MayFollow before call ∧ Ordered (some call) calls

theorem ordered_append (before : Option Call) (calls more : List Call) :
    Ordered before (calls ++ more) ↔
      Ordered before calls ∧ Ordered (calls.getLast?.or before) more := by
  induction calls generalizing before with
  | nil => simp [Ordered]
  | cons call calls ih =>
    rw [List.cons_append, Ordered, Ordered, ih, List.getLast?_cons, and_assoc]
    cases calls.getLast? <;> rfl

theorem ordered_of_leading {before : Option Call} {calls whole : List Call}
    (leading : calls <+: whole) (ordered : Ordered before whole) : Ordered before calls := by
  obtain ⟨rest, rfl⟩ := leading
  exact ((ordered_append before calls rest).mp ordered).1

/-- The calls a served request makes may follow any call. -/
theorem ordered_of_served {σ SE PE : Type} (self : Authenticator σ SE PE) (req : Request)
    (reply : Except Error Response) (calls : List Call) (served : Served self req reply calls)
    (before : Option Call) :
    Ordered before calls := by
  cases req with
  | makeCredential cmd =>
    simp only [Served] at served
    split at served
    · simp [served.2, Ordered]
    · obtain ⟨p, credential, -, -, allowed, -⟩ := served
      exact ordered_of_leading allowed (by simp [Ordered, Call.MayFollow, makeCredentialProtocol])
  | getInfo => simp [served.2, Ordered]
  | wink => simp [served.1, Ordered, Call.MayFollow]

namespace Authenticator

variable {σ SE PE : Type}

/-- Over every session from a log where every call may follow the one before it, the log stays
so: whatever the collaborators answer, the secret store never creates a credential without the
presence gate having been asked right before, and never attests but right after creating a
credential for the same relying party, with `up` set and `uv` clear. -/
theorem serve_ordered (self : Authenticator σ SE PE) (reqs : List Request) (w : World σ)
    (ordered : Ordered none w.calls) : Ordered none (self.serve reqs w).2.calls := by
  induction reqs generalizing w with
  | nil => exact ordered
  | cons req reqs ih =>
    obtain ⟨calls, logged, served⟩ := handle_served self req w
    refine ih _ ?_
    rw [logged, ordered_append]
    exact ⟨ordered, ordered_of_served _ _ _ _ served _⟩

end Authenticator

theorem serve_ordered_success :
    Ordered none ([] : List Call) ∧
      Ordered none ((fakeAuthenticator true).serve
        [.makeCredential successCommand, .wink, .makeCredential successCommand] ⟨0, []⟩).2.calls :=
  ⟨trivial, Authenticator.serve_ordered _ _ ⟨0, []⟩ trivial⟩

end Fido2Service
