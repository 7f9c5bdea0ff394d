import Fido2Service.Api

set_option autoImplicit false

/- `Authenticator` of authenticator.rs. The presence gate and the secret store are trait
objects the orchestrator is generic over, so they are modelled as arbitrary behaviours: each
method answers from a state the collaborators share and moves it on. Every call is logged, so
that which collaborators a request reached, and in which order, is part of its result. -/
namespace Fido2Service

/-- A call the orchestrator makes to one of its collaborators, with its arguments. -/
inductive Call where
  | approveMakeCredential (name : String)
  | wink
  | makeCredential (parameters : PublicKeyCredentialParameters) (rpId : RelyingPartyIdentifier)
      (userHandle : UserHandle)
  | attest (rpId : RelyingPartyIdentifier) (credential : PublicKeyCredentialDescriptor)
      (clientDataHash : Sha256) (userPresent userVerified : Bool)
  deriving DecidableEq, Repr

def Call.isApproval : Call → Bool
  | .approveMakeCredential _ => true
  | _ => false

/-- The `UserPresence` trait: a behaviour over the collaborators' state `σ`. -/
structure UserPresence (σ ε : Type) where
  approveMakeCredential : String → σ → Except ε Bool × σ
  wink : σ → Except ε Unit × σ

/-- The `SecretStore` trait: a behaviour over the collaborators' state `σ`. -/
structure SecretStore (σ ε : Type) where
  makeCredential : PublicKeyCredentialParameters → RelyingPartyIdentifier → UserHandle → σ →
    Except ε PublicKeyCredentialDescriptor × σ
  attest : RelyingPartyIdentifier → PublicKeyCredentialDescriptor → Sha256 → Bool → Bool → σ →
    Except ε (AuthenticatorData × AttestationStatement) × σ

/-- `Authenticator<Secrets, Presence>` with the `From` bounds of its `AuthenticatorAPI` impl. -/
structure Authenticator (σ SE PE : Type) where
  secrets : SecretStore σ SE
  presence : UserPresence σ PE
  aaguid : Aaguid
  fromSecrets : SE → Error
  fromPresence : PE → Error

/-- The collaborators' state and the log of every call made so far, oldest first. -/
structure World (σ : Type) where
  env : σ
  calls : List Call

/-- The world after `call` was answered, leaving the collaborators in `env`. -/
def World.record {σ : Type} (w : World σ) (call : Call) (env : σ) : World σ :=
  ⟨env, w.calls ++ [call]⟩

/-- An `async fn` of the orchestrator: a failure keeps what the calls before it did. -/
abbrev AuthM (σ : Type) := EStateM Error (World σ)

section Calls

variable {σ : Type}

/-- `collaborator.method(args).await?`: the call is logged, answered, and an error is converted
into `Error` through `From`. -/
def invoke {α ε : Type} (call : Call) (answer : σ → Except ε α × σ) (convert : ε → Error) :
    AuthM σ α := fun w =>
  match answer w.env with
  | (.ok value, env) => .ok value (w.record call env)
  | (.error e, env) => .error (convert e) (w.record call env)

/-- The world a run leaves behind, whether it returned or failed. -/
def resultWorld {α : Type} : EStateM.Result Error (World σ) α → World σ
  | .ok _ w => w
  | .error _ w => w

variable {α β : Type}

@[simp] theorem AuthM.throw_apply (e : Error) (w : World σ) :
    (throw e : AuthM σ α) w = .error e w := rfl

@[simp] theorem AuthM.pure_apply (value : α) (w : World σ) :
    (pure value : AuthM σ α) w = .ok value w := rfl

@[simp] theorem AuthM.bind_apply (x : AuthM σ α) (next : α → AuthM σ β) (w : World σ) :
    (x >>= next) w = match x w with
      | .ok value w => next value w
      | .error e w => .error e w := by
  simp only [bind, EStateM.bind]
  cases x w <;> rfl

@[simp] theorem AuthM.map_apply (f : α → β) (x : AuthM σ α) (w : World σ) :
    (f <$> x) w = match x w with
      | .ok value w => .ok (f value) w
      | .error e w => .error e w := by
  simp only [Functor.map, EStateM.map]
  cases x w <;> rfl

@[simp] theorem World.record_env (w : World σ) (call : Call) (env : σ) :
    (w.record call env).env = env := rfl

@[simp] theorem World.record_calls (w : World σ) (call : Call) (env : σ) :
    (w.record call env).calls = w.calls ++ [call] := rfl

end Calls

namespace Authenticator

variable {σ SE PE : Type}

set_option linter.unusedVariables false in
/-- `Authenticator::make_credential`, step by step as the source numbers the steps. -/
def makeCredential (self : Authenticator σ SE PE) (cmd : MakeCredentialCommand) :
    AuthM σ MakeCredentialResponse := do
  -- 1., 2.
  if cmd.pinUvAuthParam.isSome then throw .invalidParameter
  -- 3.
  let some pkParameters := (cmd.pubKeyCredParams.filter (·.alg == .es256)).head?
    | throw .unsupportedAlgorithm
  -- 4.
  let uv := false
  let mut up := false
  -- 9.
  if cmd.enterpriseAttestation.isSome then throw .invalidParameter
  -- 11.1, where `assert_eq!(uv, false)` holds of the constant `uv`
  if cmd.pinUvAuthParam.isSome then throw .invalidParameter
  -- 12.
  if cmd.excludeList.isSome then throw .invalidParameter
  -- 13.
  let present ← invoke (.approveMakeCredential cmd.rp.name)
    (self.presence.approveMakeCredential cmd.rp.name) self.fromPresence
  up := true
  let credential ← invoke (.makeCredential pkParameters cmd.rp.id cmd.user.id)
    (self.secrets.makeCredential pkParameters cmd.rp.id cmd.user.id) self.fromSecrets
  -- 19.
  let (authData, attStmt) ← invoke (.attest cmd.rp.id credential cmd.clientDataHash up uv)
    (self.secrets.attest cmd.rp.id credential cmd.clientDataHash up uv) self.fromSecrets
  return { authData, attStmt }

/-- `Authenticator::wink`: forwards to the presence gate. -/
def wink (self : Authenticator σ SE PE) : AuthM σ Unit := do
  invoke .wink self.presence.wink self.fromPresence
  return ()

end Authenticator

/-- The fields of `GetInfoResponse` that get_info sets; every other field is `None`. -/
structure GetInfoResponse where
  versions : List String
  aaguid : Aaguid
  algorithms : Option (List PublicKeyCredentialParameters)
  remainingDiscoverableCredentials : Option Nat
  deriving DecidableEq, Repr

namespace Authenticator

variable {σ SE PE : Type}

/-- `Authenticator::get_info_internal`. -/
def getInfoInternal (self : Authenticator σ SE PE) : GetInfoResponse where
  versions := ["FIDO_2_1", "U2F_V2"]
  aaguid := self.aaguid
  algorithms := some [PublicKeyCredentialParameters.es256]
  remainingDiscoverableCredentials := some 0

/-- `Authenticator::get_info`: it reaches no collaborator. -/
def getInfo (self : Authenticator σ SE PE) : Except Error GetInfoResponse :=
  .ok self.getInfoInternal

end Authenticator

end Fido2Service
