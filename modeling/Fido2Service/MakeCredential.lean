import Fido2Service.Authenticator
import Mathlib.Tactic.PushNeg

set_option autoImplicit false

/- What make_credential does with a request: the parameter gates of spec §4.1 in their order,
then the presence gate and the two secret-store calls, for every behaviour of the
collaborators and every state they start in. -/
namespace Fido2Service

/-- The spec's parameter gates of make_credential, steps 1, 2, 4 and 5 in that order: the
first that fails names the error, and `none` means every one passed. -/
def parameterGate (cmd : MakeCredentialCommand) : Option Error :=
  if cmd.pinUvAuthParam.isSome then some .invalidParameter
  else if ∀ p ∈ cmd.pubKeyCredParams, p.alg ≠ .es256 then some .unsupportedAlgorithm
  else if cmd.enterpriseAttestation.isSome ∨ cmd.excludeList.isSome then some .invalidParameter
  else none

/-- `iter().filter(..).next()` is the first ES256 entry of the list. -/
theorem find?_es256 {before after : List PublicKeyCredentialParameters}
    {p : PublicKeyCredentialParameters} (es256 : p.alg = .es256)
    (unsupported : ∀ q ∈ before, q.alg ≠ .es256) :
    (before ++ p :: after).find? (·.alg == .es256) = some p := by
  rw [List.find?_append, List.find?_eq_none.mpr (by simpa using unsupported)]
  simp [es256]

theorem find?_es256_isSome {params : List PublicKeyCredentialParameters}
    {p : PublicKeyCredentialParameters} (mem : p ∈ params) (es256 : p.alg = .es256) :
    ∃ q, params.find? (·.alg == .es256) = some q :=
  Option.isSome_iff_exists.mp (List.find?_isSome.mpr ⟨p, mem, by simpa using es256⟩)

theorem parameterGate_eq_none {cmd : MakeCredentialCommand} (gate : parameterGate cmd = none) :
    cmd.pinUvAuthParam = none ∧ cmd.enterpriseAttestation = none ∧ cmd.excludeList = none ∧
      ∃ p, cmd.pubKeyCredParams.find? (·.alg == .es256) = some p := by
  simp only [parameterGate] at gate
  split_ifs at gate with pin alg flags
  push_neg at alg
  obtain ⟨p, mem, es256⟩ := alg
  exact ⟨by simpa using pin, by simp_all, by simp_all, find?_es256_isSome mem es256⟩

/-! ## The tests' collaborators -/

/-- The tests' `FakeUserPresence`: it answers every approval with `should_make_credential`. -/
def fakeUserPresence (σ : Type) (shouldMakeCredential : Bool) : UserPresence σ Unit where
  approveMakeCredential _ env := (.ok shouldMakeCredential, env)
  wink env := (.ok (), env)

/-- A secret store that numbers the credentials it creates and attests every descriptor. -/
def countingSecrets : SecretStore Nat Unit where
  makeCredential _ _ _ created := (.ok ⟨⟨[created.toUInt8]⟩⟩, created + 1)
  attest _ credential clientDataHash up uv created :=
    (.ok (⟨⟨[]⟩, up, uv, 1, none⟩, .packed ⟨.es256, ⟨credential.id.bytes ++ clientDataHash.bytes⟩, none⟩),
      created)

def fakeAuthenticator (shouldMakeCredential : Bool) : Authenticator Nat Unit Unit where
  secrets := countingSecrets
  presence := fakeUserPresence Nat shouldMakeCredential
  aaguid := ⟨[]⟩
  fromSecrets _ := .dependency "io"
  fromPresence _ := .dependency "io"

/-- The request of the test `make_credential_success`, with its digest as one byte. -/
def successCommand : MakeCredentialCommand where
  clientDataHash := ⟨[7]⟩
  rp := ⟨⟨"example.com"⟩, "Example RP"⟩
  user := ⟨⟨[1]⟩⟩
  pubKeyCredParams := [⟨.es256, .publicKey⟩]
  excludeList := none
  pinUvAuthParam := none
  enterpriseAttestation := none

def successCalls : List Call :=
  [.approveMakeCredential "Example RP", .makeCredential ⟨.es256, .publicKey⟩ ⟨"example.com"⟩ ⟨[1]⟩,
    .attest ⟨"example.com"⟩ ⟨⟨[0]⟩⟩ ⟨[7]⟩ true false]

section

variable {σ SE PE : Type}

/-- Past the parameter gates make_credential is its three calls, and the answer of the
presence gate is dropped. -/
theorem Authenticator.makeCredential_of_gates (self : Authenticator σ SE PE)
    (cmd : MakeCredentialCommand) (p : PublicKeyCredentialParameters)
    (pin : cmd.pinUvAuthParam = none) (ea : cmd.enterpriseAttestation = none)
    (el : cmd.excludeList = none)
    (selected : cmd.pubKeyCredParams.find? (·.alg == .es256) = some p) :
    self.makeCredential cmd = (do
      let _ ← invoke (.approveMakeCredential cmd.rp.name)
        (self.presence.approveMakeCredential cmd.rp.name) self.fromPresence
      let credential ← invoke (.makeCredential p cmd.rp.id cmd.user.id)
        (self.secrets.makeCredential p cmd.rp.id cmd.user.id) self.fromSecrets
      let (authData, attStmt) ← invoke (.attest cmd.rp.id credential cmd.clientDataHash true false)
        (self.secrets.attest cmd.rp.id credential cmd.clientDataHash true false) self.fromSecrets
      return { authData, attStmt }) := by
  simp [makeCredential, pin, ea, el, selected]

/-- A request that fails a parameter gate fails with that gate's error in the world it came
in: no collaborator is called. -/
theorem Authenticator.makeCredential_of_parameterGate (self : Authenticator σ SE PE)
    (cmd : MakeCredentialCommand) (w : World σ) (e : Error) (gate : parameterGate cmd = some e) :
    self.makeCredential cmd w = .error e w := by
  simp only [parameterGate] at gate
  split_ifs at gate with pin alg flags <;> cases gate
  · simp [makeCredential, pin]
  · have none : cmd.pubKeyCredParams.find? (·.alg == .es256) = none := by
      simpa [List.find?_eq_none] using alg
    simp [makeCredential, none, Option.not_isSome_iff_eq_none.mp pin]
  · push_neg at alg
    obtain ⟨p, mem, es256⟩ := alg
    obtain ⟨q, selected⟩ := find?_es256_isSome mem es256
    by_cases ea : cmd.enterpriseAttestation.isSome
    · simp [makeCredential, selected, ea, Option.not_isSome_iff_eq_none.mp pin]
    · have el : cmd.excludeList.isSome := by simpa [ea] using flags
      simp [makeCredential, selected, ea, el, Option.not_isSome_iff_eq_none.mp pin]

/-- Once the presence gate has answered `Ok present`, whatever `present` is, make_credential
creates a credential and attests it, in that order, and stops at the first error. -/
theorem Authenticator.makeCredential_of_answer (self : Authenticator σ SE PE)
    (cmd : MakeCredentialCommand) (w : World σ) (p : PublicKeyCredentialParameters)
    (present : Bool) (env : σ)
    (pin : cmd.pinUvAuthParam = none) (ea : cmd.enterpriseAttestation = none)
    (el : cmd.excludeList = none)
    (selected : cmd.pubKeyCredParams.find? (·.alg == .es256) = some p)
    (answered : self.presence.approveMakeCredential cmd.rp.name w.env = (.ok present, env)) :
    self.makeCredential cmd w =
      let approved := w.record (.approveMakeCredential cmd.rp.name) env
      match self.secrets.makeCredential p cmd.rp.id cmd.user.id env with
      | (.error e, env) =>
        .error (self.fromSecrets e) (approved.record (.makeCredential p cmd.rp.id cmd.user.id) env)
      | (.ok credential, env) =>
        let created := approved.record (.makeCredential p cmd.rp.id cmd.user.id) env
        let attested := Call.attest cmd.rp.id credential cmd.clientDataHash true false
        match self.secrets.attest cmd.rp.id credential cmd.clientDataHash true false env with
        | (.error e, env) => .error (self.fromSecrets e) (created.record attested env)
        | (.ok (authData, attStmt), env) => .ok ⟨authData, attStmt⟩ (created.record attested env) := by
  rw [makeCredential_of_gates self cmd p pin ea el selected]
  rcases created : self.secrets.makeCredential p cmd.rp.id cmd.user.id env
    with ⟨_ | credential, env⟩
  · simp [invoke, answered, created]
  · rcases attested : self.secrets.attest cmd.rp.id credential cmd.clientDataHash true false env
      with ⟨_ | ⟨authData, attStmt⟩, env⟩ <;> simp [invoke, answered, created, attested]

/-- A denied request still creates a credential and has it attested with `up = true`: the
approval's answer `present` is bound and never read. -/
theorem makeCredential_denied_creates_credential :
    (fakeAuthenticator false).makeCredential successCommand ⟨0, []⟩ =
      .ok ⟨⟨⟨[]⟩, true, false, 1, none⟩, .packed ⟨.es256, ⟨[0, 7]⟩, none⟩⟩ ⟨1, successCalls⟩ :=
  rfl

/-- An error of the presence gate ends make_credential before any secret-store call. -/
theorem Authenticator.makeCredential_of_presence_error (self : Authenticator σ SE PE)
    (cmd : MakeCredentialCommand) (w : World σ) (p : PublicKeyCredentialParameters) (e : PE)
    (env : σ) (pin : cmd.pinUvAuthParam = none) (ea : cmd.enterpriseAttestation = none)
    (el : cmd.excludeList = none)
    (selected : cmd.pubKeyCredParams.find? (·.alg == .es256) = some p)
    (failed : self.presence.approveMakeCredential cmd.rp.name w.env = (.error e, env)) :
    self.makeCredential cmd w =
      .error (self.fromPresence e) (w.record (.approveMakeCredential cmd.rp.name) env) := by
  rw [makeCredential_of_gates self cmd p pin ea el selected]
  simp [invoke, failed]

/-- Past the parameter gates the presence gate is asked exactly once. -/
theorem Authenticator.makeCredential_approvals (self : Authenticator σ SE PE)
    (cmd : MakeCredentialCommand) (w : World σ) (gate : parameterGate cmd = none) :
    (resultWorld (self.makeCredential cmd w)).calls.countP Call.isApproval =
      w.calls.countP Call.isApproval + 1 := by
  obtain ⟨pin, ea, el, p, selected⟩ := parameterGate_eq_none gate
  rcases answered : self.presence.approveMakeCredential cmd.rp.name w.env with ⟨e | present, env⟩
  · simp [makeCredential_of_presence_error self cmd w p e env pin ea el selected answered,
      resultWorld, Call.isApproval]
  · rw [makeCredential_of_answer self cmd w p present env pin ea el selected answered]
    repeat' split
    all_goals simp [resultWorld, Call.isApproval]

/-- make_credential answers a request by the first parameter gate it fails, in the spec's
order, leaving the world as it was; a request that passes them all asks the presence gate
exactly once. -/
theorem Authenticator.makeCredential_parameter_gates (self : Authenticator σ SE PE)
    (cmd : MakeCredentialCommand) (w : World σ) :
    (∀ e, parameterGate cmd = some e → self.makeCredential cmd w = .error e w) ∧
      (parameterGate cmd = none →
        (resultWorld (self.makeCredential cmd w)).calls.countP Call.isApproval =
          w.calls.countP Call.isApproval + 1) :=
  ⟨makeCredential_of_parameterGate self cmd w, makeCredential_approvals self cmd w⟩

theorem makeCredential_parameter_gates_success :
    parameterGate { successCommand with enterpriseAttestation := some 1 } = some .invalidParameter ∧
      (fakeAuthenticator true).makeCredential { successCommand with enterpriseAttestation := some 1 }
        ⟨0, []⟩ = .error .invalidParameter ⟨0, []⟩ ∧
      parameterGate successCommand = none ∧
      (resultWorld ((fakeAuthenticator true).makeCredential successCommand ⟨0, []⟩)).calls.countP
        Call.isApproval = 1 :=
  ⟨rfl, (Authenticator.makeCredential_parameter_gates _ _ _).1 _ rfl, rfl,
    (Authenticator.makeCredential_parameter_gates _ _ _).2 rfl⟩

/-- An approved request creates a credential for the first ES256 entry, attests exactly the
descriptor it got back with `up = true` and `uv = false`, and returns what attest returned;
each error of the store is converted and ends the request. -/
theorem Authenticator.makeCredential_approved (self : Authenticator σ SE PE)
    (cmd : MakeCredentialCommand) (w : World σ) (before after : List PublicKeyCredentialParameters)
    (p : PublicKeyCredentialParameters) (env : σ) (pin : cmd.pinUvAuthParam = none)
    (ea : cmd.enterpriseAttestation = none) (el : cmd.excludeList = none)
    (first : cmd.pubKeyCredParams = before ++ p :: after) (es256 : p.alg = .es256)
    (unsupported : ∀ q ∈ before, q.alg ≠ .es256)
    (approved : self.presence.approveMakeCredential cmd.rp.name w.env = (.ok true, env)) :
    self.makeCredential cmd w =
      let approved := w.record (.approveMakeCredential cmd.rp.name) env
      match self.secrets.makeCredential p cmd.rp.id cmd.user.id env with
      | (.error e, env) =>
        .error (self.fromSecrets e) (approved.record (.makeCredential p cmd.rp.id cmd.user.id) env)
      | (.ok credential, env) =>
        let created := approved.record (.makeCredential p cmd.rp.id cmd.user.id) env
        let attested := Call.attest cmd.rp.id credential cmd.clientDataHash true false
        match self.secrets.attest cmd.rp.id credential cmd.clientDataHash true false env with
        | (.error e, env) => .error (self.fromSecrets e) (created.record attested env)
        | (.ok (authData, attStmt), env) => .ok ⟨authData, attStmt⟩ (created.record attested env) :=
  makeCredential_of_answer self cmd w p true env pin ea el
    (first ▸ find?_es256 es256 unsupported) approved

theorem makeCredential_approved_success :
    (fakeAuthenticator true).makeCredential
        { successCommand with pubKeyCredParams := [⟨⟨-257⟩, .publicKey⟩, .es256] } ⟨0, []⟩ =
      .ok ⟨⟨⟨[]⟩, true, false, 1, none⟩, .packed ⟨.es256, ⟨[0, 7]⟩, none⟩⟩ ⟨1, successCalls⟩ :=
  (Authenticator.makeCredential_approved _ _ _ [⟨⟨-257⟩, .publicKey⟩] [] _ 0 rfl rfl rfl rfl rfl
    (by decide) rfl).trans rfl

end

end Fido2Service
