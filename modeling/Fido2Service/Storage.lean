import Fido2Service.Api

set_option autoImplicit false

/- `SoftwareCryptoStore` of storage.rs: a credential engine over a pluggable `CredentialStorage`
behind one `Mutex`. crate::crypto, ring and `Sha256::digest` are not among the sources; what the
engine calls of them is the parameter `Crypto`, and the bytes a call draws from `SystemRandom`
are an argument of that call. A panic (`unwrap`, `todo!`) is an outcome of its own, and one
raised while the guard is held poisons the mutex. -/
namespace Fido2Service

structure Unspecified where
  deriving DecidableEq, Repr

/-- Modelled from the spec: `PrivateKeyCredentialSource` of crate::crypto, the durable record
of §3. -/
structure PrivateKeyCredentialSource where
  alg : COSEAlgorithmIdentifier
  rpId : RelyingPartyIdentifier
  userHandle : UserHandle
  id : CredentialId
  privateKey : List UInt8
  deriving DecidableEq, Repr

/-- Modelled from the spec: `CredentialHandle`, of which the sources read the descriptor. -/
structure CredentialHandle where
  descriptor : PublicKeyCredentialDescriptor
  deriving DecidableEq, Repr

/-- Modelled from the spec: `key.handle()`, the handle that carries the record's id. -/
def PrivateKeyCredentialSource.handle (key : PrivateKeyCredentialSource) : CredentialHandle :=
  ⟨⟨key.id⟩⟩

@[simp] theorem PrivateKeyCredentialSource.handle_id (key : PrivateKeyCredentialSource) :
    key.handle.descriptor.id = key.id := rfl

/-- Modelled from the spec: `PublicKeyCredentialSource`, the signing view of a record, with
what `credential_public_key()` and `alg()` return. -/
structure PublicKeyCredentialSource where
  alg : COSEAlgorithmIdentifier
  credentialPublicKey : CoseKey
  privateKey : List UInt8
  deriving DecidableEq, Repr

/-- Modelled from the spec: `AttestationSource`, the authenticator's own key and the
certificate `public_key_document()` returns. -/
structure AttestationSource where
  privateKey : List UInt8
  publicKeyDocument : List UInt8
  deriving DecidableEq, Repr

/-- The cryptography storage.rs calls. `random` is what the call draws from `SystemRandom`. -/
structure Crypto where
  /-- `PrivateKeyCredentialSource::generate` -/
  generate : PublicKeyCredentialParameters → PublicKeyCredentialRpEntity → UserHandle →
    List UInt8 → Except Unspecified PrivateKeyCredentialSource
  /-- `try_into()` of a record into its signing view -/
  tryInto : PrivateKeyCredentialSource → Option PublicKeyCredentialSource
  /-- `PublicKeyCredentialSource::sign` -/
  sign : PublicKeyCredentialSource → AuthenticatorData → Sha256 → List UInt8 →
    Except Unspecified Signature
  /-- `AttestationSource::sign` -/
  attestationSign : AttestationSource → AuthenticatorData → Sha256 → List UInt8 →
    Except Unspecified Signature
  /-- `Sha256::digest` -/
  digest : List UInt8 → Sha256

/-- The `CredentialStorage` trait over backend states `S` with errors `E`, with the
`From<ring::error::Unspecified>` conversion the engine requires of `E`. Reads take `&self`,
so they return no new state. -/
structure CredentialStorage (S E : Type) where
  putDiscoverable : PrivateKeyCredentialSource → S → Except E Unit × S
  get : CredentialHandle → S → Except E (Option PrivateKeyCredentialSource)
  listDiscoverable : RelyingPartyIdentifier → S → Except E (List CredentialHandle)
  listSpecified : RelyingPartyIdentifier → List PublicKeyCredentialDescriptor → S →
    Except E (List CredentialHandle)
  fromUnspecified : Unspecified → E

/-- `Data<S>`; its `rng`, a `SystemRandom`, holds no state. -/
structure Data (S : Type) where
  aaguid : Aaguid
  store : S
  attestationSource : AttestationSource

/-- How an engine operation ends. -/
inductive Outcome (E α : Type) where
  | ok (value : α)
  | err (e : E)
  | panic
  deriving DecidableEq, Repr

def Outcome.ofExcept {E α : Type} : Except E α → Outcome E α
  | .ok value => .ok value
  | .error e => .err e

def Outcome.map {E α β : Type} (f : α → β) : Outcome E α → Outcome E β
  | .ok value => .ok (f value)
  | .err e => .err e
  | .panic => .panic

def Outcome.isPanic {E α : Type} : Outcome E α → Bool
  | .panic => true
  | _ => false

@[simp] theorem Outcome.map_eq_panic {E α β : Type} (f : α → β) (outcome : Outcome E α) :
    outcome.map f = .panic ↔ outcome = .panic := by
  cases outcome <;> simp [Outcome.map]

/-- `SoftwareCryptoStore<S>`: the data behind the `Mutex`, and whether a panic poisoned it. -/
structure SoftwareCryptoStore (S : Type) where
  data : Data S
  poisoned : Bool

namespace SoftwareCryptoStore

variable {S E α : Type}

/-- `SoftwareCryptoStore::new`: a mutex nobody has poisoned. -/
def new (store : S) (aaguid : Aaguid) (attestationSource : AttestationSource) :
    SoftwareCryptoStore S :=
  ⟨⟨aaguid, store, attestationSource⟩, false⟩

/-- `let mut this = self.0.lock().unwrap()` and a body that may change the data: a poisoned
mutex panics at the lock, and a body that panics while holding the guard poisons it. -/
def withLockMut (self : SoftwareCryptoStore S) (body : Data S → Outcome E α × Data S) :
    Outcome E α × SoftwareCryptoStore S :=
  if self.poisoned then (.panic, self)
  else
    match body self.data with
    | (.panic, data) => (.panic, ⟨data, true⟩)
    | (outcome, data) => (outcome, ⟨data, false⟩)

/-- `let this = self.0.lock().unwrap()` and a body that only reads the data. -/
def withLock (self : SoftwareCryptoStore S) (body : Data S → Outcome E α) :
    Outcome E α × SoftwareCryptoStore S :=
  self.withLockMut fun this => (body this, this)

@[simp] theorem withLockMut_poisoned (self : SoftwareCryptoStore S)
    (body : Data S → Outcome E α × Data S) (poisoned : self.poisoned = true) :
    self.withLockMut body = (.panic, self) := by
  simp [withLockMut, poisoned]

theorem withLock_of_live (self : SoftwareCryptoStore S) (body : Data S → Outcome E α)
    (live : self.poisoned = false) :
    self.withLock body = (body self.data, ⟨self.data, (body self.data).isPanic⟩) := by
  simp only [withLock, withLockMut, live]
  cases body self.data <;> rfl

/-- A read leaves the data as it was, whatever it returns. -/
@[simp] theorem withLock_data (self : SoftwareCryptoStore S) (body : Data S → Outcome E α) :
    (self.withLock body).2.data = self.data := by
  cases h : self.poisoned
  · simp [withLock_of_live self body h]
  · simp [withLock, h]

/-- A read that returned `Ok` ran its body on a live mutex and left the store as it was. -/
theorem withLock_eq_ok (self : SoftwareCryptoStore S) (body : Data S → Outcome E α) (value : α)
    (next : SoftwareCryptoStore S) (returned : self.withLock body = (.ok value, next)) :
    body self.data = .ok value ∧ next = self := by
  cases live : self.poisoned
  · rw [withLock_of_live _ _ live, Prod.mk.injEq] at returned
    obtain ⟨found, rfl⟩ := returned
    exact ⟨found, by cases self; simp_all [Outcome.isPanic]⟩
  · simp [withLock, live] at returned

section Operations

variable (crypto : Crypto) (storage : CredentialStorage S E)

/-- `SoftwareCryptoStore::make_credential`. -/
def makeCredential (self : SoftwareCryptoStore S) (parameters : PublicKeyCredentialParameters)
    (rp : PublicKeyCredentialRpEntity) (userHandle : UserHandle) (random : List UInt8) :
    Outcome E CredentialHandle × SoftwareCryptoStore S :=
  self.withLockMut fun this =>
    match crypto.generate parameters rp userHandle random with
    | .error e => (.err (storage.fromUnspecified e), this)
    | .ok key =>
      let handle := key.handle
      match storage.putDiscoverable key this.store with
      | (.error e, store) => (.err e, { this with store })
      | (.ok (), store) => (.ok handle, { this with store })

/-- The lookup attest and assert share: `this.store.get(credential_handle)?`, then
`key.try_into().unwrap()` on a record, and `todo!("error")` when there is none. -/
def withKey (this : Data S) (credentialHandle : CredentialHandle)
    (body : PublicKeyCredentialSource → Outcome E α) : Outcome E α :=
  match storage.get credentialHandle this.store with
  | .error e => .err e
  | .ok none => .panic
  | .ok (some key) =>
    match crypto.tryInto key with
    | none => .panic
    | some key => body key

/-- `SoftwareCryptoStore::attest`: signed by the attestation source, `unwrap` on the
signature. -/
def attest (self : SoftwareCryptoStore S) (rpId : RelyingPartyIdentifier)
    (credentialHandle : CredentialHandle) (clientDataHash : Sha256)
    (userPresent userVerified : Bool) (random : List UInt8) :
    Outcome E (AuthenticatorData × AttestationStatement) × SoftwareCryptoStore S :=
  self.withLock fun this =>
    withKey crypto storage this credentialHandle fun key =>
      let authData : AuthenticatorData :=
        { rpIdHash := crypto.digest rpId.asBytes, userPresent, userVerified, signCount := 1,
          attestedCredentialData :=
            some [⟨this.aaguid, credentialHandle.descriptor.id, key.credentialPublicKey⟩] }
      match crypto.attestationSign this.attestationSource authData clientDataHash random with
      | .error _ => .panic
      | .ok signature =>
        .ok (authData,
          .packed ⟨key.alg, signature, some ⟨this.attestationSource.publicKeyDocument, []⟩⟩)

/-- `SoftwareCryptoStore::assert`: signed by the credential's own key, `unwrap` on the
signature. -/
def assert (self : SoftwareCryptoStore S) (rpId : RelyingPartyIdentifier)
    (credentialHandle : CredentialHandle) (clientDataHash : Sha256)
    (userPresent userVerified : Bool) (random : List UInt8) :
    Outcome E (AuthenticatorData × Signature) × SoftwareCryptoStore S :=
  self.withLock fun this =>
    withKey crypto storage this credentialHandle fun key =>
      let authData : AuthenticatorData :=
        { rpIdHash := crypto.digest rpId.asBytes, userPresent, userVerified, signCount := 2,
          attestedCredentialData := none }
      match crypto.sign key authData clientDataHash random with
      | .error _ => .panic
      | .ok signature => .ok (authData, signature)

/-- `SoftwareCryptoStore::list_discoverable_credentials`. -/
def listDiscoverableCredentials (self : SoftwareCryptoStore S) (rpId : RelyingPartyIdentifier) :
    Outcome E (List CredentialHandle) × SoftwareCryptoStore S :=
  self.withLock fun this => .ofExcept (storage.listDiscoverable rpId this.store)

/-- `SoftwareCryptoStore::list_specified_credentials`. -/
def listSpecifiedCredentials (self : SoftwareCryptoStore S) (rpId : RelyingPartyIdentifier)
    (credentialList : List PublicKeyCredentialDescriptor) :
    Outcome E (List CredentialHandle) × SoftwareCryptoStore S :=
  self.withLock fun this => .ofExcept (storage.listSpecified rpId credentialList this.store)

theorem withKey_of_found (this : Data S) (credentialHandle : CredentialHandle)
    (body : PublicKeyCredentialSource → Outcome E α) (key : PrivateKeyCredentialSource)
    (found : storage.get credentialHandle this.store = .ok (some key)) :
    withKey crypto storage this credentialHandle body =
      match crypto.tryInto key with
      | none => .panic
      | some key => body key := by
  simp only [withKey, found]

/-- A lookup whose body returned `Ok` found a record and converted it. -/
theorem withKey_eq_ok (this : Data S) (credentialHandle : CredentialHandle)
    (body : PublicKeyCredentialSource → Outcome E α) (value : α)
    (returned : withKey crypto storage this credentialHandle body = .ok value) :
    ∃ key signing, storage.get credentialHandle this.store = .ok (some key) ∧
      crypto.tryInto key = some signing ∧ body signing = .ok value := by
  unfold withKey at returned
  split at returned
  · cases returned
  · cases returned
  next key found =>
  split at returned
  · cases returned
  next signing converted => exact ⟨key, signing, found, converted, returned⟩

theorem withKey_of_missing (this : Data S) (credentialHandle : CredentialHandle)
    (body : PublicKeyCredentialSource → Outcome E α)
    (missing : storage.get credentialHandle this.store = .ok none) :
    withKey crypto storage this credentialHandle body = .panic := by
  simp only [withKey, missing]

end Operations

end SoftwareCryptoStore

/-- A call to the engine, with the bytes it draws from `SystemRandom`. -/
inductive Op where
  | makeCredential (parameters : PublicKeyCredentialParameters) (rp : PublicKeyCredentialRpEntity)
      (userHandle : UserHandle) (random : List UInt8)
  | attest (rpId : RelyingPartyIdentifier) (credentialHandle : CredentialHandle)
      (clientDataHash : Sha256) (userPresent userVerified : Bool) (random : List UInt8)
  | assert (rpId : RelyingPartyIdentifier) (credentialHandle : CredentialHandle)
      (clientDataHash : Sha256) (userPresent userVerified : Bool) (random : List UInt8)
  | listDiscoverableCredentials (rpId : RelyingPartyIdentifier)
  | listSpecifiedCredentials (rpId : RelyingPartyIdentifier)
      (credentialList : List PublicKeyCredentialDescriptor)
  deriving DecidableEq, Repr

/-- What a call returns when it returns `Ok`. -/
inductive Reply where
  | handle (credentialHandle : CredentialHandle)
  | attestation (authData : AuthenticatorData) (attStmt : AttestationStatement)
  | assertion (authData : AuthenticatorData) (signature : Signature)
  | handles (credentialHandles : List CredentialHandle)
  deriving DecidableEq, Repr

namespace SoftwareCryptoStore

variable {S E : Type} (crypto : Crypto) (storage : CredentialStorage S E)

/-- One call, made while the caller holds the lock. -/
def step (self : SoftwareCryptoStore S) : Op → Outcome E Reply × SoftwareCryptoStore S
  | .makeCredential parameters rp userHandle random =>
    let (outcome, next) := self.makeCredential crypto storage parameters rp userHandle random
    (outcome.map .handle, next)
  | .attest rpId credentialHandle clientDataHash userPresent userVerified random =>
    let (outcome, next) :=
      self.attest crypto storage rpId credentialHandle clientDataHash userPresent userVerified random
    (outcome.map fun (authData, attStmt) => .attestation authData attStmt, next)
  | .assert rpId credentialHandle clientDataHash userPresent userVerified random =>
    let (outcome, next) :=
      self.assert crypto storage rpId credentialHandle clientDataHash userPresent userVerified random
    (outcome.map fun (authData, signature) => .assertion authData signature, next)
  | .listDiscoverableCredentials rpId =>
    let (outcome, next) := self.listDiscoverableCredentials storage rpId
    (outcome.map .handles, next)
  | .listSpecifiedCredentials rpId credentialList =>
    let (outcome, next) := self.listSpecifiedCredentials storage rpId credentialList
    (outcome.map .handles, next)

/-- A run: the calls in the order they took the lock, each with how it ended. Every
operation holds the one lock from its start to its end, so every interleaving of callers is
such a sequence. -/
def run (self : SoftwareCryptoStore S) : List Op → List (Op × Outcome E Reply) × SoftwareCryptoStore S
  | [] => ([], self)
  | op :: ops =>
    let (outcome, next) := step crypto storage self op
    let (trace, last) := run next ops
    ((op, outcome) :: trace, last)

@[simp] theorem run_nil (self : SoftwareCryptoStore S) : run crypto storage self [] = ([], self) :=
  rfl

@[simp] theorem run_cons (self : SoftwareCryptoStore S) (op : Op) (ops : List Op) :
    run crypto storage self (op :: ops) =
      ((op, (step crypto storage self op).1) :: (run crypto storage (step crypto storage self op).2 ops).1,
        (run crypto storage (step crypto storage self op).2 ops).2) :=
  rfl

end SoftwareCryptoStore

end Fido2Service
