import Fido2Service.StorageDefects

set_option autoImplicit false

/- Whole runs of `SoftwareCryptoStore`, over any backend. The mutex is poisoned exactly when a
call of the run panicked, so an `Err` never poisons it; every attestation of a run is made under
the aaguid and by the attestation source the store started with; and over a backend that honours
its contract and a crypto whose conversions and signatures succeed, a run whose attests and
asserts name credentials held at its start or created earlier in it never panics. -/
namespace Fido2Service

@[simp] theorem Outcome.isPanic_eq_true {E α : Type} (outcome : Outcome E α) :
    outcome.isPanic = true ↔ outcome = .panic := by
  cases outcome <;> simp [Outcome.isPanic]

@[simp] theorem Outcome.isPanic_eq_false {E α : Type} (outcome : Outcome E α) :
    outcome.isPanic = false ↔ outcome ≠ .panic := by
  cases outcome <;> simp [Outcome.isPanic]

@[simp] theorem Outcome.isPanic_map {E α β : Type} (f : α → β) (outcome : Outcome E α) :
    (outcome.map f).isPanic = outcome.isPanic := by
  cases outcome <;> rfl

theorem Outcome.map_eq_ok {E α β : Type} {f : α → β} {outcome : Outcome E α} {value : β}
    (mapped : outcome.map f = .ok value) : ∃ v, outcome = .ok v ∧ f v = value := by
  cases outcome with
  | ok v => exact ⟨v, rfl, by simpa [Outcome.map] using mapped⟩
  | err e => cases mapped
  | panic => cases mapped

/-- The credential an attest or an assert names. -/
def Op.credentialHandle? : Op → Option CredentialHandle
  | .attest _ credentialHandle _ _ _ _ => some credentialHandle
  | .assert _ credentialHandle _ _ _ _ => some credentialHandle
  | _ => none

namespace SoftwareCryptoStore

variable {S E α : Type} (crypto : Crypto) (storage : CredentialStorage S E)

/-! ## Poisoning records a panic, and nothing else -/

theorem withLockMut_poisoned_eq (self : SoftwareCryptoStore S)
    (body : Data S → Outcome E α × Data S) :
    (self.withLockMut body).2.poisoned = (self.poisoned || (self.withLockMut body).1.isPanic) := by
  cases live : self.poisoned
  · rcases result : body self.data with ⟨_ | _ | _, data⟩ <;>
      simp [withLockMut, live, result, Outcome.isPanic]
  · simp [withLockMut, live]

theorem step_poisoned_eq (self : SoftwareCryptoStore S) (op : Op) :
    (step crypto storage self op).2.poisoned =
      (self.poisoned || (step crypto storage self op).1.isPanic) := by
  cases op <;>
    simp only [step, makeCredential, attest, assert, listDiscoverableCredentials,
      listSpecifiedCredentials, withLock, Outcome.isPanic_map] <;>
    exact withLockMut_poisoned_eq _ _

/-- After a run from any state the mutex is poisoned exactly when it was poisoned at the start or
a call of the run panicked: a call that returns `Err` leaves it as it was. -/
theorem run_poisoned_iff (self : SoftwareCryptoStore S) (ops : List Op) :
    (run crypto storage self ops).2.poisoned = true ↔
      self.poisoned = true ∨ ∃ entry ∈ (run crypto storage self ops).1, entry.2 = .panic := by
  induction ops generalizing self with
  | nil => simp
  | cons op ops ih => simp [ih, step_poisoned_eq, or_assoc]

/-! ## The aaguid and the attestation source never change -/

theorem makeCredential_data (self : SoftwareCryptoStore S)
    (parameters : PublicKeyCredentialParameters) (rp : PublicKeyCredentialRpEntity)
    (userHandle : UserHandle) (random : List UInt8) :
    ∃ store, (self.makeCredential crypto storage parameters rp userHandle random).2.data =
      { self.data with store } := by
  cases live : self.poisoned
  · rcases generated : crypto.generate parameters rp userHandle random with e | key
    · exact ⟨self.data.store, by simp [makeCredential, withLockMut, live, generated]⟩
    · rcases put : storage.putDiscoverable key self.data.store with ⟨_ | _, store⟩ <;>
        exact ⟨store, by simp [makeCredential, withLockMut, live, generated, put]⟩
  · exact ⟨self.data.store, by simp [makeCredential, withLockMut, live]⟩

/-- A call changes at most the backend's state. -/
theorem step_data (self : SoftwareCryptoStore S) (op : Op) :
    ∃ store, (step crypto storage self op).2.data = { self.data with store } := by
  cases op with
  | makeCredential parameters rp userHandle random =>
    exact makeCredential_data crypto storage self parameters rp userHandle random
  | _ =>
    exact ⟨self.data.store, by simp [step, attest, assert, listDiscoverableCredentials,
      listSpecifiedCredentials]⟩

theorem step_attest_eq_ok (self : SoftwareCryptoStore S) (rpId : RelyingPartyIdentifier)
    (handle : CredentialHandle) (clientDataHash : Sha256) (userPresent userVerified : Bool)
    (random : List UInt8) (authData : AuthenticatorData) (attStmt : AttestationStatement)
    (returned : (step crypto storage self
      (.attest rpId handle clientDataHash userPresent userVerified random)).1 =
        .ok (.attestation authData attStmt)) :
    self.attest crypto storage rpId handle clientDataHash userPresent userVerified random =
      (.ok (authData, attStmt),
        (self.attest crypto storage rpId handle clientDataHash userPresent userVerified random).2) := by
  obtain ⟨⟨authData', attStmt'⟩, attested, same⟩ := Outcome.map_eq_ok returned
  cases same
  exact Prod.ext attested rfl

/-- Every attestation a run returns, from any state, is made under what the store held at the
start: its attested block carries the store's aaguid and the handle's id, its statement carries
the attestation source's certificate, and its signature is that source's over the returned
data. -/
theorem run_attestations (self : SoftwareCryptoStore S) (ops : List Op)
    (rpId : RelyingPartyIdentifier) (handle : CredentialHandle) (clientDataHash : Sha256)
    (userPresent userVerified : Bool) (random : List UInt8) (authData : AuthenticatorData)
    (attStmt : AttestationStatement)
    (returned : (.attest rpId handle clientDataHash userPresent userVerified random,
      .ok (.attestation authData attStmt)) ∈ (run crypto storage self ops).1) :
    ∃ publicKey alg signature,
      authData.attestedCredentialData =
        some [⟨self.data.aaguid, handle.descriptor.id, publicKey⟩] ∧
      attStmt = .packed ⟨alg, signature, some ⟨self.data.attestationSource.publicKeyDocument, []⟩⟩ ∧
      crypto.attestationSign self.data.attestationSource authData clientDataHash random =
        .ok signature := by
  induction ops generalizing self with
  | nil => cases returned
  | cons op ops ih =>
    rw [run_cons, List.mem_cons] at returned
    rcases returned with here | later
    · obtain ⟨rfl, stepped⟩ := Prod.mk.inj here
      obtain ⟨_, signing, signature, -, -, rfl, signed, rfl, -⟩ :=
        attest_eq_ok crypto storage _ _ _ _ _ _ _ _ _ _
          (step_attest_eq_ok crypto storage self _ _ _ _ _ _ _ _ stepped.symm)
      exact ⟨_, _, _, rfl, rfl, signed⟩
    · obtain ⟨store, kept⟩ := step_data crypto storage self op
      simpa only [kept] using ih _ later

theorem run_attestations_createOp :
    ∃ authData attStmt, (attestOp (createdKey [1]).handle, .ok (.attestation authData attStmt)) ∈
        (run echoCrypto memoryStorage freshStore [createOp [1], attestOp (createdKey [1]).handle]).1 ∧
      ∃ publicKey alg signature,
        authData.attestedCredentialData = some [⟨freshStore.data.aaguid, ⟨[1]⟩, publicKey⟩] ∧
        attStmt = .packed ⟨alg, signature,
          some ⟨freshStore.data.attestationSource.publicKeyDocument, []⟩⟩ ∧
        echoCrypto.attestationSign freshStore.data.attestationSource authData ⟨[7]⟩ [9] =
          .ok signature := by
  have returned : (attestOp (createdKey [1]).handle, .ok (.attestation _ _)) ∈
      (run echoCrypto memoryStorage freshStore [createOp [1], attestOp (createdKey [1]).handle]).1 :=
    .tail _ (.head _)
  exact ⟨_, _, returned, run_attestations echoCrypto memoryStorage freshStore _ _ _ _ _ _ _ _ _ returned⟩

/-! ## A run that names only known credentials never panics -/

section Sound

variable {view : S → CredentialId → Option PrivateKeyCredentialSource}
  (lawful : storage.Lawful view)
  (converts : ∀ key, crypto.tryInto key ≠ none)
  (signs : ∀ signing authData clientDataHash random,
    ∃ signature, crypto.sign signing authData clientDataHash random = .ok signature)
  (attestationSigns : ∀ source authData clientDataHash random,
    ∃ signature, crypto.attestationSign source authData clientDataHash random = .ok signature)
include lawful converts signs attestationSigns

/-- A call on a live mutex whose credential, if it names one, the backend holds does not panic. -/
theorem step_ne_panic (self : SoftwareCryptoStore S) (op : Op) (live : self.poisoned = false)
    (held : ∀ handle ∈ op.credentialHandle?, view self.data.store handle.descriptor.id ≠ none) :
    (step crypto storage self op).1 ≠ .panic := by
  cases op with
  | makeCredential parameters rp userHandle random =>
    rcases generated : crypto.generate parameters rp userHandle random with e | key
    · simp [step, makeCredential, withLockMut, live, generated, Outcome.map]
    · rcases put : storage.putDiscoverable key self.data.store with ⟨_ | _, store⟩ <;>
        simp [step, makeCredential, withLockMut, live, generated, put, Outcome.map]
  | attest rpId handle clientDataHash userPresent userVerified random =>
    obtain ⟨key, found⟩ := Option.ne_none_iff_exists'.mp (held handle rfl)
    obtain ⟨_, _, attested, -⟩ := attest_of_found crypto storage self live rpId handle
      clientDataHash userPresent userVerified random key (by rw [lawful.get_eq, found])
      (converts key) fun authData => attestationSigns _ authData clientDataHash random
    simp [step, attested, Outcome.map]
  | assert rpId handle clientDataHash userPresent userVerified random =>
    obtain ⟨key, found⟩ := Option.ne_none_iff_exists'.mp (held handle rfl)
    obtain ⟨_, _, asserted, -⟩ := assert_of_found crypto storage self live rpId handle
      clientDataHash userPresent userVerified random key (by rw [lawful.get_eq, found])
      (converts key) fun signing authData => signs signing authData clientDataHash random
    simp [step, asserted, Outcome.map]
  | listDiscoverableCredentials rpId =>
    rcases listed : storage.listDiscoverable rpId self.data.store <;>
      simp [step, listDiscoverableCredentials, withLock_of_live _ _ live, listed, Outcome.ofExcept,
        Outcome.map]
  | listSpecifiedCredentials rpId credentialList =>
    rcases listed : storage.listSpecified rpId credentialList self.data.store <;>
      simp [step, listSpecifiedCredentials, withLock_of_live _ _ live, listed, Outcome.ofExcept,
        Outcome.map]

theorem run_ne_panic_of_held (self : SoftwareCryptoStore S) (ops : List Op)
    (live : self.poisoned = false)
    (held : ∀ pre op post, ops = pre ++ op :: post → ∀ handle ∈ op.credentialHandle?,
      view (run crypto storage self pre).2.data.store handle.descriptor.id ≠ none) :
    (∀ entry ∈ (run crypto storage self ops).1, entry.2 ≠ .panic) ∧
      (run crypto storage self ops).2.poisoned = false := by
  induction ops generalizing self with
  | nil => exact ⟨by simp, live⟩
  | cons op ops ih =>
    have calm := step_ne_panic crypto storage lawful converts signs attestationSigns self op live
      (held [] op ops rfl)
    have still : (step crypto storage self op).2.poisoned = false := by
      simpa [step_poisoned_eq, live] using calm
    obtain ⟨rest, last⟩ := ih _ still fun pre op' post split => held (op :: pre) op' post (by
      rw [split, List.cons_append])
    exact ⟨by simpa [calm] using rest, last⟩

/-- From a live mutex, over a backend that honours its contract and a crypto whose conversions
and signatures succeed, a run in which every attest and assert names a credential the backend
held at the start, or one a make_credential earlier in the run created, never panics and leaves
the mutex live. -/
theorem run_never_panics (self : SoftwareCryptoStore S) (ops : List Op)
    (live : self.poisoned = false)
    (known : ∀ pre op post, ops = pre ++ op :: post → ∀ handle ∈ op.credentialHandle?,
      view self.data.store handle.descriptor.id ≠ none ∨
        ∃ key ∈ (run crypto storage self pre).1.filterMap (stored crypto),
          key.id = handle.descriptor.id) :
    (∀ entry ∈ (run crypto storage self ops).1, entry.2 ≠ .panic) ∧
      (run crypto storage self ops).2.poisoned = false :=
  run_ne_panic_of_held crypto storage lawful converts signs attestationSigns self ops live
    fun pre op post split handle named => by
      rw [run_view crypto storage lawful]
      exact putAll_ne_none _ _ _ (known pre op post split handle named)

end Sound

end SoftwareCryptoStore

open SoftwareCryptoStore

theorem run_never_panics_createOp :
    (∀ entry ∈ (run echoCrypto memoryStorage freshStore [createOp [1],
        assertOp (createdKey [1]).handle, attestOp (createdKey [1]).handle]).1, entry.2 ≠ .panic) ∧
      (run echoCrypto memoryStorage freshStore [createOp [1], assertOp (createdKey [1]).handle,
        attestOp (createdKey [1]).handle]).2.poisoned = false := by
  refine run_never_panics echoCrypto memoryStorage memoryStorage_lawful
    (fun _ => by simp [echoCrypto]) (fun _ _ _ _ => ⟨_, rfl⟩) (fun _ _ _ _ => ⟨_, rfl⟩) freshStore _
    rfl ?_
  intro pre op post split handle named
  rcases pre with _ | ⟨a, _ | ⟨b, _ | ⟨c, pre⟩⟩⟩ <;>
    simp only [List.nil_append, List.cons_append, List.cons.injEq] at split
  · obtain ⟨rfl, -⟩ := split
    cases named
  · obtain ⟨rfl, rfl, -⟩ := split
    cases named
    exact .inr ⟨createdKey [1], .head _, rfl⟩
  · obtain ⟨rfl, rfl, rfl, -⟩ := split
    cases named
    exact .inr ⟨createdKey [1], .head _, rfl⟩
  · simp at split

end Fido2Service
