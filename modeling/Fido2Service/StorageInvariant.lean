import Fido2Service.Storage

set_option autoImplicit false

/- What a run of `SoftwareCryptoStore` keeps: over a backend that honours the
`CredentialStorage` contract, the backend holds exactly the records of the make_credential
calls that returned `Ok`, each under its own id; and once a panic has poisoned the mutex,
every later call panics. -/
namespace Fido2Service

variable {S E : Type}

/-- The `CredentialStorage` contract, against a view of each backend state as a map from
credential ids to records: `get` returns the record last put under the handle's id, and a
failed put changes nothing. -/
structure CredentialStorage.Lawful (storage : CredentialStorage S E)
    (view : S → CredentialId → Option PrivateKeyCredentialSource) : Prop where
  get_eq : ∀ handle store, storage.get handle store = .ok (view store handle.descriptor.id)
  put_ok : ∀ key store store', storage.putDiscoverable key store = (.ok (), store') →
    view store' = Function.update (view store) key.id (some key)
  put_error : ∀ key store e store', storage.putDiscoverable key store = (.error e, store') →
    store' = store

/-- The record a call stored: the generated key of a make_credential that returned `Ok`. -/
def stored (crypto : Crypto) : Op × Outcome E Reply → Option PrivateKeyCredentialSource
  | (.makeCredential parameters rp userHandle random, .ok _) =>
    (crypto.generate parameters rp userHandle random).toOption
  | _ => none

/-- The map of records once `keys` have been put, in order, over `view`. -/
def putAll (view : CredentialId → Option PrivateKeyCredentialSource) :
    List PrivateKeyCredentialSource → CredentialId → Option PrivateKeyCredentialSource
  | [] => view
  | key :: keys => putAll (Function.update view key.id (some key)) keys

theorem putAll_of_forall_ne (view : CredentialId → Option PrivateKeyCredentialSource)
    (keys : List PrivateKeyCredentialSource) (id : CredentialId)
    (other : ∀ key ∈ keys, key.id ≠ id) : putAll view keys id = view id := by
  induction keys generalizing view with
  | nil => rfl
  | cons key keys ih =>
    rw [putAll, ih _ (fun k mem => other k (.tail _ mem)),
      Function.update_noteq (other key (.head _)).symm]

/-- With distinct ids, every record put is the one its id maps to. -/
theorem putAll_of_mem (view : CredentialId → Option PrivateKeyCredentialSource)
    (keys : List PrivateKeyCredentialSource) (distinct : keys.Pairwise (·.id ≠ ·.id))
    (key : PrivateKeyCredentialSource) (mem : key ∈ keys) : putAll view keys key.id = some key := by
  induction keys generalizing view with
  | nil => cases mem
  | cons first keys ih =>
    rw [List.pairwise_cons] at distinct
    rcases List.mem_cons.mp mem with rfl | later
    · rw [putAll, putAll_of_forall_ne _ _ _ (fun k mem => (distinct.1 k mem).symm),
        Function.update_same]
    · exact ih _ distinct.2 later

/-- Every record the map holds was put under that id, or was there before. -/
theorem putAll_eq_some (view : CredentialId → Option PrivateKeyCredentialSource)
    (keys : List PrivateKeyCredentialSource) (id : CredentialId) (key : PrivateKeyCredentialSource)
    (held : putAll view keys id = some key) : (key ∈ keys ∧ key.id = id) ∨ view id = some key := by
  induction keys generalizing view with
  | nil => exact .inr held
  | cons first keys ih =>
    rcases ih _ held with ⟨mem, same⟩ | before
    · exact .inl ⟨.tail _ mem, same⟩
    · by_cases here : id = first.id
      · subst here
        rw [Function.update_same] at before
        cases before
        exact .inl ⟨.head _, rfl⟩
      · exact .inr (by rwa [Function.update_noteq here] at before)

/-- An id the map held before, or that a record was put under, maps to some record. -/
theorem putAll_ne_none (view : CredentialId → Option PrivateKeyCredentialSource)
    (keys : List PrivateKeyCredentialSource) (id : CredentialId)
    (known : view id ≠ none ∨ ∃ key ∈ keys, key.id = id) : putAll view keys id ≠ none := by
  induction keys generalizing view with
  | nil => simpa using known
  | cons first keys ih =>
    refine ih _ ?_
    by_cases here : first.id = id
    · subst here
      simp
    · simpa [Function.update_noteq (Ne.symm here), here] using known

/-! ## A backend and a crypto to run the engine on -/

/-- A backend that keeps its records in a list, newest first, as the tests' in-memory store
keeps them in a map: a put replaces the record of the same id. -/
def memoryStorage : CredentialStorage (List PrivateKeyCredentialSource) Unspecified where
  putDiscoverable key records := (.ok (), key :: records.filter (·.id != key.id))
  get handle records := .ok (records.find? (·.id == handle.descriptor.id))
  listDiscoverable rpId records := .ok ((records.filter (·.rpId == rpId)).map (·.handle))
  listSpecified rpId credentialList records :=
    .ok ((records.filter fun key => key.rpId == rpId && credentialList.any (·.id == key.id)).map
      (·.handle))
  fromUnspecified := id

def memoryView (records : List PrivateKeyCredentialSource) (id : CredentialId) :
    Option PrivateKeyCredentialSource :=
  records.find? (·.id == id)

/-- The list backend meets the contract, so the runs' theorems are not about an empty class. -/
theorem memoryStorage_lawful : memoryStorage.Lawful memoryView where
  get_eq _ _ := rfl
  put_ok key records store' put := by
    cases put
    funext id
    by_cases same : key.id = id
    · subst same
      simp [memoryView]
    · have kept : (fun k : PrivateKeyCredentialSource =>
          decide ((k.id != key.id) = true ∧ (k.id == id) = true)) = (·.id == id) := by
        funext k
        by_cases here : k.id = id
        · simp [here, Ne.symm same]
        · simp [here]
      simp only [memoryView]
      rw [Function.update_noteq (Ne.symm same), List.find?_cons_of_neg _ (by simpa using same),
        List.find?_filter, kept]
      rfl
  put_error _ _ _ _ put := by cases put

/-- A stand-in for crate::crypto: a credential's id and key are the bytes drawn for it, every
record converts, and a signature is the bytes drawn for it. -/
def echoCrypto : Crypto where
  generate parameters rp userHandle random :=
    .ok ⟨parameters.alg, rp.id, userHandle, ⟨random⟩, random⟩
  tryInto key := some ⟨key.alg, ⟨key.privateKey, []⟩, key.privateKey⟩
  sign _ _ _ random := .ok ⟨random⟩
  attestationSign _ _ _ random := .ok ⟨random⟩
  digest bytes := ⟨bytes⟩

def freshStore : SoftwareCryptoStore (List PrivateKeyCredentialSource) :=
  .new [] ⟨[]⟩ ⟨[], []⟩

/-- Create an example.com credential from the drawn bytes `random`. -/
def createOp (random : List UInt8) : Op :=
  .makeCredential ⟨.es256, .publicKey⟩ ⟨⟨"example.com"⟩, "Example RP"⟩ ⟨[1]⟩ random

/-- The record `createOp random` generates under `echoCrypto`. -/
def createdKey (random : List UInt8) : PrivateKeyCredentialSource :=
  ⟨.es256, ⟨"example.com"⟩, ⟨[1]⟩, ⟨random⟩, random⟩

namespace SoftwareCryptoStore

variable (crypto : Crypto) (storage : CredentialStorage S E)

/-- A poisoned mutex fails every call at `lock().unwrap()` and stays as it is. -/
theorem step_poisoned (self : SoftwareCryptoStore S) (op : Op)
    (poisoned : self.poisoned = true) : step crypto storage self op = (.panic, self) := by
  cases op <;>
    simp [step, makeCredential, attest, assert, listDiscoverableCredentials,
      listSpecifiedCredentials, withLock, poisoned, Outcome.map]

/-- Once the mutex is poisoned, every later call of a run panics. -/
theorem run_poisoned (self : SoftwareCryptoStore S) (ops : List Op)
    (poisoned : self.poisoned = true) :
    run crypto storage self ops = (ops.map (·, .panic), self) := by
  induction ops with
  | nil => rfl
  | cons op ops ih => simp [step_poisoned crypto storage self op poisoned, ih]

/-- What an attest that returned `Ok` did: it found a record for the handle, converted it,
and had the attestation source sign the data it built; the store is as it was. -/
theorem attest_eq_ok (self : SoftwareCryptoStore S) (rpId : RelyingPartyIdentifier)
    (handle : CredentialHandle) (clientDataHash : Sha256) (userPresent userVerified : Bool)
    (random : List UInt8) (authData : AuthenticatorData) (attStmt : AttestationStatement)
    (next : SoftwareCryptoStore S)
    (attested : self.attest crypto storage rpId handle clientDataHash userPresent userVerified
      random = (.ok (authData, attStmt), next)) :
    ∃ key signing signature, storage.get handle self.data.store = .ok (some key) ∧
      crypto.tryInto key = some signing ∧
      authData =
        { rpIdHash := crypto.digest rpId.asBytes, userPresent, userVerified, signCount := 1,
          attestedCredentialData :=
            some [⟨self.data.aaguid, handle.descriptor.id, signing.credentialPublicKey⟩] } ∧
      crypto.attestationSign self.data.attestationSource authData clientDataHash random =
        .ok signature ∧
      attStmt = .packed ⟨signing.alg, signature,
        some ⟨self.data.attestationSource.publicKeyDocument, []⟩⟩ ∧
      next = self := by
  obtain ⟨body, rfl⟩ := withLock_eq_ok _ _ _ _ attested
  obtain ⟨key, signing, found, converted, signed⟩ := withKey_eq_ok crypto storage _ _ _ _ body
  dsimp only at signed
  split at signed
  · cases signed
  next signature signature_ok =>
  cases signed
  exact ⟨key, signing, signature, found, converted, rfl, signature_ok, rfl, rfl⟩

/-- What an assert that returned `Ok` did: it found a record for the handle, converted it,
and signed the data it built with the credential's own key; the store is as it was. -/
theorem assert_eq_ok (self : SoftwareCryptoStore S) (rpId : RelyingPartyIdentifier)
    (handle : CredentialHandle) (clientDataHash : Sha256) (userPresent userVerified : Bool)
    (random : List UInt8) (authData : AuthenticatorData) (signature : Signature)
    (next : SoftwareCryptoStore S)
    (asserted : self.assert crypto storage rpId handle clientDataHash userPresent userVerified
      random = (.ok (authData, signature), next)) :
    ∃ key signing, storage.get handle self.data.store = .ok (some key) ∧
      crypto.tryInto key = some signing ∧
      authData =
        { rpIdHash := crypto.digest rpId.asBytes, userPresent, userVerified, signCount := 2,
          attestedCredentialData := none } ∧
      crypto.sign signing authData clientDataHash random = .ok signature ∧ next = self := by
  obtain ⟨body, rfl⟩ := withLock_eq_ok _ _ _ _ asserted
  obtain ⟨key, signing, found, converted, signed⟩ := withKey_eq_ok crypto storage _ _ _ _ body
  dsimp only at signed
  split at signed
  · cases signed
  next signature_ok =>
  cases signed
  exact ⟨key, signing, found, converted, rfl, signature_ok, rfl⟩

/-- An attest on a live mutex whose backend returns a record for the handle returns `Ok` with the
digest of the requested relying party and leaves the store as it was, when the record converts
and the attestation source signs. -/
theorem attest_of_found (self : SoftwareCryptoStore S) (live : self.poisoned = false)
    (rpId : RelyingPartyIdentifier) (handle : CredentialHandle) (clientDataHash : Sha256)
    (userPresent userVerified : Bool) (random : List UInt8) (key : PrivateKeyCredentialSource)
    (found : storage.get handle self.data.store = .ok (some key))
    (converts : crypto.tryInto key ≠ none)
    (attestationSigns : ∀ authData, ∃ signature,
      crypto.attestationSign self.data.attestationSource authData clientDataHash random =
        .ok signature) :
    ∃ authData attStmt, self.attest crypto storage rpId handle clientDataHash userPresent
        userVerified random = (.ok (authData, attStmt), self) ∧
      authData.rpIdHash = crypto.digest rpId.asBytes := by
  obtain ⟨signing, converted⟩ := Option.ne_none_iff_exists'.mp converts
  obtain ⟨signature, signed⟩ := attestationSigns
    { rpIdHash := crypto.digest rpId.asBytes, userPresent, userVerified, signCount := 1,
      attestedCredentialData :=
        some [⟨self.data.aaguid, handle.descriptor.id, signing.credentialPublicKey⟩] }
  simp [attest, withLock_of_live _ _ live, withKey_of_found crypto storage _ _ _ key found,
    converted, signed, Outcome.isPanic]
  exact ⟨_, ⟨rfl, by rw [← live]⟩, rfl⟩

/-- An assert on a live mutex whose backend returns a record for the handle returns `Ok` in the
same way, when the record converts and its key signs. -/
theorem assert_of_found (self : SoftwareCryptoStore S) (live : self.poisoned = false)
    (rpId : RelyingPartyIdentifier) (handle : CredentialHandle) (clientDataHash : Sha256)
    (userPresent userVerified : Bool) (random : List UInt8) (key : PrivateKeyCredentialSource)
    (found : storage.get handle self.data.store = .ok (some key))
    (converts : crypto.tryInto key ≠ none)
    (signs : ∀ signing authData, ∃ signature,
      crypto.sign signing authData clientDataHash random = .ok signature) :
    ∃ authData signature, self.assert crypto storage rpId handle clientDataHash userPresent
        userVerified random = (.ok (authData, signature), self) ∧
      authData.rpIdHash = crypto.digest rpId.asBytes := by
  obtain ⟨signing, converted⟩ := Option.ne_none_iff_exists'.mp converts
  obtain ⟨signature, signed⟩ := signs signing
    { rpIdHash := crypto.digest rpId.asBytes, userPresent, userVerified, signCount := 2,
      attestedCredentialData := none }
  simp [assert, withLock_of_live _ _ live, withKey_of_found crypto storage _ _ _ key found,
    converted, signed, Outcome.isPanic]
  exact ⟨_, ⟨rfl, by rw [← live]⟩, rfl⟩

end SoftwareCryptoStore

section Lawful

variable (crypto : Crypto) (storage : CredentialStorage S E)
  {view : S → CredentialId → Option PrivateKeyCredentialSource} (lawful : storage.Lawful view)
include lawful

/-- One call changes the backend's map only by the record a make_credential that returned
`Ok` put. -/
theorem SoftwareCryptoStore.step_view (self : SoftwareCryptoStore S) (op : Op) :
    view (step crypto storage self op).2.data.store =
      match stored crypto (op, (step crypto storage self op).1) with
      | some key => Function.update (view self.data.store) key.id (some key)
      | none => view self.data.store := by
  cases live : self.poisoned
  · cases op with
    | makeCredential parameters rp userHandle random =>
      rcases generated : crypto.generate parameters rp userHandle random with e | key
      · simp [step, makeCredential, withLockMut, live, generated, stored, Outcome.map]
      · rcases put : storage.putDiscoverable key self.data.store with ⟨e | ⟨⟩, store⟩
        · simp [step, makeCredential, withLockMut, live, generated, put, stored, Outcome.map,
            lawful.put_error _ _ _ _ put]
        · simp [step, makeCredential, withLockMut, live, generated, put, stored, Outcome.map,
            lawful.put_ok _ _ _ put, Except.toOption]
    | _ => simp [step, stored, attest, assert, listDiscoverableCredentials,
        listSpecifiedCredentials]
  · cases op <;> simp [step_poisoned crypto storage self _ live, stored]

/-- The backend's map after a run is the map before it with the records of the run's
successful make_credential calls put in order. -/
theorem SoftwareCryptoStore.run_view (self : SoftwareCryptoStore S) (ops : List Op) :
    view (run crypto storage self ops).2.data.store =
      putAll (view self.data.store) ((run crypto storage self ops).1.filterMap (stored crypto)) := by
  induction ops generalizing self with
  | nil => rfl
  | cons op ops ih =>
    rw [run_cons, ih, step_view crypto storage lawful self op, List.filterMap_cons]
    cases stored crypto (op, (step crypto storage self op).1) <;> rfl

/-- A record a run created is the one the backend returns for its handle at the end of it,
from any state the run starts in. -/
theorem SoftwareCryptoStore.get_of_created (self : SoftwareCryptoStore S) (ops : List Op)
    (distinct : ((run crypto storage self ops).1.filterMap (stored crypto)).Pairwise (·.id ≠ ·.id))
    (key : PrivateKeyCredentialSource)
    (created : key ∈ (run crypto storage self ops).1.filterMap (stored crypto)) :
    storage.get key.handle (run crypto storage self ops).2.data.store = .ok (some key) := by
  rw [lawful.get_eq, run_view crypto storage lawful, key.handle_id,
    putAll_of_mem _ _ distinct key created]

/-- After a run from a fresh store whose created ids are distinct, the backend returns a record
for a handle exactly when a make_credential of the run returned `Ok` with that record under the
handle's id. -/
theorem SoftwareCryptoStore.run_get (store : S) (fresh : view store = fun _ => none)
    (aaguid : Aaguid) (source : AttestationSource) (ops : List Op)
    (distinct : ((run crypto storage (new store aaguid source) ops).1.filterMap
      (stored crypto)).Pairwise (·.id ≠ ·.id))
    (handle : CredentialHandle) (key : PrivateKeyCredentialSource) :
    storage.get handle (run crypto storage (new store aaguid source) ops).2.data.store =
        .ok (some key) ↔
      key ∈ (run crypto storage (new store aaguid source) ops).1.filterMap (stored crypto) ∧
        key.id = handle.descriptor.id := by
  rw [lawful.get_eq, run_view crypto storage lawful, Except.ok.injEq]
  constructor
  · intro held
    simpa [new, fresh] using putAll_eq_some _ _ _ _ held
  · rintro ⟨created, same⟩
    rw [← same, putAll_of_mem _ _ distinct key created]

omit lawful in
theorem run_get_createOp :
    memoryStorage.get (createdKey [1]).handle
        (SoftwareCryptoStore.run echoCrypto memoryStorage freshStore
          [createOp [1], createOp [2]]).2.data.store =
      .ok (some (createdKey [1])) :=
  (SoftwareCryptoStore.run_get echoCrypto memoryStorage memoryStorage_lawful [] rfl ⟨[]⟩ ⟨[], []⟩
    [createOp [1], createOp [2]] (by decide) _ _).mpr ⟨by decide, rfl⟩

/-- At the end of every run whose created ids are distinct, an attest with the handle of a
record the run created that returns `Ok` pairs the handle's id with that record's public key,
and such an assert signs with that record's key. -/
theorem SoftwareCryptoStore.run_sign_created (self : SoftwareCryptoStore S) (ops : List Op)
    (distinct : ((run crypto storage self ops).1.filterMap (stored crypto)).Pairwise (·.id ≠ ·.id))
    (key : PrivateKeyCredentialSource)
    (created : key ∈ (run crypto storage self ops).1.filterMap (stored crypto))
    (rpId : RelyingPartyIdentifier) (clientDataHash : Sha256) (userPresent userVerified : Bool)
    (random : List UInt8) :
    let state := (run crypto storage self ops).2
    (∀ authData attStmt next, state.attest crypto storage rpId key.handle clientDataHash
        userPresent userVerified random = (.ok (authData, attStmt), next) →
      ∃ signing, crypto.tryInto key = some signing ∧
        authData.attestedCredentialData =
          some [⟨state.data.aaguid, key.id, signing.credentialPublicKey⟩]) ∧
    (∀ authData signature next, state.assert crypto storage rpId key.handle clientDataHash
        userPresent userVerified random = (.ok (authData, signature), next) →
      ∃ signing, crypto.tryInto key = some signing ∧
        crypto.sign signing authData clientDataHash random = .ok signature) := by
  have found := get_of_created crypto storage lawful self ops distinct key created
  constructor
  · intro authData attStmt next attested
    obtain ⟨held, signing, _, lookup, converted, rfl, -⟩ :=
      attest_eq_ok crypto storage _ _ _ _ _ _ _ _ _ _ attested
    cases found.symm.trans lookup
    exact ⟨signing, converted, rfl⟩
  · intro authData signature next asserted
    obtain ⟨held, signing, lookup, converted, rfl, signed, -⟩ :=
      assert_eq_ok crypto storage _ _ _ _ _ _ _ _ _ _ asserted
    cases found.symm.trans lookup
    exact ⟨signing, converted, signed⟩

omit lawful in
theorem run_sign_created_createOp :
    let state := (SoftwareCryptoStore.run echoCrypto memoryStorage freshStore [createOp [1]]).2
    (∃ authData attStmt next, state.attest echoCrypto memoryStorage ⟨"example.com"⟩
        (createdKey [1]).handle ⟨[7]⟩ true false [9] = (.ok (authData, attStmt), next) ∧
      authData.attestedCredentialData = some [⟨⟨[]⟩, ⟨[1]⟩, ⟨[1], []⟩⟩]) := by
  obtain ⟨attested, -⟩ := SoftwareCryptoStore.run_sign_created echoCrypto memoryStorage
    memoryStorage_lawful freshStore [createOp [1]] (by decide) (createdKey [1]) (by decide)
    ⟨"example.com"⟩ ⟨[7]⟩ true false [9]
  refine ⟨_, _, _, rfl, ?_⟩
  obtain ⟨signing, converted, block⟩ := attested _ _ _ rfl
  cases converted
  exact block

end Lawful

end Fido2Service
