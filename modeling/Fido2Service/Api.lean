import Mathlib.Logic.Function.Basic

set_option autoImplicit false

/- The fido2_api types that authenticator.rs and storage.rs read and build. The crate is not
among the sources: each type keeps the fields the modelled functions read or construct, and
byte strings are lists of bytes. -/
namespace Fido2Service

/-- A COSE algorithm identifier, by its registered integer. -/
structure COSEAlgorithmIdentifier where
  value : Int
  deriving DecidableEq, Repr

/-- ES256 is COSE algorithm -7. -/
def COSEAlgorithmIdentifier.es256 : COSEAlgorithmIdentifier := ⟨-7⟩

inductive PublicKeyCredentialType where
  | publicKey
  deriving DecidableEq, Repr

structure PublicKeyCredentialParameters where
  alg : COSEAlgorithmIdentifier
  type_ : PublicKeyCredentialType
  deriving DecidableEq, Repr

/-- `PublicKeyCredentialParameters::es256()`, the one entry of get_info's algorithm list. -/
def PublicKeyCredentialParameters.es256 : PublicKeyCredentialParameters :=
  ⟨.es256, .publicKey⟩

structure RelyingPartyIdentifier where
  value : String
  deriving DecidableEq, Repr

/-- `rp_id.as_bytes()`: the UTF-8 bytes of the identifier. -/
def RelyingPartyIdentifier.asBytes (rpId : RelyingPartyIdentifier) : List UInt8 :=
  rpId.value.toUTF8.toList

structure UserHandle where
  bytes : List UInt8
  deriving DecidableEq, Repr

structure CredentialId where
  bytes : List UInt8
  deriving DecidableEq, Repr

structure Sha256 where
  bytes : List UInt8
  deriving DecidableEq, Repr

structure Aaguid where
  bytes : List UInt8
  deriving DecidableEq, Repr

structure Signature where
  bytes : List UInt8
  deriving DecidableEq, Repr

/-- The relying party of a request: the id is hashed and stored, the name is shown to the user. -/
structure PublicKeyCredentialRpEntity where
  id : RelyingPartyIdentifier
  name : String
  deriving DecidableEq, Repr

/-- Of the user entity the sources read only the handle. -/
structure PublicKeyCredentialUserEntity where
  id : UserHandle
  deriving DecidableEq, Repr

/-- Of a credential descriptor the sources read only the credential id. -/
structure PublicKeyCredentialDescriptor where
  id : CredentialId
  deriving DecidableEq, Repr

/-- The credential public key of an attested credential, as a COSE EC2 point. -/
structure CoseKey where
  x : List UInt8
  y : List UInt8
  deriving DecidableEq, Repr

structure AttestedCredentialData where
  aaguid : Aaguid
  credentialId : CredentialId
  credentialPublicKey : CoseKey
  deriving DecidableEq, Repr

structure AuthenticatorData where
  rpIdHash : Sha256
  userPresent : Bool
  userVerified : Bool
  signCount : Nat
  attestedCredentialData : Option (List AttestedCredentialData)
  deriving DecidableEq, Repr

structure AttestationCertificate where
  attestationCertificate : List UInt8
  caCertificateChain : List (List UInt8)
  deriving DecidableEq, Repr

structure PackedAttestationStatement where
  alg : COSEAlgorithmIdentifier
  sig : Signature
  x5c : Option AttestationCertificate
  deriving DecidableEq, Repr

inductive AttestationStatement where
  | packed (statement : PackedAttestationStatement)
  deriving DecidableEq, Repr

/-- The fields of `MakeCredentialCommand` that make_credential reads; `extensions`,
`options` and `pin_uv_auth_protocol` are destructured and never used. -/
structure MakeCredentialCommand where
  clientDataHash : Sha256
  rp : PublicKeyCredentialRpEntity
  user : PublicKeyCredentialUserEntity
  pubKeyCredParams : List PublicKeyCredentialParameters
  excludeList : Option (List PublicKeyCredentialDescriptor)
  pinUvAuthParam : Option (List UInt8)
  enterpriseAttestation : Option Nat
  deriving DecidableEq, Repr

structure MakeCredentialResponse where
  authData : AuthenticatorData
  attStmt : AttestationStatement
  deriving DecidableEq, Repr

/-- Modelled from the spec: `crate::Error`, whose definition is not among the sources, with the
kinds of §7 that the modelled functions return; an error of a collaborator reaches it through a
`From` conversion. -/
inductive Error where
  | invalidParameter
  | unsupportedAlgorithm
  | dependency (detail : String)
  deriving DecidableEq, Repr

end Fido2Service
