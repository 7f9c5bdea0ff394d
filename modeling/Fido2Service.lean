import Fido2Service.Api
import Fido2Service.Authenticator
import Fido2Service.MakeCredential
import Fido2Service.Session
import Fido2Service.Storage
import Fido2Service.StorageInvariant
import Fido2Service.StorageDefects
import Fido2Service.StorageRuns
