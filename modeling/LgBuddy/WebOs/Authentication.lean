import LgBuddy.WebOs.Client

/-!
# LgBuddy — how authentication fails

The errors of `platform_access_token.rs` and of `connect_authenticated` in `web_os/client.rs`, with
their texts. Errors of the operating system and of other crates are given by their texts.
-/

namespace LgBuddy

/-! ## Registration -/

instance : ToString WebOsRegistrationError where
  toString
    | .emptyRequestId => "webOS registration request ID cannot be empty"
    | .malformedJson source => s!"webOS registration response is malformed JSON: {source}"
    | .invalidRootMessage => "webOS registration response root is not an object"
    | .missingRequestId => "webOS registration response has no request ID"
    | .invalidRequestId => "webOS registration response request ID is not a string"
    | .unexpectedRequestId expected actual =>
      s!"webOS registration response ID `{actual}` does not match `{expected}`"
    | .missingMessageType => "webOS registration response has no message type"
    | .invalidMessageType => "webOS registration response message type is not a string"
    | .missingPayload messageType =>
      s!"webOS `{messageType}` registration response has no payload"
    | .invalidPayload messageType =>
      s!"webOS `{messageType}` registration response payload is not an object"
    | .unexpectedMessageType messageType =>
      s!"unexpected webOS registration message type `{messageType}`"
    | .unexpectedRegistrationResponse => "webOS registration response is not a pairing prompt"
    | .pairingRejected (some message) => s!"webOS pairing was rejected: {message}"
    | .pairingRejected none => "webOS pairing was rejected"
    | .missingClientKey => "webOS registered response has no client key"
    | .invalidClientKeyType => "webOS registered response client key is not a string"
    | .invalidClientKey =>
      "webOS registered response has an invalid client key: platform access token cannot be empty"
    | .missingWebOsErrorMessage => "webOS error response has no error message"
    | .invalidWebOsErrorMessage => "webOS error response message is not a string"
    | .webOsError (some code) message => s!"webOS registration error {code}: {message}"
    | .webOsError none message => s!"webOS registration error: {message}"

instance : ToString WebOsClientRegistrationError where
  toString
    | .transport source => s!"webOS registration transport failed: {source}"
    | .protocol source => s!"webOS registration failed: {source}"
    | .storedTokenRequiresPairing =>
      "webOS rejected the stored access token and requires pairing"

/-! ## The stored token -/

inductive PlatformAccessTokenStoreOperation where
  | createDirectory
  | inspectDirectory
  | openDirectory
  | setPermissions
  | setOwner
  | readToken
  | createTemporaryFile
  | writeTemporaryFile
  | syncTemporaryFile
  | replaceToken
  deriving DecidableEq, Repr

instance : ToString PlatformAccessTokenStoreOperation where
  toString
    | .createDirectory => "create credential directory"
    | .inspectDirectory => "inspect credential directory"
    | .openDirectory => "open credential directory"
    | .setPermissions => "set credential permissions"
    | .setOwner => "set credential owner"
    | .readToken => "read platform access token"
    | .createTemporaryFile => "create temporary access-token file"
    | .writeTemporaryFile => "write temporary access-token file"
    | .syncTemporaryFile => "sync temporary access-token file"
    | .replaceToken => "replace platform access-token file"

inductive PlatformAccessTokenStoreError where
  | configPathHasNoParent (path : String)
  | io (operation : PlatformAccessTokenStoreOperation) (path source : String)
  | invalidJson (path source : String)
  | invalidToken (path : String)
  | serialize (source : String)
  deriving DecidableEq, Repr

instance : ToString PlatformAccessTokenStoreError where
  toString
    | .configPathHasNoParent path =>
      s!"could not derive the platform access-token path because config path `{path}` has no parent directory"
    | .io operation path source => s!"could not {operation} at `{path}`: {source}"
    | .invalidJson path source => s!"platform access-token file `{path}` is malformed: {source}"
    | .invalidToken path =>
      s!"platform access-token file `{path}` is invalid: platform access token cannot be empty"
    | .serialize source => s!"could not serialize platform access token: {source}"

inductive PlatformAccessTokenAcquisitionError where
  | missingStoredToken
  | store (source : PlatformAccessTokenStoreError)
  | registration (source : WebOsClientRegistrationError)

instance : ToString PlatformAccessTokenAcquisitionError where
  toString
    | .missingStoredToken => "no stored platform access token is available"
    | .store source => s!"platform access-token storage failed: {source}"
    | .registration source => s!"platform access-token registration failed: {source}"

inductive WebOsAuthenticatedClientError where
  | connect (source : WebOsClientError)
  | authentication (source : PlatformAccessTokenAcquisitionError)

instance : ToString WebOsAuthenticatedClientError where
  toString
    | .connect source => s!"could not connect webOS client: {source}"
    | .authentication source => s!"could not authenticate webOS client: {source}"

end LgBuddy
