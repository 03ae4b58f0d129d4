import CloudApi.Client.Error
import CloudApi.Log.Config
import CloudApi.Retry.Policy
import CloudApi.Web.Url

/-!
# Client settings

Everything a client is built from: where the API is, which version, the token, the user agent,
the per-request timeout, extra trusted certificates, logging, retries, the poll interval of the
waiting helpers and the lifetime of cached answers. Times are milliseconds.

`ClientConfig.endpoint` is the versioned base address every request path is joined onto: the
base URL trimmed of white space and trailing slashes, with `https://` put in front when it names
no scheme, then the version trimmed of white space and slashes, then a slash. The settings can
be taken from environment variables (`withEnv`), where a blank value counts as unset, or from a
resolved profile (`withProfile`).
-/

namespace CloudApi

/-- How a client is set up. -/
structure ClientConfig where
  baseUrl : String := "api.linode.com"
  apiVersion : String := "v4"
  token : Option String := none
  userAgent : String := "linode-api-rs/0.1.0"
  timeout : Nat := 30000
  caPath : Option String := none
  debug : Bool := false
  retry : Retry.Policy := {}
  pollInterval : Nat := 3000
  cacheExpiration : Nat := 900000
  logging : Log.Config := {}
  deriving Inhabited

/-- Whether an environment value means yes: `1`, `true`, `yes` or `on`, in any ASCII case and
with white space around it. -/
def envFlag (v : String) : Bool :=
  ["1", "true", "yes", "on"].contains (Log.Config.lowerAscii (Text.trim v))

namespace ClientConfig

/-- The versioned base address as text, before it is parsed. -/
def endpointText (c : ClientConfig) : String :=
  let base := Text.trimEndChar (Text.trim c.baseUrl) '/'
  let base := if Text.hasInfix base "://" then base else "https://" ++ base
  let version := Text.trimChar (Text.trim c.apiVersion) '/'
  if version.isEmpty then base ++ "/" else base ++ "/" ++ version ++ "/"

/-- The versioned base address every request path is joined onto. -/
def endpoint (c : ClientConfig) : Except ClientError Web.Url :=
  let full := c.endpointText
  match Web.Url.parse full with
  | .ok u => .ok u
  | .error e => .error (.config ("Invalid API URL " ++ full ++ ": " ++ e.message))

/-- The settings with the environment's values put in: `LINODE_TOKEN`, `LINODE_URL`,
`LINODE_API_VERSION`, `LINODE_CA` and `LINODE_DEBUG`, each only when it is not blank. -/
def withEnv (c : ClientConfig) (env : String → Option String) : ClientConfig :=
  let var := fun name => (env name).filter fun v => !Text.isBlankText v
  let c := match var "LINODE_TOKEN" with | some t => { c with token := some t } | none => c
  let c := match var "LINODE_URL" with | some u => { c with baseUrl := u } | none => c
  let c := match var "LINODE_API_VERSION" with
    | some v => { c with apiVersion := v }
    | none => c
  let c := match var "LINODE_CA" with | some p => { c with caPath := some p } | none => c
  match var "LINODE_DEBUG" with
  | some d => { c with debug := envFlag d }
  | none => c

/-- The settings with a profile's token, address and version. -/
def withProfile (c : ClientConfig) (token apiUrl apiVersion : String) : ClientConfig :=
  { c with token := some token, baseUrl := apiUrl, apiVersion := apiVersion }

end ClientConfig

/-- The address of a request path: the path without leading slashes, resolved against the
versioned base address. -/
def requestUrl (base : Web.Url) (path : String) : Except ClientError Web.Url :=
  match base.join (Text.trimStartChar path '/') with
  | .ok u => .ok u
  | .error e => .error (.validation ("Invalid request path " ++ path ++ ": " ++ e.message))

end CloudApi
