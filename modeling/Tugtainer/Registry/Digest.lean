import Tugtainer.Container.Util
import Tugtainer.Interaction.Triple

/-!
# The digest that a registry has for an image

`getImageRemoteDigest` asks the registry that an image spec names. The user's setting of
insecure registries decides about TLS, and the configuration of Docker has the credentials
of registries. Both are searched for a text that contains the name of the registry, or is
contained in it.
-/

namespace Tugtainer

open Python Interaction

/-! ## The parts of an image spec -/

/-- The registry, the repository and the tag of an image. -/
structure ImageSpec where
  registry : String
  repo : String
  tag : String
  deriving DecidableEq, Repr

/-- A spec without its tag, and the tag. A colon before the last slash, or the first of
several without any slash, does not start a tag. -/
def splitTag (spec : String) : String × String :=
  match rpartition spec.toList ':' with
  | (name, true, tag) =>
      if (if '/' ∈ spec.toList then '/' ∉ tag else ':' ∉ name) then
        (String.ofList name, String.ofList tag)
      else (spec, "latest")
  | (_, false, _) => (spec, "latest")

def parseImageSpec (spec : String) : ImageSpec :=
  let (spec, tag) := splitTag spec
  let parts := split spec '/'
  let head := parts.headD ""
  let (registry, repo) :=
    if '.' ∈ head.toList ∨ ':' ∈ head.toList ∨ head = "localhost" then
      (head, join "/" parts.tail)
    else ("registry-1.docker.io", spec)
  -- the website hosts of Docker Hub are not the endpoint of its API
  let registry :=
    if registry = "docker.io" ∨ registry = "index.docker.io" then "registry-1.docker.io"
    else registry
  let repo :=
    if registry = "registry-1.docker.io" ∧ '/' ∉ repo.toList then "library/" ++ repo else repo
  { registry := registry, repo := repo, tag := tag }

example : parseImageSpec "ghcr.io/quenary/tugtainer:1" = ⟨"ghcr.io", "quenary/tugtainer", "1"⟩ ∧
    parseImageSpec "nginx" = ⟨"registry-1.docker.io", "library/nginx", "latest"⟩ ∧
    parseImageSpec "localhost:5000/app" = ⟨"localhost:5000", "app", "latest"⟩ := by decide

/-! ## The configuration of Docker -/

abbrev AuthEntry := Dict String String

def keyedEntry (auths : Dict String AuthEntry) (key : String) : Option (String × AuthEntry) :=
  ((auths.get? key).filter (· ≠ [])).map fun entry => (key, entry)

def dockerHubKey : String := "https://index.docker.io/v1/"

/-- The names under which `get_basic_token` knows Docker Hub. -/
def isHubName (registry : String) : Bool :=
  registry == "registry-1.docker.io" || registry == "docker.io"

/-- The entry of the registry itself, or the one that Docker writes for Docker Hub. -/
def exactEntry (auths : Dict String AuthEntry) (registry : String) : Option (String × AuthEntry) :=
  (keyedEntry auths registry).or
    (if isHubName registry then keyedEntry auths dockerHubKey else none)

/-- The first entry whose key contains the registry or is contained in it. -/
def partialEntry (auths : Dict String AuthEntry) (registry : String) :
    Option (String × AuthEntry) :=
  let registry := if isHubName registry then dockerHubKey else registry
  auths.find? fun kv => contains kv.1 registry || contains registry kv.1

/-- The entry that `get_basic_token` settles on, with its key. -/
def findEntry (auths : Dict String AuthEntry) (registry : String) : Option (String × AuthEntry) :=
  (exactEntry auths registry).or (partialEntry auths registry)

def getBasicToken (auths : Dict String AuthEntry) (registry : String) : Option String :=
  (findEntry auths registry).bind fun kv => kv.2.get? "auth"

/-! ## The requests to a registry -/

/-- The answer to a `HEAD` request, with the headers that are read. -/
structure HeadResponse where
  status : ℕ
  wwwAuthenticate : Option String := none
  contentDigest : Option String := none
  etag : Option String := none
  deriving DecidableEq, Repr

/-- The answer of a token server. -/
structure TokenResponse where
  status : ℕ
  token : Option String := none
  accessToken : Option String := none
  deriving DecidableEq, Repr

/-- What a request raises. -/
inductive RegistryExn where
  /-- `ClientSSLError` or `ClientConnectorError` -/
  | connection
  | other
  deriving DecidableEq, Repr

/-- A request with its URL and its headers, and whether certificates are verified. -/
inductive RegistryOp where
  | head (url : String) (headers : Dict String String) (ssl : Bool)
  | get (url : String) (headers : Dict String String) (ssl : Bool)

/-- The interface of registries and token servers. -/
@[reducible] def RegistryHttp : Interface where
  Op := RegistryOp
  Ans
    | .head _ _ _ => Except RegistryExn HeadResponse
    | .get _ _ _ => Except RegistryExn TokenResponse

abbrev RegistryM (α : Type) := Act RegistryHttp RegistryExn Unit α

def head (url : String) (headers : Dict String String) (ssl : Bool) : RegistryM HeadResponse :=
  Act.performE (I := RegistryHttp) (.head url headers ssl) id

/-! ## The token of a registry -/

/-- `s.replace(pat, "")`, where `skip` more characters of an occurrence are left out. -/
def removeFrom (pat : List Char) : ℕ → List Char → List Char
  | _, [] => []
  | skip + 1, _ :: s => removeFrom pat skip s
  | 0, c :: s =>
      if pat.isPrefixOf (c :: s) then removeFrom pat (pat.length - 1) s
      else c :: removeFrom pat 0 s

/-- The items of a `WWW-Authenticate` header, unless one of them has no value. -/
@[irreducible] def challengeItems (authHeader : String) : Option (Dict String String) :=
  let parts := (removeFrom "Bearer ".toList 0 authHeader.toList).filter (· != '"')
  (split (String.ofList parts) ',').foldlM (fun items item =>
    match split1 item '=' with
    | (key, some value) => some (items.set key value)
    | (_, none) => none) []

/-- `quote_plus(s)`. -/
def quotePlus (s : String) : String :=
  String.ofList (s.toList.flatMap fun c =>
    if c.isAlphanum || ['_', '.', '-', '~'].contains c then [c]
    else if c = ' ' then ['+']
    else (String.utf8EncodeChar c).flatMap fun b =>
      ['%', (b.toNat / 16).digitChar.toUpper, (b.toNat % 16).digitChar.toUpper])

/-- `urlencode(params)`. -/
def urlencode (params : List (String × String)) : String :=
  join "&" (params.map fun kv => quotePlus kv.1 ++ "=" ++ quotePlus kv.2)

example : urlencode [("service", "registry.docker.io"), ("scope", "repository:a b:pull")] =
    "service=registry.docker.io&scope=repository%3Aa+b%3Apull" := by decide

/-- The header of a token of the configuration, unless it is empty. -/
def basicHeader (basicToken : Option String) : Option String :=
  (basicToken.filter (· ≠ "")).map ("Basic " ++ ·)

def getRegistryBearerToken (authHeader repo : String) (basicToken : Option String) (ssl : Bool) :
    RegistryM String := do
  match challengeItems authHeader with
  | none => throw .other
  | some items =>
      match items.get? "realm" with
      | none => throw .other
      | some realm =>
          let service := (items.get? "service").getD "None"
          let pull := "repository:" ++ repo ++ ":pull"
          let scope := (orElse (items.get? "scope") (some pull)).getD ""
          let url := realm ++ "?" ++ urlencode [("service", service), ("scope", scope)]
          let headers := (basicHeader basicToken).toList.map fun value => ("Authorization", value)
          let data ← Act.performE (I := RegistryHttp) (.get url headers ssl) id
          if 400 ≤ data.status then throw .other
          else pure ((orElse data.token data.accessToken).getD "")

/-! ## The digest -/

def onResp (localDigest : Option String) (resp : HeadResponse) :
    Except RegistryExn (Option String) :=
  if 400 ≤ resp.status then .error .other
  else if resp.status = 304 then .ok localDigest
  else .ok (orElse resp.contentDigest resp.etag)

def doRequest (url repo : String) (headers : Dict String String) (basicToken : Option String)
    (localDigest : Option String) (ssl : Bool) : RegistryM (Option String) := do
  let resp ← head url headers ssl
  if resp.status = 401 ∨ resp.status = 403 then
    let authHeader := resp.wwwAuthenticate.getD ""
    if contains authHeader "Bearer" then
      let bearerToken ← getRegistryBearerToken authHeader repo basicToken ssl
      let resp ← head url (headers.set "Authorization" ("Bearer " ++ bearerToken)) ssl
      Act.ofExcept (onResp localDigest resp)
    else
      match basicHeader basicToken with
      | some value => do
          let resp ← head url (headers.set "Authorization" value) ssl
          Act.ofExcept (onResp localDigest resp)
      | none => Act.ofExcept (onResp localDigest resp)
  else Act.ofExcept (onResp localDigest resp)

/-- The loop over the schemes, with the last error. -/
def trySchemes (request : String → RegistryM (Option String)) :
    List String → Option RegistryExn → RegistryM (Option String)
  | [], none => pure none
  | [], some e => throw e
  | scheme :: schemes, _ =>
      tryCatch (request scheme) fun e =>
        match e with
        | .connection => trySchemes request schemes (some .connection)
        | .other => throw .other

/-- The setting and the configuration that `get_image_remote_digest` reads. -/
structure RegistryEnv where
  insecureRegistries : Option String
  auths : Dict String AuthEntry

/-- A line of the setting contains the registry or is contained in it. -/
def isInsecure (insecureRegistries : Option String) (registry : String) : Bool :=
  (splitlines (insecureRegistries.getD "")).any fun x =>
    x != "" && registry != "" && (contains x registry || contains registry x)

/-- `local_digest.split("@")[-1]`. -/
def shortDigest (localDigest : String) : String :=
  String.ofList (rpartition localDigest.toList '@').2.2

def digestHeaders (localDigest : Option String) : Dict String String :=
  ("Accept", join ","
    ["application/vnd.oci.image.index.v1+json",
      "application/vnd.docker.distribution.manifest.list.v2+json",
      "application/vnd.oci.image.manifest.v1+json",
      "application/vnd.docker.distribution.manifest.v2+json"]) ::
  (localDigest.filter (· ≠ "")).toList.map fun digest => ("If-None-Match", shortDigest digest)

def getImageRemoteDigest (env : RegistryEnv) (spec : String) (localDigest : Option String) :
    RegistryM (Option String) :=
  let image := parseImageSpec spec
  let insecure := isInsecure env.insecureRegistries image.registry
  let schemes := "https" :: if insecure then ["http"] else []
  let basicToken := getBasicToken env.auths image.registry
  trySchemes (fun scheme =>
    doRequest (scheme ++ "://" ++ image.registry ++ "/v2/" ++ image.repo ++ "/manifests/" ++
      image.tag) image.repo (digestHeaders localDigest) basicToken (localDigest.map shortDigest)
      (!insecure)) schemes none

end Tugtainer
