import AddressBook.Config.Environment
import AddressBook.Config.RecentCache
import AddressBook.Json
import AddressBook.Log

namespace AddressBook.Config

/-- Where the vault is, and how to get in, as the environment gives it when the process begins. -/
structure Credentials where
  address : String
  token : String
  roleId : String
  secretId : String
  mount : String
  path : String
  deriving DecidableEq, Repr

namespace Credentials

def load (env : Environment) : Except Failure Credentials := do
  let address ← env.text "OPENBAO_ADDR" "http://127.0.0.1:8200"
  let token ← env.text "OPENBAO_TOKEN" ""
  let roleId ← env.text "OPENBAO_ROLE_ID" ""
  let secretId ← env.text "OPENBAO_SECRET_ID" ""
  let mount ← env.text "OPENBAO_KV_MOUNT" "secret"
  let path ← env.text "OPENBAO_KV_PATH" "chain-api"
  return ⟨address, token, roleId, secretId, mount, path⟩

def canLogIn (c : Credentials) : Bool := !c.roleId.isEmpty && !c.secretId.isEmpty

def enabled (c : Credentials) : Bool := !c.token.isEmpty || c.canLogIn

end Credentials

/-- A vault: its secrets by path, and how it answers a login. -/
structure Vault where
  secrets : Fields
  loginError : Option String
  loginAnswer : Json

namespace Vault

def grantedLogin : Json :=
  .object [("auth", .object [("client_token", .string "approle-token")])]

def put (path : String) (data : Json) (v : Vault) : Vault :=
  { v with secrets := v.secrets.put path data }

def drop (path : String) (v : Vault) : Vault :=
  { v with secrets := v.secrets.filter fun entry => entry.1 != path }

end Vault

inductive VaultCall where
  | client (address : String) (timeout : Nat)
  | login (roleId secretId : String)
  | read (token : Json) (mount path : String)

/-- How a secret is named when it is asked for; without a path it is the configured one. -/
inductive SecretName where
  | unnamed
  | null
  | path (text : String)
  deriving DecidableEq, Repr

/-- The path of a named secret; an empty path means the configured one. -/
def SecretName.effective (name : SecretName) (c : Credentials) : String :=
  match name with
  | .path text => if text.isEmpty then c.path else text
  | _ => c.path

/-- Everything that reading secrets depends on and changes. -/
structure VaultState where
  environment : Environment
  credentials : Credentials
  vault : Vault
  cache : RecentCache SecretName Json
  calls : List VaultCall
  log : List LogRecord

abbrev VaultSession := ExceptT Failure (StateM VaultState)

namespace VaultSession

def cacheCapacity : Nat := 8

def timeout : Nat := 5

def start (env : Environment) (vault : Vault) : Except Failure VaultState :=
  (Credentials.load env).map fun credentials =>
    ⟨env, credentials, vault, RecentCache.empty, [], []⟩

def run (state : VaultState) (session : VaultSession α) : Except Failure α × VaultState :=
  session state

def ofExcept : Except Failure α → VaultSession α
  | .ok value => pure value
  | .error failure => throw failure

def record (call : VaultCall) : VaultSession Unit :=
  modify fun state => { state with calls := state.calls ++ [call] }

/-- The value under a key of an object; everything else is refused. -/
def subscript (key : String) (value : Json) : Except Failure Json :=
  match value with
  | .object fields =>
    match Fields.get? fields key with
    | some inner => .ok inner
    | none => .error (.fault .key key)
  | .array _ => .error (.fault .type "list indices must be integers or slices, not str")
  | .string _ => .error (.fault .type "string indices must be integers, not 'str'")
  | _ => .error (.fault .type ("'" ++ value.kindName ++ "' object is not subscriptable"))

def logIn (roleId secretId : String) : VaultSession Json := do
  record (.login roleId secretId)
  let vault := (← get).vault
  match vault.loginError with
  | some message => throw (.fault .connection message)
  | none => ofExcept (subscript "auth" vault.loginAnswer >>= subscript "client_token")

/-- The token to read with: the configured one, or that of a login, or none. -/
def obtainToken : VaultSession Json := do
  let c := (← get).credentials
  record (.client c.address timeout)
  if !c.token.isEmpty then return .string c.token
  else if c.canLogIn then logIn c.roleId c.secretId
  else return .null

/-- Reads a secret from the vault. Data that count as none are an empty object. -/
def fetch (name : SecretName) : VaultSession Json := do
  let token ← obtainToken
  let state ← get
  let path := name.effective state.credentials
  record (.read token state.credentials.mount path)
  match state.vault.secrets.get? path with
  | none => throw (.fault .connection ("no secret at " ++ path))
  | some data => return if data.isFalsy then .object [] else data

/-- A secret, from the cache if it is there. A refused reading leaves no trace in the cache. -/
def read (name : SecretName) : VaultSession Json := do
  let data ← match (← get).cache.find? name with
    | some data => pure data
    | none => fetch name
  modify fun state => { state with cache := state.cache.keep cacheCapacity name data }
  return data

def clearCache : VaultSession Unit :=
  modify fun state => { state with cache := RecentCache.empty }

def failureRecord (name : String) (failure : Failure) : LogRecord :=
  ⟨"config.env", .warning,
    "env_get: OpenBao lookup failed for " ++ name ++ ": " ++ failure.text ++ " (using default)",
    [], none⟩

/-- The value under a name in secret data, or a default; data must be an object. -/
def valueIn (data : Json) (name : String) (default : Json) : Except Failure Json :=
  match data with
  | .object fields => .ok ((Fields.get? fields name).getD default)
  | _ => .error (.fault .attribute
      ("'" ++ data.kindName ++ "' object has no attribute 'get'"))

/-- A secret, or nothing if it cannot be read, which is then logged. -/
def tryRead (what : String) (name : SecretName) : VaultSession (Option Json) :=
  tryCatch (some <$> read name) fun failure => do
    modify fun state => { state with log := state.log ++ [failureRecord what failure] }
    return none

/-- The value of a name: from the environment if that is preferred and it has one, from a secret if
there are credentials and the secret can be read, or the default. -/
def value (name : String) (default : Json) (secret : SecretName) (preferEnvironment : Bool) :
    VaultSession Json := do
  let state ← get
  let fromEnvironment ← ofExcept <|
    if preferEnvironment then state.environment.nonEmpty? name else .ok none
  match fromEnvironment with
  | some text => return .string text
  | none =>
    if !state.credentials.enabled then return default
    match ← tryRead name secret with
    | none => return default
    | some data => ofExcept (valueIn data name default)

end VaultSession
end AddressBook.Config
