import AddressBook.Config.Literal.Reader
import AddressBook.Failure
import AddressBook.Text.Integer
import AddressBook.Text.Lower
import AddressBook.Url

namespace AddressBook.Config.DatabaseUrl

def engines : List (String × String) :=
  [("postgres", "django.db.backends.postgresql"), ("postgresql", "django.db.backends.postgresql"),
   ("psql", "django.db.backends.postgresql"), ("pgsql", "django.db.backends.postgresql"),
   ("postgis", "django.contrib.gis.db.backends.postgis"), ("cockroachdb", "django_cockroachdb"),
   ("mysql", "django.db.backends.mysql"), ("mysql2", "django.db.backends.mysql"),
   ("mysql-connector", "mysql.connector.django"),
   ("mysqlgis", "django.contrib.gis.db.backends.mysql"), ("mssql", "mssql"),
   ("oracle", "django.db.backends.oracle"), ("pyodbc", "sql_server.pyodbc"),
   ("redshift", "django_redshift_backend"),
   ("spatialite", "django.contrib.gis.db.backends.spatialite"),
   ("sqlite", "django.db.backends.sqlite3"), ("ldap", "ldapdb.backends.ldap")]

def clusterSchemes : List String := ["postgres", "postgresql", "psql", "pgsql", "postgis"]

def baseOptions : List String :=
  ["CONN_MAX_AGE", "ATOMIC_REQUESTS", "AUTOCOMMIT", "DISABLE_SERVER_SIDE_CURSORS",
   "CONN_HEALTH_CHECKS"]

def string (text : List Char) : Json := .string (String.ofList text)

def isDigitRow (text : List Char) : Bool := !text.isEmpty && text.all Text.hasDigitValue

/-- A row of digits as the number that it spells, other text as it is. -/
def numberOrText (text : List Char) : Except Failure Json :=
  if isDigitRow text then
    match Text.integer (String.ofList text) with
    | .ok n => .ok (.int n)
    | .error e => .error (.fault .value e.message)
  else .ok (string text)

/-- The value that a text spells as a literal, or the text itself. -/
def literal (text : List Char) : Except Failure Json :=
  match Literal.ofChars? text with
  | none => .ok (string text)
  | some value =>
    match value.badKey? with
    | some kind => .error (.fault .type ("unhashable type: '" ++ kind ++ "'"))
    | none => .ok value.toJson

def plusDecoded (text : List Char) : List Char :=
  Url.percentDecoded (text.map fun c => if c == '+' then ' ' else c)

def splitAt (separator : Char) (text : List Char) : List (List Char) :=
  text.splitOn separator

/-- The names and values of a query, of several values of a name the first; empty values do not
count. -/
def queryFields (query : List Char) : List (List Char × List Char) :=
  (splitAt '&' query).foldl (fun fields part =>
    match Url.cutAt '=' part with
    | (name, some (c :: rest)) =>
      let name := plusDecoded name
      if fields.any fun field => field.1 == name then fields
      else fields ++ [(name, plusDecoded (c :: rest))]
    | _ => fields) []

def userInfo (authority : List Char) : List Char × List Char :=
  match Url.cutAtLast '@' authority with
  | (none, _) => ([], [])
  | (some user, _) =>
    let (name, password) := Url.cutAt ':' user
    (Url.percentDecoded name, Url.percentDecoded (password.getD []))

/-- A host name in lower case, its zone as it is. -/
def hostName (host : List Char) : List Char :=
  let (name, zone) := Url.cutAt '%' host
  (Text.lower (String.ofList name)).toList ++
    match zone with
    | some z => '%' :: z
    | none => []

def portFailure (message : String) : Failure := .fault .value message

/-- The port that a text spells; none for an empty text or for port 0. -/
def portOf (text : List Char) : Except Failure Json :=
  if text.isEmpty then .ok (.string "")
  else if !text.all Char.isDigit then
    .error (portFailure ("Port could not be cast to integer value as " ++
      Text.quoted (String.ofList text)))
  else if Text.maxIntegerDigits < text.length then
    .error (portFailure (Text.tooManyDigits text.length))
  else if 65535 < Text.asciiValue text then .error (portFailure "Port out of range 0-65535")
  else .ok (if Text.asciiValue text = 0 then .string "" else .int (Text.asciiValue text))

def hostPort (host : List Char) : Except Failure (List Char × Json) :=
  let (name, port) := match Url.cutAt '[' host with
    | (_, some bracketed) =>
      let (name, rest) := Url.cutAt ']' bracketed
      (name, (Url.cutAt ':' (rest.getD [])).2)
    | _ => Url.cutAt ':' host
  (portOf (port.getD [])).map fun port => (hostName name, port)

/-- Splits off the port of one of several hosts: what follows an address in brackets and a colon,
and else digits behind the last colon. -/
def splitPort (host : List Char) : List Char × List Char :=
  if host.head? == some '[' then
    match Url.cutAt ']' host with
    | (address, some (':' :: port)) => (address ++ [']'], port)
    | _ => (host, [])
  else
    match Url.cutAtLast ':' host with
    | (some name, port) => if isDigitRow port then (name, port) else (host, [])
    | _ => (host, [])

def clusterHosts (hosts : List Char) : Except Failure (List Char × Json) :=
  let parts := (splitAt ',' hosts).map splitPort
  let joined (texts : List (List Char)) : List Char := [','].intercalate texts
  let ports := (parts.map (·.2)).filter fun port => !port.isEmpty
  (numberOrText (joined ports)).map fun port =>
    (joined (parts.map (·.1)), if port.isFalsy then .string "" else port)

def scheme (url : Url) : String := String.ofList url.scheme

def databaseName (url : Url) (host : List Char) (port : Json) : List Char :=
  let path := plusDecoded (url.path.drop 1)
  if scheme url = "sqlite" ∧ path.isEmpty then ":memory:".toList
  else if scheme url = "ldap" then
    "ldap://".toList ++ (if host.isEmpty then "None".toList else host) ++ match port with
      | .int n => ':' :: (toString n).toList
      | _ => []
  else path

/-- The hosts and the ports of a URL. Percent-encoded commas may stand between several hosts. -/
def hostsOf (url : Url) : Except Failure (List Char × Json) :=
  let hosts := (Url.cutAtLast '@' url.authority).2
  let decoded := Url.percentDecoded hosts
  if clusterSchemes.contains (scheme url) ∧ decoded.contains ',' then clusterHosts decoded
  else hostPort hosts

/-- Settings with a path for a host: in a path that starts with another slash, the directory is the
host. -/
def withSocket (url : Url) (name : List Char) (fields : Fields) : Fields :=
  let isCloud := (List.range name.length).any fun i => "cloudsql".toList.isPrefixOf (name.drop i)
  if (clusterSchemes.contains (scheme url) ∨ isCloud) ∧ name.head? = some '/' then
    let (directory, rest) := Url.cutAtLast '/' name
    (fields.put "HOST" (string (directory.getD []))).put "NAME" (string rest)
  else fields

def putOption (known : Fields × Fields) (field : List Char × List Char) :
    Except Failure (Fields × Fields) :=
  let (fields, options) := known
  let name := String.ofList field.1
  let upper := Text.upper name
  if baseOptions.contains upper then
    (literal field.2).map fun value => (fields.put upper value, options)
  else (numberOrText field.2).map fun value => (fields, options.put name value)

def withOptions (url : Url) (fields : Fields) : Except Failure Fields :=
  if url.query.isEmpty then .ok fields
  else
    ((queryFields url.query).foldlM putOption (fields, [])).map fun (fields, options) =>
      Fields.put fields "OPTIONS" (.object options)

/-- Oracle takes its port as a text or not at all, and may have its name in place of the host. -/
def forOracle (url : Url) (name : List Char) (fields : Fields) : Fields :=
  if scheme url ≠ "oracle" then fields
  else
    let fields := if name.isEmpty then
      (fields.put "NAME" ((fields.get? "HOST").getD .null)).put "HOST" (.string "") else fields
    match fields.get? "PORT" with
    | some (.int n) => fields.put "PORT" (.string (toString n))
    | some (.string "") => fields.filter fun field => field.1 != "PORT"
    | _ => fields

/-- The schemes whose paths may end in parameters, behind a semicolon. -/
def parameterSchemes : List String :=
  ["", "ftp", "hdl", "prospero", "http", "imap", "https", "shttp", "rtsp", "rtspu", "sip",
   "sips", "mms", "sftp", "tel"]

/-- The schemes whose URL has the slashes of an authority even without one. -/
def slashSchemes : List String :=
  ["ftp", "http", "gopher", "nntp", "telnet", "imap", "wais", "file", "mms", "https", "shttp",
   "snews", "prospero", "rtsp", "rtspu", "rsync", "svn", "svn+ssh", "sftp", "nfs", "git",
   "git+ssh", "ws", "wss"]

def withoutParameters (path : List Char) : List Char :=
  match Url.cutAtLast '/' path with
  | (some before, last) => before ++ '/' :: (Url.cutAt ';' last).1
  | (none, last) => (Url.cutAt ';' last).1

def dropParameters (url : Url) : Url :=
  if parameterSchemes.contains (scheme url) then { url with path := withoutParameters url.path }
  else url

/-- The URL that a text becomes when all characters without a meaning in it are percent-encoded. -/
def parseEncoded (text : List Char) : Except Failure Url :=
  match Url.parse (Url.percentEncode ":/?&=@".toList text) with
  | .ok url => .ok url
  | .error e => .error (.fault .value e.message)

/-- The URL that a text spells. A text that is refused, or gives no path, is read once more with
its characters encoded. -/
def parse (text : List Char) : Except Failure Url :=
  let encodedIfNoPath (url : Url) : Except Failure Url :=
    let bare := dropParameters url
    if bare.path.isEmpty then
      let whole := if url.path == [';'] then bare else url
      (parseEncoded (whole.toChars (slashSchemes.contains (scheme url)))).map dropParameters
    else .ok bare
  match Url.parse text with
  | .ok url => encodedIfNoPath url
  | .error _ => parseEncoded text >>= encodedIfNoPath

/-- The settings that a URL gives; a URL without a scheme gives none. -/
def settings (text : String) : Except Failure Fields :=
  if text.isEmpty then .ok []
  else if text = "sqlite://:memory:" then
    .ok [("ENGINE", .string "django.db.backends.sqlite3"), ("NAME", .string ":memory:")]
  else do
    let url ← parse text.toList
    let (host, port) ← hostsOf url
    let name := databaseName url host port
    let (user, password) := userInfo url.authority
    let fields := [("NAME", string name), ("USER", string user), ("PASSWORD", string password),
      ("HOST", string host), ("PORT", port)]
    let fields ← withOptions url (forOracle url name (withSocket url name fields))
    if url.scheme.isEmpty then return []
    else
      let engine := (engines.lookup (scheme url)).getD (scheme url)
      return fields ++ [("ENGINE", .string engine)]

end AddressBook.Config.DatabaseUrl
