import OutageWatch.Files
import OutageWatch.Store.Location
import OutageWatch.Text.Base64

/-!
# Access to stores

A store of a service is opened with what its address says, the container and perhaps the account,
and with what the environment says about accounts and keys.

## Main definitions

* `Environment`, `Environment.get?` : the variables of the environment.
* `Access.Fault`, `Access.Fault.message` : why a store cannot be opened.
* `Access.amazon`, `Access.azure`, `Access.google` : whether a store of the service can be opened.
-/

namespace OutageWatch

/-- The variables of the environment, each at most once. -/
structure Environment where
  bindings : List (String × String)

/-- The value of a variable. -/
def Environment.get? (e : Environment) (name : String) : Option String :=
  (e.bindings.find? (·.1 == name)).map (·.2)

namespace Access

/-- Why a store cannot be opened. -/
inductive Fault where
  /-- The address has none of the forms that the service `store` knows. -/
  | unknownPattern (store address : String)
  | missingAccount
  | missingContainer
  | invalidKey (fault : Base64.Fault)
  | invalidAccount (address : String) (fault : Url.Fault)
  | missingKeyId
  | missingSecret
  | unopenedAccount (path : String) (fault : Files.Fault)
  | unreadAccount (fault : Files.Fault)
  deriving DecidableEq, Repr

/-- How messages name stores in the cloud of Amazon. -/
def amazonName : String := "S3"

/-- How messages name stores in the cloud of Azure. -/
def azureName : String := "MicrosoftAzure"

/-- How messages name stores in the cloud of Google. -/
def googleName : String := "GCS"

/-- A message about a store. -/
def about (store message : String) : String := "Generic " ++ store ++ " error: " ++ message

/-- The text of a fault. -/
def Fault.message : Fault → String
  | unknownPattern store address =>
    about store ("URL did not match any known pattern for scheme: " ++ address)
  | missingAccount => about azureName "Account must be specified"
  | missingContainer => about azureName "Container name must be specified"
  | invalidKey fault => about azureName ("Invalid Access Key: " ++ fault.message)
  | invalidAccount address fault =>
    about azureName
      ("Unable parse source url. Url: " ++ address ++ ", Error: " ++ fault.message)
  | missingKeyId => about amazonName "Missing AccessKeyId"
  | missingSecret => about amazonName "Missing SecretAccessKey"
  | unopenedAccount path fault =>
    about googleName ("GCP credential error: Unable to open service account file from " ++ path ++
      ": " ++ fault.message)
  | unreadAccount fault =>
    about googleName
      ("GCP credential error: Unable to decode service account file: " ++ fault.message)

/-! ### The services -/

/-- Whether a host on the web is one of those under which Amazon's stores, or stores that speak the
same language, are reached. -/
def isAmazonHost (host : String) : Bool :=
  match (Text.split '.' host.toList).map String.ofList with
  | ["s3", _, "amazonaws", "com"] => true
  | [_, "s3", "amazonaws", "com"] => true
  | [_, "s3", _, "amazonaws", "com"] => true
  | [_, "r2", "cloudflarestorage", "com"] => true
  | _ => false

/-- Whether a store at Amazon can be opened: the address has a form that is known, and the key and
its name are both given or both left out. -/
def amazon (e : Environment) (u : Url) (location : String) : Except Fault Unit := do
  if u.scheme = "https" && !isAmazonHost (u.hostText?.getD "") then
    throw (.unknownPattern amazonName location)
  match e.get? "AWS_ACCESS_KEY_ID", e.get? "AWS_SECRET_ACCESS_KEY" with
  | some _, none => throw .missingSecret
  | none, some _ => throw .missingKeyId
  | _, _ => return

/-- A text up to its first point, and behind it. -/
def splitPoint (s : String) : String × String :=
  (String.ofList (s.toList.takeWhile (· ≠ '.')),
    String.ofList ((s.toList.dropWhile (· ≠ '.')).drop 1))

/-- The account and the container of an address, as far as it names them.  Neither may hold a
point, except for a container in the host of a company's own cloud. -/
def azureNames? (u : Url) : Option (Option String × Option String) := do
  let host := u.hostText?.getD ""
  let (account, service) := splitPoint host
  let isCore := ["dfs.core.windows.net", "blob.core.windows.net"].contains service
  let isFabric := ["dfs.fabric.microsoft.com", "blob.fabric.microsoft.com"].contains service
  let name (s : String) : Option String := if s.toList.contains '.' then none else some s
  if u.scheme = "https" then
    let first := match u.path with
      | .segments (s :: _) => s
      | _ => ""
    if isCore && first.isEmpty then return (some account, none)
    else if isCore then return (some account, some (← name first))
    else if isFabric then return (some account, if first.isEmpty then none else some first)
    else none
  else if ["adl", "azure"].contains u.scheme || u.user.isEmpty then
    return (none, some (← name host))
  else if isCore || isFabric then return (some account, some (← name u.user))
  else none

/-- Whether a store at Azure can be opened: the address has a form that is known, there are a
container and an account, and the key, if there is one, is well-formed. -/
def azure (e : Environment) (u : Url) (location : String) : Except Fault Unit := do
  let some (account?, container?) := azureNames? u | throw (.unknownPattern azureName location)
  if container?.isNone then throw .missingContainer
  let some account := account?.or (e.get? "AZURE_STORAGE_ACCOUNT_NAME") | throw .missingAccount
  let address := "https://" ++ account ++ ".blob.core.windows.net"
  if let .error fault := Url.parse address then throw (.invalidAccount address fault)
  if let some key := e.get? "AZURE_STORAGE_ACCOUNT_KEY" then
    if let some fault := Base64.fault? (Utf8.encode key.toList) then throw (.invalidKey fault)

/-- Whether a store at Google can be opened: the file of an account, if there is one, can be
read. -/
def google (e : Environment) (fs : Files) (directory : List String) : Except Fault Unit := do
  let names := ["GOOGLE_SERVICE_ACCOUNT", "GOOGLE_SERVICE_ACCOUNT_PATH",
    "GOOGLE_APPLICATION_CREDENTIALS"]
  let some path := names.findSome? e.get? | return
  match fs.read directory path with
  | .ok _ => return
  | .error .isDirectory => throw (.unreadAccount .isDirectory)
  | .error fault => throw (.unopenedAccount path fault)

end Access

end OutageWatch
