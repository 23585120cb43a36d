import OutageWatch.Config
import OutageWatch.Yaml.Composing
import OutageWatch.Yaml.Meaning

/-!
# The configuration file

The configuration file is a YAML mapping whose keys name settings; other keys are left out of
account.  Every setting is a text, and a scalar counts as the text that is written.  Only for the
time limit of queries an empty scalar or one that stands for nothing settles that there is none.

## Main definitions

* `ConfigFile.Key` : the keys.
* `ConfigFile.Fault`, `ConfigFile.Fault.message` : why a file does not load.
* `ConfigFile.layer` : the layer of a document.
* `ConfigFile.load` : the layer of a text.
* `Options.fileLayer`, `Config.ofSources` : the layer of the file that the command line names, and
  the settings of all sources.
-/

namespace OutageWatch.ConfigFile

open Yaml (Scalar Shape Document Node)

/-- A key that settles something. -/
inductive Key where
  | namespaceStart
  | outputPath
  | queryTimeout
  | gracePeriod
  deriving DecidableEq, Repr

namespace Key

/-- All keys. -/
def all : List Key := [namespaceStart, outputPath, queryTimeout, gracePeriod]

/-- The name of a key in the file. -/
def name : Key → String
  | namespaceStart => "namespacePrefix"
  | outputPath => "outputPath"
  | queryTimeout => "queryTimeout"
  | gracePeriod => "shutdownGracePeriod"

/-- The key of a name. -/
def ofName? (name : String) : Option Key := all.find? (·.name == name)

end Key

/-! ### Faults -/

/-- Why a file does not load. -/
inductive Fault where
  /-- The file is not one well-formed document. -/
  | notYaml
  /-- A node at `place` is not of the expected kind. -/
  | wrongType (place found expected : String)
  /-- A tag asks for what its scalar is not. -/
  | wrongValue (place text expected : String)
  | duplicate (key : Key)
  | duration (fault : Duration.Fault)
  deriving DecidableEq, Repr

/-- A message with the place that it is about, unless that is the whole document. -/
def atPlace (place message : String) : String :=
  if place.isEmpty then message else place ++ ": " ++ message

/-- The text of a fault. -/
def Fault.message : Fault → String
  | notYaml => "not one well-formed YAML document"
  | wrongType place found expected =>
    atPlace place ("invalid type: " ++ found ++ ", expected " ++ expected)
  | wrongValue place text expected =>
    atPlace place ("invalid value: string " ++ Text.quoted text ++ ", expected " ++ expected)
  | duplicate key => "duplicate field `" ++ key.name ++ "`"
  | duration fault => fault.message

/-- The fault of a shape that is not what was expected. -/
def misfit (place expected : String) : Shape → Fault
  | .scalar s =>
    match s.meaning with
    | .ok m => .wrongType place m.describe expected
    | .error name => .wrongValue place s.text name
  | .list => .wrongType place "sequence" expected
  | .mapping => .wrongType place "map" expected

/-! ### Values -/

/-- The text of a scalar. -/
def textOf (place : String) (shape : Shape) : Except Fault String :=
  match shape with
  | .scalar s => .ok s.text
  | shape => .error (misfit place "a string" shape)

/-- The duration of a scalar. -/
def durationOf (place : String) (shape : Shape) : Except Fault Duration := do
  (Duration.parse (← textOf place shape)).mapError .duration

/-- Whether a scalar stands for nothing, where that is allowed. -/
def isNothing (s : Scalar) : Except Fault Bool :=
  if !s.isPlain then .ok false
  else if s.tag.isEmpty then .ok (s.text.isEmpty || Yaml.Meaning.isNothing s.text)
  else if s.tag = Yaml.standardTag "null" then
    if Yaml.Meaning.isNothing s.text then .ok true else .error (.wrongValue "" s.text "null")
  else .ok false

/-- The duration of a scalar that may also stand for nothing. -/
def durationOrNothing (place : String) (shape : Shape) : Except Fault (Option Duration) := do
  match shape with
  | .scalar s => if ← isNothing s then return none
  | _ => pure ()
  return some (← durationOf place shape)

/-! ### Entries -/

/-- Whether a key has settled something. -/
def isSettled (l : Layer) : Key → Bool
  | .namespaceStart => l.namespaceStart.isSome
  | .outputPath => l.outputPath.isSome
  | .queryTimeout => l.queryTimeout.isSome
  | .gracePeriod => l.gracePeriod.isSome

/-- The layer with the value of a key. -/
def settle (l : Layer) (key : Key) (place : String) (value : Shape) : Except Fault Layer := do
  if isSettled l key then throw (.duplicate key)
  match key with
  | .namespaceStart => return { l with namespaceStart := some (← textOf place value) }
  | .outputPath => return { l with outputPath := some (← textOf place value) }
  | .queryTimeout => return { l with queryTimeout := some (← durationOrNothing place value) }
  | .gracePeriod => return { l with gracePeriod := some (← durationOf place value) }

/-- The place of an entry's value: its key as it is written, which an alias is not. -/
def placeOf : Node → String
  | .scalar s => s.text
  | _ => "?"

/-- The layer with an entry of the mapping. -/
def entry (d : Document) (l : Layer) (e : Node × Node) : Except Fault Layer :=
  match d.shape? e.1, d.shape? e.2 with
  | some (.scalar s), some value =>
    match Key.ofName? s.text with
    | some key => settle l key (placeOf e.1) value
    | none => .ok l
  | some shape, _ => .error (misfit "" "field identifier" shape)
  | none, _ => .ok l

/-! ### Documents -/

/-- The layer of a document. -/
def layer (d : Document) : Except Fault Layer :=
  match d.root with
  | none => .ok .none
  | some (.mapping entries) => entries.foldlM (entry d) .none
  | some (.scalar s) =>
    if s.isPlain && s.text.isEmpty then .ok .none
    else .error (misfit "" "struct MonitorConfig" (.scalar s))
  | some _ => .error (misfit "" "struct MonitorConfig" .list)

/-- The layer of a text. -/
def load (text : String) : Except Fault Layer :=
  match Yaml.parse text with
  | some d => layer d
  | none => .error .notYaml

end OutageWatch.ConfigFile

/-! ### All sources -/

namespace OutageWatch

/-- Why the sources do not amount to settings. -/
inductive Config.Fault where
  | unreadable (message : String)
  | file (fault : ConfigFile.Fault)
  deriving DecidableEq, Repr

/-- The text of a fault. -/
def Config.Fault.message : Config.Fault → String
  | unreadable message => message
  | file fault => fault.message

/-- The layer of the configuration file, if the command line names one; `contents` gives the text
of a file. -/
def Options.fileLayer (contents : String → Except String String) (o : Options) :
    Except Config.Fault Layer :=
  match o.configFile with
  | none => .ok .none
  | some path => do
    let text ← (contents path).mapError .unreadable
    (ConfigFile.load text).mapError .file

/-- The settings of a command line, with the environment's variable and the configuration file. -/
def Config.ofSources (contents : String → Except String String) (o : Options)
    (namespaceStart : Option String) : Except Config.Fault Config := do
  return Config.resolve o namespaceStart (← o.fileLayer contents)

end OutageWatch
