import OutageWatch.Text.Digits
import OutageWatch.Kind

/-!
# Log events

Everything that is logged is one of the events below.  An event has a level, and a text in which
lengths of time and counts are decimal numbers.

## Main definitions

* `Event`, `Event.level`, `Event.message`, `Event.line` : an event, and how it is logged.
-/

namespace OutageWatch

/-- The level of an event. -/
inductive Level where
  | debug
  | info
  | warn
  | error
  deriving DecidableEq, Repr

/-- The word for a level. -/
def Level.word : Level → String
  | .debug => "DEBUG"
  | .info => "INFO"
  | .warn => "WARN"
  | .error => "ERROR"

/-- What a history belongs to. -/
inductive Entity where
  | workload (kind : Kind) (home name : String)
  | namespaced (name : String)
  deriving DecidableEq, Repr

/-- The name of an entity for people. -/
def Entity.display : Entity → String
  | .workload kind home name => kind.display ++ " " ++ home ++ "/" ++ name
  | .namespaced name => "namespace " ++ name

/-- Something that is logged. -/
inductive Event where
  /-- An object of the cluster has no namespace. -/
  | withoutNamespace (kind : Kind) (name : String)
  /-- The ready count of an object is no integer. -/
  | malformedReadyCount (kind : Kind) (home name : String)
  /-- The cluster does not know the kind. -/
  | kindNotServed (kind : Kind)
  /-- The first snapshot is about to be taken. -/
  | initialListing (start : String)
  /-- The numbered attempt at a first snapshot told too little. -/
  | attemptFailed (attempt : Nat) (problem : String)
  /-- A workload was listed whose namespace is not watched. -/
  | outsideNamespaces (kind : Kind) (home name : String)
  | nothingTracked
  | tracking (count : Nat) (name : String)
  | skippingKind (kind : Kind) (reason : String)
  | namespaceAbsent (name : String)
  | namespacesFailed (reason : String)
  | noNamespaces
  | down (entity : Entity)
  | backUp (entity : Entity) (seconds : Int)
  | monitoring (location : String)
  | polling
  | pollComplete (poll : Nat) (now : Int) (down : Nat)
  | stopRequested (polls : Nat)
  | downtimeOf (name : String) (seconds : Int)
  | finalReport (location : String)
  | wrote (bytes : Nat) (location : String)
  /-- A report could not be written. -/
  | writeFailed (problem : String)
  | waiting (period : String)
  deriving DecidableEq, Repr

namespace Event

/-- The decimal text of a count. -/
private def count (n : Nat) : String := String.ofList (Digits.decimal n)

/-- The decimal text of a time or a length of time. -/
private def seconds (n : Int) : String := String.ofList (Digits.int n)

/-- The level of an event. -/
def level : Event → Level
  | withoutNamespace .. | malformedReadyCount .. | attemptFailed .. | nothingTracked
  | skippingKind .. | namespacesFailed .. => .warn
  | kindNotServed .. | outsideNamespaces .. | namespaceAbsent .. | noNamespaces | polling
  | pollComplete .. | wrote .. => .debug
  | writeFailed .. => .error
  | initialListing .. | tracking .. | down .. | backUp .. | monitoring .. | stopRequested ..
  | downtimeOf .. | finalReport .. | waiting .. => .info

/-- The text of an event. -/
def message : Event → String
  | withoutNamespace kind name => kind.display ++ " " ++ name ++ " has no namespace, skipping"
  | malformedReadyCount kind home name =>
    (Entity.workload kind home name).display ++ " has a malformed ready count"
  | kindNotServed kind => kind.display ++ " API not found, treating as empty"
  | initialListing start =>
    "getting initial list of namespaces and workloads with prefix " ++ start
  | attemptFailed attempt problem =>
    "initial snapshot attempt " ++ count attempt ++ " failed, retrying: " ++ problem
  | outsideNamespaces kind home name =>
    (Entity.workload kind home name).display ++ " is not in a tracked namespace"
  | nothingTracked => "no namespaces found; nothing will be tracked"
  | tracking n name => "tracking " ++ count n ++ " resources in namespace " ++ name
  | skippingKind kind reason => "skipping " ++ kind.display ++ "s for this poll: " ++ reason
  | namespaceAbsent name => "tracked namespace " ++ name ++ " is no longer present"
  | namespacesFailed reason => "could not list namespaces for this poll: " ++ reason
  | noNamespaces => "no namespaces with a matching prefix are present"
  | down entity => entity.display ++ " is down"
  | backUp entity n => entity.display ++ " is back up after " ++ seconds n ++ "s"
  | monitoring location => "monitoring downtime, writing reports to " ++ location
  | polling => "getting available deployment configs, deployments and statefulsets"
  | pollComplete poll now n =>
    "poll " ++ count poll ++ " complete at " ++ seconds now ++ ": " ++ count n ++
      " namespaces down"
  | stopRequested polls =>
    "stop requested after " ++ count polls ++ " polls, finalizing downtimes"
  | downtimeOf name n => "namespace " ++ name ++ ": " ++ seconds n ++ "s of downtime"
  | finalReport location => "final report written to " ++ location
  | wrote n location => "wrote " ++ count n ++ " bytes to " ++ location
  | writeFailed problem => problem
  | waiting period => "waiting " ++ period ++ " before exiting"

/-- The line that is logged. -/
def line (e : Event) : String := e.level.word ++ " " ++ e.message

end Event

end OutageWatch
