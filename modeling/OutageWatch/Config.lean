import OutageWatch.CommandLine

/-!
# Settings

The settings of a run come from four sources: the command line, the environment, the configuration
file and the defaults.  Each source is a layer that settles some of the settings; where several
settle one, the first of them in this order wins.

## Main definitions

* `Config` : the settings.
* `Layer` : the settings that one source settles; `Layer.above` puts one layer above another.
* `Layer.complete` : the settings of a layer, with the defaults below it.
* `Options.layer`, `Layer.ofEnvironment` : the layers of the command line and the environment.
* `Config.resolve` : the settings of all sources.

## Main results

* `Layer.above_assoc`, `Layer.none_above`, `Layer.above_none` : layers are put together in any
  grouping, and a layer that settles nothing changes nothing.
-/

namespace OutageWatch

/-- The settings of a run. -/
structure Config where
  namespaceStart : String
  outputPath : String
  queryTimeout : Option Duration
  gracePeriod : Duration
  deriving DecidableEq, Repr

namespace Config

/-- The settings where no source says otherwise. -/
def default : Config := {
  namespaceStart := "redhat-rhmi-"
  outputPath := "downtime.json"
  queryTimeout := none
  gracePeriod := Duration.zero }

end Config

/-- The settings that one source settles.  It may settle that queries have no time limit. -/
structure Layer where
  namespaceStart : Option String := none
  outputPath : Option String := none
  queryTimeout : Option (Option Duration) := none
  gracePeriod : Option Duration := none
  deriving DecidableEq, Repr

namespace Layer

/-- The layer that settles nothing. -/
def none : Layer := {}

/-- A layer above another one: what both settle is as in the upper one. -/
def above (upper lower : Layer) : Layer where
  namespaceStart := upper.namespaceStart.or lower.namespaceStart
  outputPath := upper.outputPath.or lower.outputPath
  queryTimeout := upper.queryTimeout.or lower.queryTimeout
  gracePeriod := upper.gracePeriod.or lower.gracePeriod

theorem above_assoc (a b c : Layer) : (a.above b).above c = a.above (b.above c) := by
  simp [above, Option.or_assoc]

@[simp] theorem none_above (a : Layer) : none.above a = a := by simp [above, none]

@[simp] theorem above_none (a : Layer) : a.above none = a := by simp [above, none]

/-- The settings of a layer, with the defaults below it. -/
def complete (a : Layer) : Config where
  namespaceStart := a.namespaceStart.getD Config.default.namespaceStart
  outputPath := a.outputPath.getD Config.default.outputPath
  queryTimeout := a.queryTimeout.getD Config.default.queryTimeout
  gracePeriod := a.gracePeriod.getD Config.default.gracePeriod

/-- The layer of the environment: the variable settles the start of the namespaces even if it is
empty. -/
def ofEnvironment (namespaceStart : Option String) : Layer := { namespaceStart }

end Layer

/-- The name of the environment's variable. -/
def namespaceStartVariable : String := "NAMESPACE_PREFIX"

/-- The layer of the command line. -/
def Options.layer (o : Options) : Layer where
  namespaceStart := o.namespaceStart
  outputPath := o.output
  queryTimeout := o.queryTimeout.map some
  gracePeriod := o.gracePeriod

/-- The settings of the command line, the environment's variable and the configuration file. -/
def Config.resolve (o : Options) (namespaceStart : Option String) (file : Layer) : Config :=
  (o.layer.above ((Layer.ofEnvironment namespaceStart).above file)).complete

end OutageWatch
