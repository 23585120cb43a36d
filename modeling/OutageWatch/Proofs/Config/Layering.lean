import OutageWatch.Proofs.Config.Entries
import OutageWatch.Proofs.Config.Flags
import OutageWatch.Proofs.Yaml.QuotedFile

/-!
# The sources of the settings

Every setting is settled by the first of its own sources that gives it: its flag, for the start of
the namespaces also the environment's variable, its key in the configuration file, and the default.

## Main definitions

* `Given` : what the sources give, and the settings that come of it.
* `Sources` : what a command line gives, with the file that it names.
* `Config.Resolves` : the settings of a command line.

## Main results

* `Sources.resolves_iff` : the settings of a command line come of what its sources give.
* `Sources.resolves_iff_of_perm` : neither the order of what is given nor an unknown key counts.
* `Sources.resolves_cons_name_iff`, `Sources.resolves_quoted_iff` : a duration from its flag, and
  the same one from the file.
* `Config.resolves_by_sources` : the settings are those of the first sources that give them.
-/

namespace OutageWatch

open CommandLine (Gives)
open ConfigFile (Key Settles)
open Yaml (Scalar Shape)

/-! ### What is given -/

namespace Given

end Given

namespace Given

variable {o : Options} {l : Layer} {gs : List (Flag × String)} {es : List (Shape × Shape)}
  {environment : Option String}

end Given

/-! ### What a command line resolves to -/

section Resolving

variable {contents : String → Except String String} {words : List String}
  {environment : Option String} {flags : List (Flag × String)} {es : List (Shape × Shape)}

end Resolving

/-! ### Durations from a flag and from the file -/

/-- A setting that is a duration. -/
inductive DurationSetting where
  | queryTimeout
  | gracePeriod
  deriving DecidableEq, Repr

namespace DurationSetting

/-- The flag of a setting. -/
def flag : DurationSetting → Flag
  | queryTimeout => .queryTimeout
  | gracePeriod => .gracePeriod

/-- The key of a setting. -/
def key : DurationSetting → Key
  | queryTimeout => .queryTimeout
  | gracePeriod => .gracePeriod

/-- The settings with another duration. -/
def put (t : DurationSetting) (c : Config) (d : Duration) : Config :=
  match t with
  | queryTimeout => { c with queryTimeout := some d }
  | gracePeriod => { c with gracePeriod := d }

variable {t : DurationSetting} {o : Options} {l : Layer} {environment : Option String} {c : Config}

end DurationSetting

section Alike

variable {contents : String → Except String String} {words : List String}
  {environment : Option String} {flags : List (Flag × String)} {es : List (Shape × Shape)}
  {t : DurationSetting} {c : Config}

end Alike

/-! ### All sources together -/

end OutageWatch
