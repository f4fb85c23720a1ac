import EventFormation.Command.Generate
import EventFormation.Command.Replay

/-!
# Command lines

A command line names a command, and gives it files and options. An option has
a long name and perhaps a short one, and a value unless it is a switch; the
value is the next word, or follows an equals sign. Names and numbers are
checked here, so a command only sees what it can use.
-/

namespace EventFormation

namespace Command

/-- An option of a command. -/
structure OptionForm where
  long : String
  short : String := ""
  /-- Whether a value belongs to it. -/
  valued : Bool := true

/-- The words of a command line, told apart. -/
structure Words where
  /-- The words that belong to no option. -/
  plain : List String := []
  /-- The options that were given, with their values. -/
  given : List (String × String) := []
  deriving Inhabited

namespace Words

def give (words : Words) (name value : String) : Words :=
  { words with given := words.given ++ [(name, value)] }

/-- The form of an option that a word names. -/
def form? (forms : List OptionForm) (word : String) : Option OptionForm :=
  forms.find? fun form => word == "--" ++ form.long || (form.short != "" && word == "-" ++ form.short)

/-- An option and its value in one word, if the word is of that sort. -/
def joined? (forms : List OptionForm) (word : String) : Option (OptionForm × String) :=
  match word.splitOn "=" with
  | name :: first :: more =>
    (form? forms name).map fun form => (form, "=".intercalate (first :: more))
  | _ => none

/-- Tells words apart. -/
def read (forms : List OptionForm) (words : Words) (given : List String) :
    Except String Words :=
  match given with
  | [] => .ok words
  | word :: rest =>
    match form? forms word, joined? forms word with
    | some form, _ =>
      if form.valued then
        match rest with
        | value :: more => read forms (words.give form.long value) more
        | [] => .error s!"a value is required for '--{form.long}'"
      else
        read forms (words.give form.long "") rest
    | none, some (form, value) => read forms (words.give form.long value) rest
    | none, none =>
      if word.startsWith "-" then .error s!"unexpected argument '{word}' found"
      else read forms { words with plain := words.plain ++ [word] } rest
  termination_by given.length

/-- The value of an option, if it was given. -/
def value? (words : Words) (name : String) : Option String :=
  (words.given.find? (·.1 == name)).map (·.2)

/-- The value of an option that must be given. -/
def need (words : Words) (name : String) : Except String String :=
  match words.value? name with
  | some value => .ok value
  | none => .error s!"the option '--{name}' is required"

/-- The number that an option gives, below a bound, or its default. -/
def number (words : Words) (name : String) (bound default : Nat) : Except String Nat :=
  match words.value? name with
  | none => .ok default
  | some text =>
    match text.toNat? with
    | some value =>
      if value < bound then .ok value else .error s!"the value of '--{name}' is too large"
    | none => .error s!"the value of '--{name}' is not a number"

def has (words : Words) (name : String) : Bool :=
  (words.value? name).isSome

end Words

/-- A command with what it is given. Files are given by name. -/
inductive Invocation where
  | live (settings output : String) (dump : Option String)
  | replay (files : List String) (settings : Option String) (output : String)
      (dump : Option String) (batchSize : Nat) (verbose : Bool)
  | inspect (file : String)
  | generate (stem : String) (synthesis : Synthesis)
  | send (files : List String) (target : String) (perPacket : Nat)

namespace Invocation

/-- The options of live input. Those of the network have no effect on the
events. -/
def liveForms : List OptionForm :=
  [{ long := "config", short := "c" }, { long := "host" }, { long := "port", short := "p" },
    { long := "output", short := "o" }, { long := "dump" }, { long := "split-secs" },
    { long := "duration" }, { long := "queue" }]

def replayForms : List OptionForm :=
  [{ long := "config", short := "c" }, { long := "output", short := "o" }, { long := "dump" },
    { long := "batch-size" }, { long := "verbose", short := "v", valued := false }]

def generateForms : List OptionForm :=
  [{ long := "output", short := "o" }, { long := "clusters", short := "c" }, { long := "hits" },
    { long := "frame-period-ns" }, { long := "pixels" }, { long := "seed" }]

def sendForms : List OptionForm :=
  [{ long := "target", short := "t" }, { long := "records" }, { long := "interval-us" }]

/-- The files of a command that needs at least one. -/
def someFiles (words : Words) : Except String (List String) :=
  if words.plain.isEmpty then .error "an input file is required" else .ok words.plain

/-- Reads a command line. -/
def read : List String → Except String Invocation
  | [] => .error "a command is required"
  | "run" :: rest => do
    let words ← Words.read liveForms {} rest
    pure (.live (← words.need "config") (← words.need "output") (words.value? "dump"))
  | "replay" :: rest => do
    let words ← Words.read replayForms {} rest
    pure (.replay (← someFiles words) (words.value? "config") (← words.need "output")
      (words.value? "dump") (← words.number "batch-size" UInt64.size 4096) (words.has "verbose"))
  | "info" :: rest => do
    let words ← Words.read [] {} rest
    match words.plain with
    | [file] => pure (.inspect file)
    | _ => .error "exactly one input file is required"
  | "generate" :: rest => do
    let words ← Words.read generateForms {} rest
    pure (.generate (← words.need "output")
      { streaks := ← words.number "clusters" UInt64.size 10000
        hits := ← words.number "hits" UInt16.size 4
        framePeriod := ← words.number "frame-period-ns" UInt64.size 1000000
        pixels := ← words.number "pixels" UInt16.size 1024
        seed := ← words.number "seed" UInt64.size 12345 })
  | "send" :: rest => do
    let words ← Words.read sendForms {} rest
    pure (.send (← someFiles words) ((words.value? "target").getD "127.0.0.1:9000")
      (← words.number "records" UInt64.size 400))
  | command :: _ => .error s!"unrecognized subcommand '{command}'"

end Invocation

end Command

end EventFormation
