import ResourceStubs.Command.Flag
import ResourceStubs.Text.Replace

/-! The command that the arguments of a call ask for. Arguments are taken from left to right, so
that a request for help counts only if nothing before it is wrong. -/

namespace ResourceStubs

/-- What the command that builds stubs is asked to do. -/
structure ParseRequest where
  dataDirectory : String
  services : Option (List String)
  config : Option String
  output : Option String
  verbose : Bool
  deriving DecidableEq, Repr, Inhabited

/-- What a call asks for. -/
inductive Command where
  /-- Build the stubs of services and write them if an output is named. -/
  | parse (request : ParseRequest)
  /-- List the services of a data directory. -/
  | services (dataDirectory : String) (config : Option String)
  deriving DecidableEq, Repr

namespace Command

/-- Why a call runs no command. -/
inductive Interruption where
  /-- The arguments do not fit together. -/
  | misuse
  /-- Help was asked for. -/
  | help (level : Level)
  /-- The version was asked for. -/
  | version
  deriving DecidableEq, Repr

/-- What the flags of one level say. -/
structure Settings where
  dataDirectory : Option String
  services : Option (List String)
  config : Option String
  output : Option String
  verbose : Bool
  deriving DecidableEq, Repr

namespace Settings

/-- No flag was given. -/
def none : Settings := ⟨.none, .none, .none, .none, false⟩

/-- A path for a flag, which is not empty and is given only once. -/
def setPath (before : Option String) (path : String) : Except Interruption (Option String) :=
  if before.isSome || path.isEmpty then .error .misuse else .ok (some path)

/-- The names in a list with commas between them. -/
def namesIn (text : String) : List String := (text.toList.splitOn ',').map String.ofList

/-- The settings after a flag with its value. Only lists of services may be given repeatedly, and
add up. -/
def set (level : Level) (settings : Settings) (flag : Flag) (value : String) :
    Except Interruption Settings :=
  match flag with
  | .dataDirectory => do
    return { settings with dataDirectory := ← setPath settings.dataDirectory value }
  | .services =>
    .ok { settings with services := some (settings.services.getD [] ++ namesIn value) }
  | .config => do return { settings with config := ← setPath settings.config value }
  | .output => do return { settings with output := ← setPath settings.output value }
  | .verbose => if settings.verbose then .error .misuse else .ok { settings with verbose := true }
  | .help => .error (.help level)
  | .version => .error .version

end Settings

/-- What the arguments say so far, and the flag that waits for its value. -/
structure Reading where
  settings : Settings
  waiting : Option Flag

/-- A flag by its word, with its value behind an equals sign or in the next argument. -/
def readWord (level : Level) (settings : Settings) (text : List Char) :
    Except Interruption Reading :=
  let (word, attached) := match Text.splitOnce? ['='] text with
    | some (word, value) => (word, some (String.ofList value))
    | none => (text, none)
  match level.flagOfWord? word with
  | none => .error .misuse
  | some flag =>
    match flag.takesValue, attached with
    | true, some value => do return ⟨← settings.set level flag value, none⟩
    | true, none => .ok ⟨settings, some flag⟩
    | false, some _ => .error .misuse
    | false, none => do return ⟨← settings.set level flag "", none⟩

/-- Flags by their letters. What stands behind the letter of a flag that takes a value is its
value. -/
def readLetters (level : Level) (settings : Settings) : List Char → Except Interruption Reading
  | [] => .ok ⟨settings, none⟩
  | letter :: rest =>
    match level.flagOfLetter? letter with
    | none => .error .misuse
    | some flag =>
      if flag.takesValue then
        match rest with
        | [] => .ok ⟨settings, some flag⟩
        | '=' :: value | value => do
          return ⟨← settings.set level flag (String.ofList value), none⟩
      else do readLetters level (← settings.set level flag "") rest

/-- An argument that can be a value: a hyphen may only stand alone. -/
def isValue (argument : String) : Bool :=
  argument.toList.head? != some '-' || argument == "-"

/-- What the flags of a level say, and the arguments from the first that is none. Two hyphens alone
end the flags; nothing may follow them. -/
def readLevel (level : Level) (settings : Settings) :
    List String → Except Interruption (Settings × List String)
  | [] => .ok (settings, [])
  | argument :: rest =>
    let step : Option (Except Interruption Reading) := match argument.toList with
      | ['-', '-'] => if rest.isEmpty then some (.ok ⟨settings, none⟩) else some (.error .misuse)
      | '-' :: '-' :: text => some (readWord level settings text)
      | '-' :: letter :: letters => some (readLetters level settings (letter :: letters))
      | _ => none
    match step with
    | none => .ok (settings, argument :: rest)
    | some (.error interruption) => .error interruption
    | some (.ok ⟨settings, none⟩) => readLevel level settings rest
    | some (.ok ⟨settings, some flag⟩) =>
      match rest with
      | [] => .error .misuse
      | value :: rest =>
        if isValue value then
          match settings.set level flag value with
          | .error interruption => .error interruption
          | .ok settings => readLevel level settings rest
        else .error .misuse

/-- What is answered to the word `help` with the words behind it. -/
def helpOn : List String → Interruption
  | [] | ["help"] => .help .top
  | [word] => ((Level.ofWord? word).map Interruption.help).getD .misuse
  | _ => .misuse

/-- The command of a level with its settings. -/
def ofSettings (level : Level) (settings : Settings) (verbose : Bool) :
    Except Interruption Command :=
  match level, settings.dataDirectory with
  | .parse, some dataDirectory => .ok (.parse {
      dataDirectory
      services := settings.services
      config := settings.config
      output := settings.output
      verbose := verbose || settings.verbose })
  | .services, some dataDirectory => .ok (.services dataDirectory settings.config)
  | _, _ => .error .misuse

/-- The command that arguments ask for. -/
def read (arguments : List String) : Except Interruption Command := do
  let (top, words) ← readLevel .top .none arguments
  match words with
  | [] => .error .misuse
  | "help" :: topics => .error (helpOn topics)
  | word :: rest =>
    match Level.ofWord? word with
    | none => .error .misuse
    | some level =>
      match ← readLevel level .none rest with
      | (settings, []) => ofSettings level settings top.verbose
      | (_, _ :: _) => .error .misuse

end Command

end ResourceStubs
