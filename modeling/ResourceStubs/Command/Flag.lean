/-! The flags of the command line. A flag belongs to the levels that know it: the words before the
command are one level, and those behind it another. -/

namespace ResourceStubs.Command

/-- A flag of the command line. -/
inductive Flag where
  | dataDirectory
  | services
  | config
  | output
  | verbose
  | help
  | version
  deriving DecidableEq, Repr

namespace Flag

/-- The word that names the flag behind two hyphens. -/
def word : Flag → String
  | dataDirectory => "data-dir"
  | services => "services"
  | config => "config"
  | output => "output"
  | verbose => "verbose"
  | help => "help"
  | version => "version"

/-- The letter that names the flag behind one hyphen. -/
def letter : Flag → Char
  | dataDirectory => 'd'
  | services => 's'
  | config => 'c'
  | output => 'o'
  | verbose => 'v'
  | help => 'h'
  | version => 'V'

/-- The flag is given a value. -/
def takesValue : Flag → Bool
  | dataDirectory | services | config | output => true
  | verbose | help | version => false

end Flag

/-- A level of the command line. -/
inductive Level where
  | top
  | parse
  | services
  deriving DecidableEq, Repr

namespace Level

/-- The flags that the level knows. -/
def flags : Level → List Flag
  | top => [.verbose, .help, .version]
  | parse => [.dataDirectory, .services, .config, .output, .verbose, .help]
  | services => [.dataDirectory, .config, .verbose, .help]

/-- The level behind the word for a command. -/
def ofWord? : String → Option Level
  | "parse" => some parse
  | "services" => some services
  | _ => none

/-- The flag of a word at the level. -/
def flagOfWord? (level : Level) (word : List Char) : Option Flag :=
  level.flags.find? (·.word.toList == word)

/-- The flag of a letter at the level. -/
def flagOfLetter? (level : Level) (letter : Char) : Option Flag :=
  level.flags.find? (·.letter == letter)

end Level

end ResourceStubs.Command
