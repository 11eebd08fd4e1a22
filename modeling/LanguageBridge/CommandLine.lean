/-!
# The command line

The program takes up to three options, each with a value: the endpoint of the language server, the
path of the settings file and the language that providers register for.  A value follows its option
as the next word, or behind an equals sign.  It can also be asked for a summary of its options or
for its version.
-/

namespace LanguageBridge.CommandLine

/-- What the program is told. -/
structure Options where
  endpoint : Option String
  settingsPath : Option String
  languageId : Option String
  deriving DecidableEq, Repr, Inhabited

/-- What the program is asked to do. -/
inductive Order where
  | serve (o : Options)
  | help
  | version
  deriving DecidableEq, Repr

/-- Why a command line makes no sense. -/
inductive Fault where
  | unexpected (word : String)
  | valueMissing (option : String)
  | repeated (option : String)
  deriving DecidableEq, Repr

namespace Fault

/-- The wording of a fault. -/
def message : Fault → String
  | .unexpected word => "error: unexpected argument '" ++ word ++ "' found"
  | .valueMissing option => "error: a value is required for '" ++ option ++ "' but none was supplied"
  | .repeated option => "error: the argument '" ++ option ++ "' cannot be used multiple times"

end Fault

/-- An option that takes a value. -/
inductive Key where
  | endpoint
  | settingsPath
  | languageId
  deriving DecidableEq, Repr

namespace Key

/-- How an option is written in full. -/
def name : Key → String
  | .endpoint => "--endpoint"
  | .settingsPath => "--config"
  | .languageId => "--language-id"

/-- The option that a word stands for. -/
def ofWord? : String → Option Key
  | "--endpoint" => some .endpoint
  | "-e" => some .endpoint
  | "--config" => some .settingsPath
  | "-c" => some .settingsPath
  | "--language-id" => some .languageId
  | _ => none

end Key

namespace Options

/-- No option given. -/
def none : Options := ⟨.none, .none, .none⟩

/-- The value of an option. -/
def get (o : Options) : Key → Option String
  | .endpoint => o.endpoint
  | .settingsPath => o.settingsPath
  | .languageId => o.languageId

/-- An option given a value; no option takes two. -/
def give (o : Options) (key : Key) (value : String) : Except Fault Options :=
  if (o.get key).isSome then .error (.repeated key.name)
  else
    match key with
    | .endpoint => .ok { o with endpoint := value }
    | .settingsPath => .ok { o with settingsPath := value }
    | .languageId => .ok { o with languageId := value }

end Options

/-- A word cut at its first equals sign, if it is a long option. -/
def cut (word : String) : String × Option String :=
  let isSign := fun c : Char => c == '='
  let cs := word.toList
  if cs.take 2 = ['-', '-'] then
    match cs.dropWhile fun c => !isSign c with
    | [] => (word, .none)
    | _ :: value => (String.ofList (cs.takeWhile fun c => !isSign c), some (String.ofList value))
  else (word, .none)

/-- What the words of a command line ask for, after some options. -/
def read (o : Options) : List String → Except Fault Order
  | [] => .ok (.serve o)
  | "--help" :: _ => .ok .help
  | "-h" :: _ => .ok .help
  | "--version" :: _ => .ok .version
  | "-V" :: _ => .ok .version
  | word :: rest =>
    match Key.ofWord? (cut word).1, (cut word).2, rest with
    | .none, _, _ => .error (.unexpected word)
    | some key, some value, rest =>
      match o.give key value with
      | .error e => .error e
      | .ok o => read o rest
    | some key, .none, [] => .error (.valueMissing key.name)
    | some key, .none, value :: rest =>
      match o.give key value with
      | .error e => .error e
      | .ok o => read o rest

/-- What a command line asks for. -/
def Order.ofWords (words : List String) : Except Fault Order := read .none words

/-- The summary of the options. -/
def summary : String :=
  "Bridge an editor host to a WebSocket language server\n\n"
  ++ "Usage: lsp-bridge [OPTIONS]\n\n"
  ++ "Options:\n"
  ++ "  -e, --endpoint <ENDPOINT>        Language server endpoint as host:port\n"
  ++ "  -c, --config <FILE>              Path to the JSON config file\n"
  ++ "      --language-id <LANGUAGE_ID>  Language id the providers register for\n"
  ++ "  -h, --help                       Print help\n"
  ++ "  -V, --version                    Print version"

/-- The name and the version of the program. -/
def version : String := "lsp-bridge 0.1.0"

end LanguageBridge.CommandLine
