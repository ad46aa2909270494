import SchemaPipeline.Command.Invocation
import SchemaPipeline.Text.Pieces

/-!
# Reading command lines

Options have a long name after two dashes or a letter after one, and letters can be put together.
The value of an option is the next argument, unless it is attached to the option; an argument that
looks like an option is no value. After two dashes alone every argument is a word. The first thing
that is wrong decides, and so does the first question for help.
-/

namespace SchemaPipeline.Command

/-! ## Options -/

inductive Flag where
  | verbose
  | logJson
  | noDefaults
  | noFill
  | noFormats
  | compact
deriving DecidableEq, Repr

inductive Setting where
  | config
  | schema
  | draft
deriving DecidableEq, Repr

inductive CommandOption where
  | flag (f : Flag)
  | setting (s : Setting)
  | help
  | version
deriving DecidableEq, Repr

namespace Flag

def longName : Flag → String
  | .verbose => "verbose"
  | .logJson => "log-json"
  | .noDefaults => "no-defaults"
  | .noFill => "no-fill"
  | .noFormats => "no-formats"
  | .compact => "compact"

/-- Whether the flag counts how often it is given. Any other is given once. -/
def isCounted : Flag → Bool
  | .verbose => true
  | _ => false

end Flag

namespace Setting

def longName : Setting → String
  | .config => "config"
  | .schema => "schema"
  | .draft => "draft"

/-- Whether a text is a value of the setting. No path is empty. -/
def accepts : Setting → String → Bool
  | .draft, v => (DraftChoice.parse v).isOk
  | _, v => !v.isEmpty

end Setting

namespace CommandOption

def longName : CommandOption → String
  | .flag f => f.longName
  | .setting s => s.longName
  | .help => "help"
  | .version => "version"

def letter? : CommandOption → Option Char
  | .flag .verbose => some 'v'
  | .setting .schema => some 's'
  | .help => some 'h'
  | .version => some 'V'
  | _ => none

/-- The options that can stand anywhere. -/
def everywhere : List CommandOption :=
  [.flag .verbose, .flag .logJson, .setting .config, .help]

/-- The options that can stand before the name of the command, or after the name of a command. -/
def available : Option CommandName → List CommandOption
  | none => everywhere ++ [.version]
  | some .check => everywhere
  | some .validate =>
    everywhere ++ [.setting .schema, .flag .noDefaults, .flag .noFill, .flag .noFormats,
      .setting .draft, .flag .compact]

def ofLongName? (place : Option CommandName) (name : String) : Option CommandOption :=
  (available place).find? (·.longName == name)

def ofLetter? (place : Option CommandName) (letter : Char) : Option CommandOption :=
  (available place).find? (·.letter? == some letter)

end CommandOption

/-! ## Arguments -/

/-- How an argument looks. -/
inductive Argument where
  | word (text : String)
  | long (name : String) (value : Option String)
  | letters (cs : List Char)
  | wordsFollow
deriving DecidableEq, Repr

namespace Argument

def ofText (s : String) : Argument :=
  match s.toList with
  | ['-', '-'] => .wordsFollow
  | '-' :: '-' :: cs =>
    match Text.splitFirst '=' cs with
    | some (name, value) => .long (String.ofList name) (some (String.ofList value))
    | none => .long (String.ofList cs) none
  | '-' :: c :: cs => .letters (c :: cs)
  | _ => .word s

def isWord (s : String) : Bool :=
  match ofText s with
  | .word _ => true
  | _ => false

end Argument

/-! ## Gathering -/

/-- What the arguments say up to some point. -/
structure Gathered where
  flags : List Flag
  settings : List (Setting × String)
  words : List String
deriving Repr

namespace Gathered

def empty : Gathered := ⟨[], [], []⟩

def setting? (g : Gathered) (s : Setting) : Option String := g.settings.lookup s

def has (g : Gathered) (f : Flag) : Bool := g.flags.contains f

end Gathered

/-- Why reading stops before the end. -/
inductive Ending where
  | usage (error : UsageError)
  | help (about : Option CommandName)
  | version
deriving DecidableEq, Repr

def addFlag (g : Gathered) (f : Flag) : Except Ending Gathered :=
  if g.has f && !f.isCounted then .error (.usage (.repeated f.longName))
  else .ok { g with flags := f :: g.flags }

def addSetting (g : Gathered) (s : Setting) (v : String) : Except Ending Gathered :=
  if !s.accepts v then .error (.usage (.invalidValue s.longName v))
  else if (g.setting? s).isSome then .error (.usage (.repeated s.longName))
  else .ok { g with settings := (s, v) :: g.settings }

def addWord (g : Gathered) (w : String) : Except Ending Gathered :=
  if w.isEmpty then .error (.usage (.invalidValue "path" w))
  else .ok { g with words := g.words ++ [w] }

def addWords (g : Gathered) (ws : List String) : Except Ending Gathered := ws.foldlM addWord g

/-- What an option leads to: a setting without an attached value waits for the next argument. -/
def addOption (place : Option CommandName) (g : Gathered) (o : CommandOption)
    (attached : Option String) : Except Ending (Gathered × Option Setting) :=
  match o, attached with
  | .setting s, some v => (addSetting g s v).map (·, none)
  | .setting s, none => .ok (g, some s)
  | o, some _ => .error (.usage (.unexpectedValue o.longName))
  | .flag f, none => (addFlag g f).map (·, none)
  | .help, none => .error (.help place)
  | .version, none => .error .version

/-- The value that stands right after the letter of its option. -/
def attachedValue : List Char → Option String
  | [] => none
  | '=' :: cs => some (String.ofList cs)
  | cs => some (String.ofList cs)

/-- Letters after one dash. The first one with a value takes what is left. -/
def addLetters (place : Option CommandName) :
    List Char → Gathered → Except Ending (Gathered × Option Setting)
  | [], g => .ok (g, none)
  | c :: cs, g =>
    match CommandOption.ofLetter? place c with
    | none => .error (.usage (.unknownOption (String.ofList ['-', c])))
    | some (.setting s) => addOption place g (.setting s) (attachedValue cs)
    | some o =>
      match addOption place g o none with
      | .error e => .error e
      | .ok (g, _) => addLetters place cs g

/-- The arguments after the name of a command. -/
def gather (c : CommandName) :
    Option Setting → List String → Gathered → Except Ending Gathered
  | none, [], g => .ok g
  | some s, [], _ => .error (.usage (.missingValue s.longName))
  | some s, a :: rest, g =>
    if Argument.isWord a then (addSetting g s a).bind (gather c none rest)
    else .error (.usage (.missingValue s.longName))
  | none, a :: rest, g =>
    match Argument.ofText a with
    | .word w => (addWord g w).bind (gather c none rest)
    | .wordsFollow => addWords g rest
    | .letters cs => (addLetters (some c) cs g).bind fun (g, s) => gather c s rest g
    | .long name value =>
      match CommandOption.ofLongName? (some c) name with
      | none => .error (.usage (.unknownOption a))
      | some o => (addOption (some c) g o value).bind fun (g, s) => gather c s rest g

/-- Help about the command that is named, or about the program. -/
def readHelp : List String → Ending
  | [] => .help none
  | [topic] =>
    match CommandName.ofName? topic with
    | some c => .help (some c)
    | none => if topic == "help" then .help none else .usage (.unknownCommand topic)
  | topic :: other :: _ =>
    if (CommandName.ofName? topic).isSome then .usage (.unknownCommand other)
    else .usage (.unknownCommand topic)

/-- The arguments up to the name of the command: what they say, the command, and the arguments after
its name. -/
def gatherBefore :
    Option Setting → List String → Gathered → Except Ending (Gathered × CommandName × List String)
  | none, [], _ => .error (.usage .missingCommand)
  | some s, [], _ => .error (.usage (.missingValue s.longName))
  | some s, a :: rest, g =>
    if Argument.isWord a then (addSetting g s a).bind (gatherBefore none rest)
    else .error (.usage (.missingValue s.longName))
  | none, a :: rest, g =>
    match Argument.ofText a with
    | .word w =>
      if w == "help" then .error (readHelp rest)
      else
        match CommandName.ofName? w with
        | some c => .ok (g, c, rest)
        | none => .error (.usage (.unknownCommand w))
    | .wordsFollow =>
      match rest with
      | [] => .error (.usage .missingCommand)
      | w :: _ => .error (.usage (.unexpectedArgument w))
    | .letters cs => (addLetters none cs g).bind fun (g, s) => gatherBefore s rest g
    | .long name value =>
      match CommandOption.ofLongName? none name with
      | none => .error (.usage (.unknownOption a))
      | some o => (addOption none g o value).bind fun (g, s) => gatherBefore s rest g

/-! ## Requests -/

/-- The task of a command with its arguments. -/
def taskOf (c : CommandName) (g : Gathered) : Except UsageError Task :=
  match c with
  | .check => if g.words.isEmpty then .error (.missingArgument "SCHEMA") else .ok (.check g.words)
  | .validate =>
    match g.setting? .schema with
    | none => .error (.missingArgument "--schema")
    | some schema =>
      if g.words.isEmpty then .error (.missingArgument "DATA")
      else
        .ok (.validate
          { schema := schema
            data := g.words
            noDefaults := g.has .noDefaults
            noFill := g.has .noFill
            noFormats := g.has .noFormats
            draft := (g.setting? .draft).bind fun d => (DraftChoice.parse d).toOption
            compact := g.has .compact })

/-- What is said after the name of the command goes before what is said before it. -/
def invocationOf (before after : Gathered) (task : Task) : Invocation :=
  { verbosity := (if after.has .verbose then after else before).flags.count .verbose
    logJson := before.has .logJson || after.has .logJson
    config := (after.setting? .config).or (before.setting? .config)
    task := task }

def readArguments (args : List String) : Except Ending Invocation := do
  let (before, c, rest) ← gatherBefore none args Gathered.empty
  let after ← gather c none rest Gathered.empty
  match taskOf c after with
  | .error e => .error (.usage e)
  | .ok task => .ok (invocationOf before after task)

/-- What a command line asks for. -/
def Request.ofArguments (args : List String) : Except UsageError Request :=
  match readArguments args with
  | .ok invocation => .ok (.run invocation)
  | .error (.help about) => .ok (.help about)
  | .error .version => .ok .version
  | .error (.usage e) => .error e

end SchemaPipeline.Command
