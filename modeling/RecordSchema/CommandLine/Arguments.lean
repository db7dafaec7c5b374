set_option autoImplicit false

/-!
The arguments of the command line. Options may be written as `--name value`, `--name=value`,
`-n value`, `-nvalue` and `-n=value`, each at most once; options of the program stand before the
command, and behind `--` nothing is an option.
-/

namespace RecordSchema.CommandLine

inductive Command where
  | check
  | parse (model file : String)
  | settings (write : Option String)

structure Invocation where
  settingsFile : Option String
  schemas : Option String
  command : Command

/-- The pages of help. -/
inductive HelpPage where
  | program
  | check
  | parse
  | settings
  | help

/-- Why arguments make no invocation. -/
inductive Refusal where
  | help (page : HelpPage)
  | misuse

/-- What takes a value: an option with its letter and its name, or an operand without. Paths may
not be empty. -/
structure Parameter where
  name : String
  letter : Option Char
  isPath : Bool
  deriving DecidableEq

/-- What one command, or the program in front of its command, takes. -/
structure Grammar where
  page : HelpPage
  options : List Parameter
  operand : Option Parameter
  commands : List String

/-- Arguments while they are read. A parameter is settled when the next one comes; until then its
value may be missing. -/
structure Reading where
  settled : List (Parameter × String)
  pending : Option (Parameter × Option String)
  onlyOperands : Bool

namespace Reading

def start : Reading := ⟨[], none, false⟩

def settle (r : Reading) : Except Refusal Reading :=
  match r.pending with
  | none => .ok r
  | some (_, none) => .error .misuse
  | some (p, some value) =>
      if (r.settled.lookup p).isSome || (p.isPath && value.isEmpty) then .error .misuse
      else .ok { r with settled := (p, value) :: r.settled, pending := none }

def expect (r : Reading) (p : Parameter) (value : Option String) : Except Refusal Reading :=
  r.settle.map fun r => { r with pending := some (p, value) }

/-- An option still waits for its value. -/
def isWaiting (r : Reading) : Bool :=
  match r.pending with
  | some (_, none) => true
  | _ => false

def help {α : Type} (r : Reading) (page : HelpPage) : Except Refusal α :=
  match r.settle with
  | .error refusal => .error refusal
  | .ok _ => .error (.help page)

/-- An option by its name, with its value behind an equals sign or to come. -/
def longOption (g : Grammar) (r : Reading) (body : List Char) : Except Refusal Reading :=
  let name := String.ofList (body.takeWhile (· != '='))
  let value :=
    match body.dropWhile (· != '=') with
    | [] => none
    | _ :: value => some (String.ofList value)
  if name == "help" then if value.isNone then r.help g.page else .error .misuse
  else
    match g.options.find? fun p => p.name == name with
    | none => .error .misuse
    | some p => r.expect p value

/-- An option by its letter, with its value behind it or to come. -/
def shortOption (g : Grammar) (r : Reading) (letter : Char) (rest : List Char) :
    Except Refusal Reading :=
  let value :=
    match rest with
    | [] => none
    | '=' :: value => some (String.ofList value)
    | value => some (String.ofList value)
  if letter == 'h' then r.help g.page
  else
    match g.options.find? fun p => p.letter == some letter with
    | none => .error .misuse
    | some p => r.expect p value

def operand (g : Grammar) (r : Reading) (value : String) : Except Refusal Reading :=
  match g.operand with
  | none => .error .misuse
  | some p =>
      match r.settle with
      | .error refusal => .error refusal
      | .ok r => if (r.settled.lookup p).isSome then .error .misuse else r.expect p (some value)

def argument (g : Grammar) (r : Reading) (arg : String) : Except Refusal Reading :=
  if r.onlyOperands then r.operand g arg
  else
    match arg.toList, r.pending with
    | ['-', '-'], _ => .ok { r with onlyOperands := true }
    | '-' :: '-' :: body, _ => r.longOption g body
    | '-' :: letter :: rest, _ => r.shortOption g letter rest
    | _, some (p, none) => .ok { r with pending := some (p, some arg) }
    | _, _ => r.operand g arg

/-- Reads arguments up to a command, if there is one, which is given with all that follows it. -/
def read (g : Grammar) : Reading → List String → Except Refusal (Reading × Option (String × List String))
  | r, [] => .ok (r, none)
  | r, arg :: rest =>
      if !r.onlyOperands && !r.isWaiting && g.commands.contains arg then .ok (r, some (arg, rest))
      else
        match r.argument g arg with
        | .error refusal => .error refusal
        | .ok r => read g r rest

def value? (r : Reading) (p : Parameter) : Option String := r.settled.lookup p

end Reading

/-! The commands -/

namespace Parameter

def settingsFile : Parameter := ⟨"config", some 'c', false⟩

def schemas : Parameter := ⟨"schemas", some 's', true⟩

def model : Parameter := ⟨"model", some 'm', false⟩

def file : Parameter := ⟨"file", none, true⟩

def write : Parameter := ⟨"write", some 'w', true⟩

end Parameter

namespace Grammar

def program : Grammar :=
  ⟨.program, [.settingsFile, .schemas], none, ["check", "parse", "config", "help"]⟩

def check : Grammar := ⟨.check, [], none, []⟩

def parse : Grammar := ⟨.parse, [.model], some .file, []⟩

def settings : Grammar := ⟨.settings, [.write], none, []⟩

/-- Reads the arguments behind a command. -/
def read (g : Grammar) (args : List String) : Except Refusal Reading :=
  match Reading.read g .start args with
  | .error refusal => .error refusal
  | .ok (r, _) => r.settle

end Grammar

/-- What the arguments of the help command ask for. -/
def HelpPage.ofArguments? : List String → Option HelpPage
  | [] => some program
  | ["check"] => some check
  | ["parse"] => some parse
  | ["config"] => some settings
  | ["help"] => some help
  | _ => none

def Command.ofArguments (name : String) (args : List String) : Except Refusal Command :=
  match name with
  | "check" => (Grammar.check.read args).map fun _ => check
  | "parse" =>
      (Grammar.parse.read args).bind fun r =>
        match r.value? .model, r.value? .file with
        | some model, some file => .ok (parse model file)
        | _, _ => .error .misuse
  | "config" => (Grammar.settings.read args).map fun r => settings (r.value? .write)
  | _ =>
      match HelpPage.ofArguments? args with
      | some page => .error (.help page)
      | none => .error .misuse

def Invocation.ofArguments (args : List String) : Except Refusal Invocation :=
  match Reading.read .program .start args with
  | .error refusal => .error refusal
  | .ok (_, none) => .error .misuse
  | .ok (r, some (name, rest)) =>
      (Command.ofArguments name rest).bind fun command =>
        r.settle.map fun r => ⟨r.value? .settingsFile, r.value? .schemas, command⟩

end RecordSchema.CommandLine
