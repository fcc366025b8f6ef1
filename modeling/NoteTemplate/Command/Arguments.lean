import NoteTemplate.Text.Basic

/-!
The arguments of the command: options in long and short form, and what they say to do.
-/
namespace NoteTemplate

structure MatchStyle where
  json : Bool
  combination : Bool
  highlight : Bool
  deriving DecidableEq, Repr

inductive Task where
  | matchInputs (template : Text) (inputs : List Text) (style : MatchStyle)
  | expandTemplate (template : Text)
  | checkTemplate (template : Text) (showTree : Bool)
  | matchRules (file : Text) (inputs : List Text) (json : Bool)
  | runTests (path : Text) (categories : List Text) (listOnly : Bool)
  deriving DecidableEq, Repr

structure Invocation where
  color : Bool
  task : Task
  deriving DecidableEq, Repr

inductive ArgumentStop where
  | misuse
  | help
  | version
  deriving DecidableEq, Repr

inductive OptionRole where
  | switch
  | counted
  | valued
  | stops (stop : ArgumentStop)
  deriving DecidableEq, Repr

structure OptionSpec where
  name : String
  short : Option Char
  role : OptionRole

structure Given where
  options : List (String × Text)
  positionals : List Text

namespace Given

def none : Given := ⟨[], []⟩

def has (g : Given) (name : String) : Bool := g.options.any (·.1 = name)

def values (g : Given) (name : String) : List Text :=
  (g.options.filter (·.1 = name)).map Prod.snd

def addOption (g : Given) (name : String) (value : Text) : Given :=
  { g with options := g.options ++ [(name, value)] }

def addPositional (g : Given) (value : Text) : Given :=
  { g with positionals := g.positionals ++ [value] }

def meet (g : Given) (spec : OptionSpec) : Except ArgumentStop Given :=
  match spec.role with
  | .stops stop => .error stop
  | .valued => .error .misuse
  | .counted => .ok (g.addOption spec.name [])
  | .switch => if g.has spec.name then .error .misuse else .ok (g.addOption spec.name [])

end Given

/-- Reads short options that stand together. The one that lacks its value at the end is returned. -/
def readShort (specs : List OptionSpec) :
    Text → Given → Except ArgumentStop (Given × Option OptionSpec)
  | [], g => .ok (g, none)
  | c :: rest, g =>
    match specs.find? (·.short = some c) with
    | none => .error .misuse
    | some spec =>
      if spec.role = .valued then
        match rest with
        | [] => .ok (g, some spec)
        | '=' :: value => .ok (g.addOption spec.name value, none)
        | value => .ok (g.addOption spec.name value, none)
      else match g.meet spec with
        | .error stop => .error stop
        | .ok g => readShort specs rest g

def readLong (specs : List OptionSpec) (t : Text) (g : Given) :
    Except ArgumentStop (Given × Option OptionSpec) :=
  let name := t.takeWhile (· ≠ '=')
  match specs.find? (·.name.toList = name), t.drop name.length with
  | none, _ => .error .misuse
  | some spec, [] =>
    if spec.role = .valued then .ok (g, some spec) else (g.meet spec).map fun g => (g, none)
  | some spec, _ :: value =>
    if spec.role = .valued then .ok (g.addOption spec.name value, none) else .error .misuse

/-- A lone hyphen is a value. -/
def looksLikeOption : Text → Bool
  | '-' :: _ :: _ => true
  | _ => false

def readName (specs : List OptionSpec) :
    List Text → Given → Except ArgumentStop (Given × Text × List Text)
  | [], _ => .error .misuse
  | arg :: args, g =>
    match arg with
    | ['-', '-'] => .error .misuse
    | '-' :: '-' :: long =>
      match readLong specs long g with
      | .error stop => .error stop
      | .ok (g, none) => readName specs args g
      | .ok (_, some _) => .error .misuse
    | '-' :: c :: short =>
      match readShort specs (c :: short) g with
      | .error stop => .error stop
      | .ok (g, none) => readName specs args g
      | .ok (_, some _) => .error .misuse
    | name => .ok (g, name, args)

def takePositionals (most : Option Nat) : List Text → Given → Except ArgumentStop Given
  | [], g => .ok g
  | arg :: args, g =>
    if most.all (g.positionals.length < ·) then takePositionals most args (g.addPositional arg)
    else .error .misuse

/-- Reads the arguments of a command. `pending` is the option whose value comes next. -/
def readArguments (specs : List OptionSpec) (most : Option Nat) :
    List Text → Option OptionSpec → Given → Except ArgumentStop Given
  | [], none, g => .ok g
  | [], some _, _ => .error .misuse
  | arg :: args, some spec, g =>
    if looksLikeOption arg then .error .misuse
    else readArguments specs most args none (g.addOption spec.name arg)
  | arg :: args, none, g =>
    match arg with
    | ['-', '-'] => takePositionals most args g
    | '-' :: '-' :: long =>
      match readLong specs long g with
      | .error stop => .error stop
      | .ok (g, pending) => readArguments specs most args pending g
    | '-' :: c :: short =>
      match readShort specs (c :: short) g with
      | .error stop => .error stop
      | .ok (g, pending) => readArguments specs most args pending g
    | value =>
      match takePositionals most [value] g with
      | .error stop => .error stop
      | .ok g => readArguments specs most args none g

def globalOptions : List OptionSpec :=
  [⟨"no-color", none, .switch⟩, ⟨"verbose", some 'v', .counted⟩, ⟨"help", some 'h', .stops .help⟩]

def versionOption : OptionSpec := ⟨"version", some 'V', .stops .version⟩

structure CommandSpec where
  name : String
  options : List OptionSpec
  most : Option Nat
  task : Given → Option Task

def commands : List CommandSpec :=
  let switch (name : String) : OptionSpec := ⟨name, none, .switch⟩
  [⟨"match", [switch "json", switch "combination", switch "highlight"], none, fun g =>
      match g.positionals with
      | template :: input :: inputs =>
        let style : MatchStyle := ⟨g.has "json", g.has "combination", g.has "highlight"⟩
        some (.matchInputs template (input :: inputs) style)
      | _ => none⟩,
    ⟨"expand", [], some 1, fun g =>
      match g.positionals with
      | template :: _ => some (.expandTemplate template)
      | [] => none⟩,
    ⟨"check", [switch "ast"], some 1, fun g =>
      match g.positionals with
      | template :: _ => some (.checkTemplate template (g.has "ast"))
      | [] => none⟩,
    ⟨"rules", [switch "json"], none, fun g =>
      match g.positionals with
      | file :: input :: inputs => some (.matchRules file (input :: inputs) (g.has "json"))
      | _ => none⟩,
    ⟨"test", [⟨"category", some 'c', .valued⟩, switch "list-categories"], some 1, fun g =>
      match g.positionals with
      | path :: _ => some (.runTests path (g.values "category") (g.has "list-categories"))
      | [] => none⟩]

def helpFor (args : List Text) : ArgumentStop :=
  match args with
  | [] => .help
  | [name] => if ("help" :: commands.map (·.name)).any (·.toList = name) then .help else .misuse
  | _ => .misuse

def Invocation.ofArguments (args : List Text) : Except ArgumentStop Invocation :=
  match readName (versionOption :: globalOptions) args .none with
  | .error stop => .error stop
  | .ok (before, name, args) =>
    if name = "help".toList then .error (helpFor args)
    else match commands.find? (·.name.toList = name) with
      | none => .error .misuse
      | some command =>
        match readArguments (globalOptions ++ command.options) command.most args none .none with
        | .error stop => .error stop
        | .ok given =>
          match command.task given with
          | none => .error .misuse
          | some task => .ok ⟨!(before.has "no-color" || given.has "no-color"), task⟩

end NoteTemplate
