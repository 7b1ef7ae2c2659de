import ArchiveAccounts.Data.SortedMap
import ArchiveAccounts.Org.Quotas
import ArchiveAccounts.Text.Blank
import ArchiveAccounts.Text.Decimal

/-!
# Command lines

What a command line asks for: a command with its options, of which each may come once, and options
that may stand before or after the command.
-/

namespace ArchiveAccounts.Cli
set_option autoImplicit false

open Text

/-- What an option takes. -/
inductive OptionKind where
  | flag
  | text
  /-- A text that is not empty. -/
  | path
  | number
  deriving DecidableEq, Repr

/-- The options that may be given, by name. -/
abbrev OptionKinds := List (String × OptionKind)

/-- The options given, by name; a flag has an empty value. -/
abbrev Options := SortedMap String String

/-- Why a command line asks for nothing. -/
inductive Refusal where
  | usage
  | help
  deriving DecidableEq, Repr

/-- A command. -/
inductive Command where
  | init
  | createOrg (id name : String) (owner : Option String) (quotas : QuotaPatch)
  | showOrg (id : String)
  | recordUsage (id : String) (seconds : Counter) (isExecTime : Bool)
  | setQuotas (id : String) (quotas : QuotaPatch)
  | showQuotas (id : String)
  | showConfig
  deriving DecidableEq, Repr

/-- A command and the files that it works with. -/
structure Invocation where
  config : Option String := none
  envFile : String := ".env"
  database : Option String := none
  command : Command
  deriving DecidableEq, Repr

/-- The options of every command. -/
def commonOptions : OptionKinds := [("config", .path), ("env-file", .path), ("db", .path)]

/-- The options that give quotas. -/
def quotaOptions : OptionKinds :=
  ["storage-quota", "max-exec-minutes", "max-concurrent-crawls", "max-pages-per-crawl",
    "gifted-minutes", "extra-minutes"].map fun name => (name, .number)

/-- The commands and the options that each has of its own. -/
def commands : List (String × OptionKinds) :=
  [("init", []),
    ("org-create", [("id", .text), ("name", .text), ("owner", .text)] ++ quotaOptions),
    ("org-show", [("org", .text)]),
    ("record-usage", [("org", .text), ("seconds", .number), ("not-exec", .flag)]),
    ("set-quotas", ("org", .text) :: quotaOptions),
    ("quota-status", [("org", .text)]),
    ("config-show", [])]

/-- Whether an option takes a value. -/
def OptionKind.accepts (kind : OptionKind) (value : String) : Bool :=
  match kind with
  | .flag => false
  | .text => true
  | .path => !value.isEmpty
  | .number => (Decimal.counter? value.toList).isSome

/-- The name and the attached value of an argument that starts with two hyphens. -/
def long? (arg : String) : Option (String × Option String) :=
  (dropLead? ['-', '-'] arg.toList).map fun s =>
    match cutAt '=' s with
    | some (name, value) => (String.ofList name, some (String.ofList value))
    | none => (String.ofList s, none)

/-- Whether an argument is no value: it starts with a hyphen and is more than one. -/
def isOption (arg : String) : Bool := arg.startsWith "-" && arg != "-"

/-- Adds an option that is not there yet, with a value that it takes. -/
def Options.add (given : Options) (name : String) (kind : OptionKind) (value : String) :
    Except Refusal Options :=
  if (given.get? name).isSome || !kind.accepts value then .error .usage
  else .ok (given.insert name value)

/-- The options at the front of a command line, and the rest from its first other argument on. -/
def Options.read (kinds : OptionKinds) (given : Options) :
    List String → Except Refusal (Options × List String)
  | [] => .ok (given, [])
  | arg :: rest =>
    if arg = "--" then if rest.isEmpty then .ok (given, []) else .error .usage
    else
      match long? arg with
      | none =>
        if arg.startsWith "-h" then .error .help
        else if isOption arg then .error .usage
        else .ok (given, arg :: rest)
      | some (name, attached) =>
        match List.lookup name kinds, attached with
        | none, none => .error (if name = "help" then .help else .usage)
        | none, some _ => .error .usage
        | some .flag, none =>
          if (given.get? name).isSome then .error .usage
          else Options.read kinds (given.insert name "") rest
        | some .flag, some _ => .error .usage
        | some kind, some value => do Options.read kinds (← given.add name kind value) rest
        | some kind, none =>
          match rest with
          | value :: rest =>
            if isOption value then .error .usage
            else do Options.read kinds (← given.add name kind value) rest
          | [] => .error .usage

/-- The number that an option gives. -/
def Options.number? (given : Options) (name : String) : Option Counter :=
  (given.get? name).bind fun value => Decimal.counter? value.toList

/-- The quotas that options give. -/
def Options.quotas (given : Options) : QuotaPatch where
  storageBytes := given.number? "storage-quota"
  monthlyExecMinutes := given.number? "max-exec-minutes"
  concurrentCrawls := given.number? "max-concurrent-crawls"
  pagesPerCrawl := given.number? "max-pages-per-crawl"
  extraExecMinutes := given.number? "extra-minutes"
  giftedExecMinutes := given.number? "gifted-minutes"

/-- The command of a name with its options, if those that it needs are given. -/
def Command.ofOptions? (name : String) (given : Options) : Option Command :=
  match name with
  | "init" => some .init
  | "org-create" => do
    some (.createOrg (← given.get? "id") (← given.get? "name") (given.get? "owner") given.quotas)
  | "org-show" => (given.get? "org").map .showOrg
  | "record-usage" => do
    some (.recordUsage (← given.get? "org") (← given.number? "seconds")
      (given.get? "not-exec").isNone)
  | "set-quotas" => (given.get? "org").map fun id => .setQuotas id given.quotas
  | "quota-status" => (given.get? "org").map .showQuotas
  | "config-show" => some .showConfig
  | _ => none

/-- Whether help is asked for a command that exists. -/
def isHelp (args : List String) : Bool :=
  match args with
  | [] => true
  | [name] => name == "help" || (List.lookup name commands).isSome
  | _ => false

/-- What a command line asks for. Options after the command go before those in front of it. -/
def Invocation.parse (args : List String) : Except Refusal Invocation := do
  let (before, rest) ← Options.read commonOptions ∅ args
  match rest with
  | [] => .error .usage
  | name :: args =>
    if name = "help" then .error (if isHelp args then .help else .usage)
    else
      match List.lookup name commands with
      | none => .error .usage
      | some kinds =>
        let (after, rest) ← Options.read (commonOptions ++ kinds) ∅ args
        let option := fun name => (after.get? name).or (before.get? name)
        match rest, Command.ofOptions? name after with
        | [], some command =>
          return {
            config := option "config"
            envFile := (option "env-file").getD ".env"
            database := option "db"
            command }
        | _, _ => .error .usage

end ArchiveAccounts.Cli
