import PriceOracle.Account.Key
import PriceOracle.Command.Basic
import PriceOracle.Text.Count
import PriceOracle.Text.Numeral

/-!
# PriceOracle.Command.Arguments

The arguments of the program. Commands form a tree: a menu of names, or a form with values in their
order. Options may stand at every level, but none twice at one level, and the deepest level counts.
A dash in front marks an option; behind `--` everything is a value.

Arguments are looked at from left to right, so a fault wins over a call for help behind it. Only the
last option of a menu is looked at late, when all below the menu has been read.
-/

namespace PriceOracle
namespace Command

inductive Stop where
  /-- The arguments make no sense. -/
  | usage
  | help
  | version
  deriving Repr, DecidableEq

/-- The values of a form, and whether its flag is set. -/
structure Filled where
  values : List String
  remote : Bool
  deriving Repr, DecidableEq

/-- A form to be filled: what its values have to be like, whether it has the flag `--remote`, and
what comes of it. -/
structure Form where
  places : List (String → Bool)
  hasRemote : Bool
  build : Filled → Option Command

def truth? (s : String) : Option Bool :=
  let s := s.toLower
  if ["y", "yes", "t", "true", "on", "1"].contains s then some true
  else if ["n", "no", "f", "false", "off", "0"].contains s then some false
  else none

def plain (c : Command) : Form := ⟨[], false, fun _ => some c⟩

def flagged (c : Bool → Command) : Form := ⟨[], true, fun f => some (c f.remote)⟩

def taking (places : List (String → Bool)) (build : List String → Option Command) : Form :=
  ⟨places, false, fun f => build f.values⟩

def anyText (_ : String) : Bool := true

/-- A place for a text that can be read. -/
def readable {α : Type} (read : String → Option α) (s : String) : Bool := (read s).isSome

/-- Do the values fit into the places, of which the last ones may stay empty? -/
def fit : List (String → Bool) → List String → Bool
  | _, [] => true
  | [], _ :: _ => false
  | place :: places, v :: values => place v && fit places values

def stakeMenu : List (String × Form) :=
  [("deposit", plain (.stake .deposit)), ("request", plain (.stake .request)),
    ("withdraw", plain (.stake .withdraw)), ("status", plain (.stake .status))]

def count? (s : String) : Option Nat := (Count.read s).toOption

def beginDispute? : List String → Option Command
  | [requestId, timestamp, minerIndex] => do
    let requestId ← Numeral.read? requestId
    let timestamp ← Numeral.read? timestamp
    let minerIndex ← count? minerIndex
    some (.beginDispute requestId timestamp minerIndex)
  | _ => none

def vote? : List String → Option Command
  | [disputeId, supports] => do
    let disputeId ← Numeral.read? disputeId
    let supports ← truth? supports
    some (.vote disputeId supports)
  | _ => none

/-- A command that sends an amount to an account. -/
def payment? (command : Address → String → Command) : List String → Option Command
  | [account, amount] => (Address.ofText? account).map (command · amount)
  | _ => none

def tip? : List String → Option Command
  | [requestId, amount] => (Numeral.read? requestId).map (.tip · amount)
  | _ => none

def balance? : List String → Option Command
  | [] => some (.balance none)
  | [account] => (Address.ofText? account).map fun a => .balance (some a)
  | _ => none

def number : String → Bool := readable Numeral.read?

def account : String → Bool := readable Address.ofText?

def disputeMenu : List (String × Form) :=
  [("new", taking [number, number, readable count?] beginDispute?),
    ("vote", taking [number, readable truth?] vote?), ("show", flagged .showDisputes)]

inductive Choice where
  | menu (entries : List (String × Form))
  | form (f : Form)

def topMenu : List (String × Choice) :=
  [("stake", .menu stakeMenu),
    ("transfer", .form (taking [account, anyText] (payment? .transfer))),
    ("approve", .form (taking [account, anyText] (payment? .approve))),
    ("tip", .form (taking [number, anyText] tip?)),
    ("balance", .form (taking [account] balance?)), ("dispute", .menu disputeMenu),
    ("dataserver", .form (plain .serve)), ("mine", .form (flagged .mine))]

/-- The options that stand at one level. -/
structure Options where
  config : Option String := none
  logLevel : Option String := none
  deriving Repr, DecidableEq

/-- Options of a level and of the one below, which counts more. -/
def Options.under (outer inner : Options) : Options :=
  ⟨inner.config <|> outer.config, inner.logLevel <|> outer.logLevel⟩

inductive Token where
  | value (s : String)
  /-- An option with what follows an equals sign. -/
  | long (name : String) (attached : Option String)
  | short (letters : List Char)
  /-- Two dashes: no options any more. -/
  | rest

def Token.of (s : String) : Token :=
  match s.toList with
  | ['-', '-'] => .rest
  | '-' :: '-' :: cs =>
    let name := cs.takeWhile (· ≠ '=')
    match cs.dropWhile (· ≠ '=') with
    | _ :: attached => .long (String.ofList name) (some (String.ofList attached))
    | [] => .long (String.ofList name) none
  | '-' :: c :: cs => .short (c :: cs)
  | _ => .value s

/-- The value of an option: attached, or the next argument, if that is a value. -/
def optionValue (attached : Option String) (args : List String) :
    Except Stop (String × List String) :=
  match attached, args with
  | some v, args => .ok (v, args)
  | none, arg :: args =>
    match Token.of arg with
    | .value v => .ok (v, args)
    | _ => .error .usage
  | none, [] => .error .usage

theorem length_optionValue {attached : Option String} {args rest : List String} {v : String}
    (h : optionValue attached args = .ok (v, rest)) : rest.length ≤ args.length := by
  unfold optionValue at h
  split at h
  · cases h; exact Nat.le_refl _
  · split at h
    · cases h; exact Nat.le_succ _
    · cases h
  · cases h

def Options.set (o : Options) (name v : String) : Except Stop Options :=
  match name, o with
  | "config", ⟨none, logLevel⟩ => if v.isEmpty then .error .usage else .ok ⟨some v, logLevel⟩
  | "log-level", ⟨config, none⟩ => .ok ⟨config, some v⟩
  | _, _ => .error .usage

/-- The options of a menu so far, and the last one when it has not been looked at yet. -/
structure Gathered where
  options : Options := {}
  pending : Option (String × String) := none
  deriving Repr, DecidableEq

def Gathered.settle (g : Gathered) : Except Stop Options :=
  match g.pending with
  | none => .ok g.options
  | some (name, v) => g.options.set name v

/-- Take one more option, with what follows an equals sign or with the next argument. -/
def Gathered.add (g : Gathered) (name v : String) (isAttached : Bool) : Except Stop Gathered :=
  match g.settle with
  | .error stop => .error stop
  | .ok o => if isAttached then (o.set name v).map (⟨·, none⟩) else .ok ⟨o, some (name, v)⟩

/-- Stop because of an argument, unless an earlier one is at fault. -/
def Gathered.stop {α : Type} (g : Gathered) (stop : Stop) : Except Stop α :=
  match g.settle with
  | .error earlier => .error earlier
  | .ok _ => .error stop

/-- What letters behind a single dash ask for. -/
def shortStop (top : Bool) : List Char → Stop
  | 'h' :: _ => .help
  | 'V' :: _ => if top then .version else .usage
  | _ => .usage

def optionNames : List String := ["config", "log-level"]

/-- Read the options in front of the next value or of two dashes. -/
def readOptions (top : Bool) (g : Gathered) (args : List String) :
    Except Stop (Gathered × List String) :=
  match args with
  | [] => .ok (g, [])
  | arg :: rest =>
    match Token.of arg with
    | .value _ | .rest => .ok (g, arg :: rest)
    | .short letters => g.stop (shortStop top letters)
    | .long "help" none => g.stop .help
    | .long "version" none => g.stop (if top then .version else .usage)
    | .long name attached =>
      if !optionNames.contains name then .error .usage
      else
        match h : optionValue attached rest with
        | .error stop => .error stop
        | .ok (v, others) =>
          have := length_optionValue h
          match g.add name v attached.isSome with
          | .error stop => .error stop
          | .ok g => readOptions top g others
termination_by args.length
decreasing_by simp only [List.length_cons]; omega

def fill (form : Form) (o : Options) (filled : Filled) (args : List String) :
    Except Stop (Options × Filled) :=
  match args with
  | [] => .ok (o, filled)
  | arg :: rest =>
    match Token.of arg with
    | .value v =>
      let values := filled.values ++ [v]
      if fit form.places values then fill form o { filled with values } rest else .error .usage
    | .rest =>
      let values := filled.values ++ rest
      if fit form.places values then .ok (o, { filled with values }) else .error .usage
    | .short letters => .error (shortStop false letters)
    | .long "help" none => .error .help
    | .long "remote" none =>
      if form.hasRemote && !filled.remote then fill form o { filled with remote := true } rest
      else .error .usage
    | .long name attached =>
      match h : optionValue attached rest with
      | .error stop => .error stop
      | .ok (v, others) =>
        have := length_optionValue h
        match o.set name v with
        | .error stop => .error stop
        | .ok o => fill form o filled others
termination_by args.length
decreasing_by all_goals (simp only [List.length_cons]; omega)

/-- The command of a form, with the options at its level. -/
def complete (form : Form) (args : List String) : Except Stop (Options × Command) :=
  match fill form {} ⟨[], false⟩ args with
  | .error stop => .error stop
  | .ok (o, filled) =>
    match form.build filled with
    | some command => .ok (o, command)
    | none => .error .usage

/-- The name under which every menu explains itself and what is in it. -/
def helpName : String := "help"

/-- What a menu of forms has to say about the names behind `help`. -/
def explain (entries : List (String × Form)) : List String → Stop
  | [] => .help
  | [name] => if name = helpName ∨ (entries.lookup name).isSome then .help else .usage
  | _ => .usage

/-- What the first menu has to say about the names behind `help`. -/
def explainTop : List String → Stop
  | [] => .help
  | name :: rest =>
    match topMenu.lookup name with
    | some (.menu entries) => explain entries rest
    | some (.form _) => if rest.isEmpty then .help else .usage
    | none => if name = helpName ∧ rest.isEmpty then .help else .usage

/-- Read a menu: the options in front of a name, and what the entry of that name makes of the rest.
The last option is looked at when that has been done. -/
def choose {α : Type} (top : Bool) (entries : List (String × α)) (explain : List String → Stop)
    (enter : α → List String → Except Stop (Options × Command)) (args : List String) :
    Except Stop (Options × Command) :=
  match readOptions top {} args with
  | .error stop => .error stop
  | .ok (_, []) => .error .usage
  | .ok (g, name :: rest) =>
    match entries.lookup name with
    | none => .error (if name = helpName then explain rest else .usage)
    | some entry =>
      match enter entry rest with
      | .error stop => .error stop
      | .ok (inner, command) => g.settle.map fun outer => (outer.under inner, command)

/-- The command and the options in the arguments. -/
def readArguments (args : List String) : Except Stop (Options × Command) :=
  choose true topMenu explainTop (fun choice rest =>
    match choice with
    | .menu entries => choose false entries (explain entries) complete rest
    | .form form => complete form rest) args

def parse (defaultConfig : String) (args : List String) : Except Stop Invocation :=
  match readArguments args with
  | .error stop => .error stop
  | .ok (o, command) => .ok ⟨o.config.getD defaultConfig, o.logLevel, command⟩

end Command
end PriceOracle
