import SqlGrader.Text.Digit
import SqlGrader.Number.Bounds
/-!
# Command-line options

Options have long names and stand in any order. The value of an option follows it, as the next
argument or behind an equals sign; the next argument is no value if it starts with a hyphen,
unless it is a hyphen alone. An option may be given once, or any number of times if it takes a
list. There are no other arguments. Reading stops at the first fault and at the first wish for
help.
-/

namespace SqlGrader.Command

/-- How often an option may be given, and with what. -/
inductive Arity
  /-- Once, without a value. -/
  | flag
  /-- Once, with a value. -/
  | single
  /-- Any number of times, with a value each. -/
  | many
  deriving Repr, DecidableEq

structure OptionSpec where
  name : String
  arity : Arity
  /-- Whether a text is a value of the option. -/
  accepts : String → Bool

/-- Why arguments give no request. -/
inductive Stop
  | help
  | version
  | misuse
  deriving Repr, DecidableEq

/-- The options that were given, in order; those without a value have an empty one. -/
abbrev Given := List (String × String)

namespace Given

def has (name : String) (given : Given) : Bool := given.any (·.1 == name)

/-- The values of an option. -/
def values (name : String) (given : Given) : List String :=
  (given.filter (·.1 == name)).map (·.2)

def value? (name : String) (given : Given) : Option String := (given.values name).head?

/-- Adds an option, if it may be given again and the value is one of its own. -/
def add (spec : OptionSpec) (value : String) (given : Given) : Except Stop Given :=
  if (spec.arity ≠ .many && given.has spec.name) || !spec.accepts value then .error .misuse
  else .ok (given ++ [(spec.name, value)])

end Given

/-- The name of a long option and the value behind its equals sign. -/
def cutLong (body : Text) : String × Option String :=
  match Text.cutAt? '=' body with
  | some (name, value) => (String.ofList name, some (String.ofList value))
  | none => (String.ofList body, none)

/-- Whether an argument is taken for an option rather than for a value. -/
def looksLikeOption : Text → Bool
  | ['-'] => false
  | '-' :: _ => true
  | _ => false

/-- Reads arguments, adding to the options so far. -/
def readOptions (specs : List OptionSpec) (given : Given) : List String → Except Stop Given
  | [] => .ok given
  | arg :: args =>
    match arg.toList with
    | ['-', '-'] => if args.isEmpty then .ok given else .error .misuse
    | '-' :: '-' :: body =>
      let (name, value) := cutLong body
      if name = "help" then .error (if value.isSome then .misuse else .help)
      else
        match specs.find? (·.name == name), value, args with
        | none, _, _ => .error .misuse
        | some spec, some value, args =>
          if spec.arity = .flag then .error .misuse
          else do readOptions specs (← given.add spec value) args
        | some spec, none, args =>
          if spec.arity = .flag then do readOptions specs (← given.add spec "") args
          else
            match args with
            | value :: args =>
              if looksLikeOption value.toList then .error .misuse
              else do readOptions specs (← given.add spec value) args
            | [] => .error .misuse
    | '-' :: 'h' :: _ => .error .help
    | _ => .error .misuse

/-- A natural number of so many bits. Up to 32 bits zero may be written with a minus sign. -/
def natural? (bits : Nat) (value : String) : Option Nat :=
  match value.toList with
  | '-' :: digits =>
    if bits ≤ 32 && !digits.isEmpty && digits.all (· == '0') then some 0 else none
  | t => (Text.natural? t).filter (fitsBits bits)

/-- An option with any value. -/
def textOption (name : String) : OptionSpec := ⟨name, .single, fun _ => true⟩

/-- An option with the path of a file, which is not empty. -/
def pathOption (name : String) : OptionSpec := ⟨name, .single, fun value => !value.isEmpty⟩

def naturalOption (name : String) (bits : Nat) : OptionSpec :=
  ⟨name, .single, fun value => (natural? bits value).isSome⟩

end SqlGrader.Command
