import WdmNet.Cli.Values
/-!
Command-line flags.

A program declares its flags, each with a name, the kind of value it takes, a default and a
line of usage. Arguments are read from the front: `-name` or `--name` sets a truth flag, and
`-name=value`, or `-name value` for the other kinds, sets a flag to a value; reading stops at
`--` (which is dropped), at `-` alone, or at the first argument that is no flag. A flag given
twice keeps its last value.

Reading fails on an argument like `---x` or `-=x` (bad syntax), a name no flag has (except
`-h` and `-help`, which ask for help), a missing value, or a value of the wrong kind. A failure
writes its message and then the usage text: `Usage of <program>:` and, for every flag in name
order, its name and kind on one line and its usage and non-zero default on the next.
-/

namespace WdmNet.Cli

/-- The kinds of value a flag takes. -/
inductive FlagKind where
  | text
  | switch
  | integer
  | duration
  deriving DecidableEq, Repr, Inhabited

/-- The name of a flag's kind in the usage text; a truth flag shows none. -/
def FlagKind.shownName : FlagKind → String
  | .text => "string"
  | .switch => ""
  | .integer => "int"
  | .duration => "duration"

/-- The text of a kind's zero value. -/
def FlagKind.zero : FlagKind → String
  | .text => ""
  | .switch => "false"
  | .integer => "0"
  | .duration => "0s"

/-- A declared flag. -/
structure Flag where
  name : String
  kind : FlagKind
  /-- The default as the usage text shows it. -/
  default : String
  usage : String
  deriving Repr, Inhabited

/-- The usage text of a flag. -/
def Flag.usageText (f : Flag) : String :=
  let head := "  -" ++ f.name ++ (if f.kind.shownName.isEmpty then "" else " " ++ f.kind.shownName)
  let dflt :=
    if f.default == f.kind.zero then ""
    else if f.kind == .text then " (default " ++ Text.quote f.default ++ ")"
    else " (default " ++ f.default ++ ")"
  let body := f.usage.replace "\n" "\n    \t" ++ dflt
  (if head.length ≤ 4 then head ++ "\t" else head ++ "\n    \t") ++ body ++ "\n"

/-- A program's flags. -/
structure FlagSet where
  program : String
  flags : List Flag
  deriving Repr, Inhabited

/-- Why reading the arguments stopped early. -/
inductive FlagStop where
  /-- `-h` or `-help` was given. -/
  | help
  | failed (message : String)
  deriving Repr, Inhabited

/-- The message of a stop. -/
def FlagStop.message : FlagStop → String
  | .help => "flag: help requested"
  | .failed m => m

/-- The values set by the arguments and the arguments after the flags. -/
structure Settings where
  /-- Each flag set, with the value it was given, the last first. -/
  given : List (String × String)
  rest : List String
  deriving Repr, Inhabited

namespace FlagSet

/-- The usage text: a title and every flag in name order. -/
def usage (s : FlagSet) : String :=
  "Usage of " ++ s.program ++ ":\n" ++
    String.join ((s.flags.mergeSort fun a b => decide (a.name ≤ b.name)).map Flag.usageText)

/-- What a stop writes: the message of a failure, then the usage text. -/
def stopText (s : FlagSet) : FlagStop → String
  | .help => s.usage
  | .failed m => m ++ "\n" ++ s.usage

/-- The flag of a name. -/
def find? (s : FlagSet) (name : String) : Option Flag := s.flags.find? (·.name == name)

/-- Checks a value for a flag; the value a truth flag stores is `true` or `false`. -/
def check (f : Flag) (value : String) : Except String String :=
  let invalid (e : ValueError) := "invalid value " ++ Text.quote value ++ " for flag -" ++ f.name ++ ": " ++ e.text
  match f.kind with
  | .text => .ok value
  | .switch =>
    match readBool value with
    | .ok b => .ok (toString b)
    | .error e => .error ("invalid boolean value " ++ Text.quote value ++ " for -" ++ f.name ++ ": " ++ e.text)
  | .integer =>
    match readInteger value with
    | .ok _ => .ok value
    | .error e => .error (invalid e)
  | .duration =>
    match readDuration value with
    | .ok _ => .ok value
    | .error e => .error (invalid e)

/-- Reads flags from the front of the arguments. -/
def read (s : FlagSet) : List String → List (String × String) → Except FlagStop Settings
  | [], given => .ok ⟨given, []⟩
  | arg :: rest, given =>
    let cs := arg.toList
    if cs.length < 2 || cs.head? != some '-' then .ok ⟨given, arg :: rest⟩
    else
      let dashes := if cs[1]? == some '-' then 2 else 1
      if dashes == 2 && cs.length == 2 then .ok ⟨given, rest⟩
      else
        let body := cs.drop dashes
        match body with
        | [] | '-' :: _ | '=' :: _ => .error (.failed ("bad flag syntax: " ++ arg))
        | _ =>
          let (nameChars, valueChars) := body.span (· != '=')
          let name := String.ofList nameChars
          let inline := match valueChars with
            | _ :: v => some (String.ofList v)
            | [] => none
          match s.find? name with
          | none =>
            if name == "help" || name == "h" then .error .help
            else .error (.failed ("flag provided but not defined: -" ++ name))
          | some f =>
            if f.kind == .switch then
              match check f (inline.getD "true") with
              | .ok v => read s rest ((name, v) :: given)
              | .error m => .error (.failed m)
            else
              match inline, _h : rest with
              | some v, _ =>
                match check f v with
                | .ok v => read s rest ((name, v) :: given)
                | .error m => .error (.failed m)
              | none, v :: rest' =>
                match check f v with
                | .ok v => read s rest' ((name, v) :: given)
                | .error m => .error (.failed m)
              | none, [] => .error (.failed ("flag needs an argument: -" ++ name))
termination_by args => args.length
decreasing_by all_goals (subst_vars; simp only [List.length_cons]; omega)

/-- Reads the flags of the arguments. -/
def parse (s : FlagSet) (args : List String) : Except FlagStop Settings := s.read args []

end FlagSet

namespace Settings

/-- The text a flag holds: its last value, or its default. -/
def text (st : Settings) (f : Flag) : String :=
  ((st.given.find? (·.1 == f.name)).map (·.2)).getD f.default

/-- The truth value a flag holds. -/
def switch (st : Settings) (f : Flag) : Bool := st.text f == "true"

/-- The integer a flag holds. -/
def integer (st : Settings) (f : Flag) : Int :=
  match readInteger (st.text f) with
  | .ok i => i
  | .error _ => 0

end Settings

end WdmNet.Cli
