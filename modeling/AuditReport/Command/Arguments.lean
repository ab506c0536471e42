import AuditReport.Text.Numeral
import AuditReport.Text.Split

/-!
# Command-line arguments

Options may stand anywhere before `--`. A long option takes its value after an equal sign or from the
next argument, a short one also from the rest of its own argument. Of a repeated option the last
value counts, except for contract names, which are collected.
-/
namespace AuditReport.Command

inductive OptionName where
  | contract
  | minSeverity
  | swcBlacklist
  | style
  | output
  | projectRoot
  | jobs
  | debug
  | noColor
  | noEmoji
  | help
  deriving DecidableEq, Repr, Inhabited

namespace OptionName

def takesValue : OptionName → Bool
  | debug | noColor | noEmoji | help => false
  | _ => true

def ofLong? (s : String) : Option OptionName :=
  match s with
  | "--contract" => some contract
  | "--min-severity" => some minSeverity
  | "--swc-blacklist" => some swcBlacklist
  | "--style" => some style
  | "--output" => some output
  | "--project-root" => some projectRoot
  | "--jobs" => some jobs
  | "--debug" => some debug
  | "--no-color" => some noColor
  | "--no-emoji" => some noEmoji
  | "--help" => some help
  | _ => none

def ofShort? : Char → Option OptionName
  | 'c' => some contract
  | 'o' => some output
  | 'j' => some jobs
  | _ => none

end OptionName

/-- What one argument is by itself. -/
inductive Word where
  | positional
  /-- Two dashes: all that follows is positional. -/
  | separator
  | flag (name : OptionName)
  | valued (name : OptionName) (value : String)
  /-- The value is the next argument. -/
  | wanting (name : OptionName)
  | unknown
  deriving DecidableEq, Repr, Inhabited

namespace Word

/-- A long option, with its value when an equal sign is there. -/
def ofLong (s : List Char) : Word :=
  let name := String.ofList (s.takeWhile (· != '='))
  match OptionName.ofLong? name, s.dropWhile (· != '=') with
  | none, _ => unknown
  | some n, [] => if n.takesValue then wanting n else flag n
  | some n, _ :: value => if n.takesValue then valued n (String.ofList value) else unknown

def ofText (s : String) : Word :=
  match s.toList with
  | ['-', '-'] => separator
  | '-' :: '-' :: r => ofLong ('-' :: '-' :: r)
  | '-' :: c :: r =>
    match OptionName.ofShort? c with
    | none => unknown
    | some n => if r.isEmpty then wanting n else valued n (String.ofList r)
  | _ => positional

end Word

/-- The options with their values, and the positional arguments, both in order. -/
structure Parsed where
  options : List (OptionName × String)
  positionals : List String
  deriving Repr, Inhabited

namespace Parsed

def addOption (name : OptionName) (value : String) (p : Parsed) : Parsed :=
  { p with options := (name, value) :: p.options }

def addPositional (s : String) (p : Parsed) : Parsed :=
  { p with positionals := s :: p.positionals }

/-- Takes the arguments apart; none when they do not follow the usage. -/
def ofArguments : List String → Option Parsed
  | [] => some ⟨[], []⟩
  | s :: rest =>
    match Word.ofText s with
    | .positional => (ofArguments rest).map (addPositional s)
    | .separator => some ⟨[], rest⟩
    | .flag n => (ofArguments rest).map (addOption n "")
    | .valued n value => (ofArguments rest).map (addOption n value)
    | .wanting n =>
      match rest with
      | [] => none
      | value :: rest => (ofArguments rest).map (addOption n value)
    | .unknown => none

def values (p : Parsed) (n : OptionName) : List String :=
  (p.options.filter fun o => o.1 == n).map (·.2)

def lastValue (p : Parsed) (n : OptionName) : Option String :=
  (p.values n).getLast?

def has (p : Parsed) (n : OptionName) : Bool :=
  !(p.values n).isEmpty

end Parsed

structure Options where
  build : String
  results : String
  contracts : List String
  minSeverity : Option String
  swcBlacklist : Option String
  style : Option String
  output : Option String
  projectRoot : Option String
  jobs : Int
  debug : Bool
  color : Bool
  glyphs : Bool
  deriving DecidableEq, Repr, Inhabited

inductive Request where
  | report (o : Options)
  | help
  | wrongUsage
  deriving DecidableEq, Repr, Inhabited

def defaultJobs : Int := 4

/-- The number of contracts to work on at a time, at least one, in ASCII digits. -/
def jobsOf (value : Option String) : Option Int :=
  match value with
  | none => some defaultJobs
  | some s =>
    if s.toList.all (·.toNat < 128) then
      (Text.Numeral.read? s.toList).filter fun n => decide (1 ≤ n)
    else none

namespace Request

def ofParsed (p : Parsed) : Request :=
  if p.has .help then help
  else
    match p.positionals, jobsOf (p.lastValue .jobs) with
    | [build, results], some jobs =>
      report {
        build, results, jobs
        contracts := p.values .contract
        minSeverity := p.lastValue .minSeverity
        swcBlacklist := p.lastValue .swcBlacklist
        style := p.lastValue .style
        output := p.lastValue .output
        projectRoot := p.lastValue .projectRoot
        debug := p.has .debug
        color := !p.has .noColor
        glyphs := !p.has .noEmoji }
    | _, _ => wrongUsage

def ofArguments (arguments : List String) : Request :=
  match Parsed.ofArguments arguments with
  | none => wrongUsage
  | some p => ofParsed p

end Request
end AuditReport.Command
