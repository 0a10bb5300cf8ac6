import EntityModel.Visit.Visitor

/-!
# EntityModel.Visit.Script

Scripted visitors. A script is a list of rules that say what to do at which dispatch; it stands in
at every point and leaves a mark where its mode asks for one.

* `Mode`: what a rule does with the default descent.
* `Rule`, `selectMode`: the rules are scanned in order; each counts its own hits.
* `Script.visitor`: the visitor that follows a script.
-/

namespace EntityModel

/-- What to do at a dispatch. -/
inductive Mode where
  | plain
  | pre
  | post
  | wrap
  | replace
  | skip
  | twice
  | fail
  | failAfter
  | recover
deriving DecidableEq

/-- The word by which a mark says where in a dispatch it was left. -/
inductive Mark where
  | pre
  | post
  | opened
  | closed
  | replaced
  | failed
deriving DecidableEq

inductive ScriptError where
  | stopped (point : Point) (label? : Option String)
  | broken (reference : BrokenReference)
deriving DecidableEq

inductive ScriptLine where
  | mark (mark : Mark) (point : Point) (label? : Option String)
  | caught (point : Point) (label? : Option String) (error : ScriptError)
deriving DecidableEq

/-- A rule for one point, if given for one label, and if given for one hit. -/
structure Rule where
  point : Point
  label? : Option String := none
  nth? : Option Nat := none
  mode : Mode

/-- A rule with a label never fits a dispatch that has none. -/
def Rule.fits (rule : Rule) (point : Point) (label? : Option String) : Bool :=
  rule.point == point && (rule.label?.isNone || rule.label? == label?)

/-- Scans the rules, each with its count of hits so far. A rule that fits takes a hit; it applies if
it names no hit or this one, and ends the scan. -/
def selectMode (fallback : Mode) (point : Point) (label? : Option String) :
    List (Rule × Nat) → Mode × List (Rule × Nat)
  | [] => (fallback, [])
  | (rule, hits) :: rest =>
    if rule.fits point label? then
      if rule.nth?.isNone || rule.nth? == some hits then (rule.mode, (rule, hits + 1) :: rest)
      else
        match selectMode fallback point label? rest with
        | (mode, rest') => (mode, (rule, hits + 1) :: rest')
    else
      match selectMode fallback point label? rest with
      | (mode, rest') => (mode, (rule, hits) :: rest')

/-- `functions` holds the answers to being asked for functions; the last one repeats. -/
structure Script where
  rules : List Rule := []
  fallback : Mode := .plain
  functions : List Bool := [false]

/-- The state of a scripted run. -/
structure ScriptRun where
  rules : List (Rule × Nat)
  lines : Array ScriptLine := #[]
  functionCalls : Nat := 0

namespace Script

def start (script : Script) : ScriptRun :=
  { rules := script.rules.map fun rule => (rule, 0) }

/-- The answer to being asked for functions for the time numbered `asked`, from zero. -/
def takesFunctions (script : Script) (asked : Nat) : Bool :=
  match script.functions[asked]? with
  | some answer => answer
  | none => script.functions.getLast?.getD false

def write (line : ScriptLine) : Effect ScriptRun ScriptError :=
  Effect.update fun run => { run with lines := run.lines.push line }

/-- What a mode makes of the descent below a dispatch. -/
def Mode.run (mode : Mode) (point : Point) (label? : Option String)
    (walk : Effect ScriptRun ScriptError) : Effect ScriptRun ScriptError :=
  let leave (mark : Mark) := write (.mark mark point label?)
  let stop : Effect ScriptRun ScriptError := Effect.fail (.stopped point label?)
  match mode with
  | .plain => walk
  | .pre => (leave .pre).andThen walk
  | .post => walk.andThen (leave .post)
  | .wrap => fun run =>
    match (leave .opened).andThen walk run with
    | (result, run') => (result, (leave .closed run').2)
  | .replace => leave .replaced
  | .skip => Effect.succeed
  | .twice => walk.andThen walk
  | .fail => (leave .failed).andThen stop
  | .failAfter => walk.andThen stop
  | .recover => fun run =>
    match walk run with
    | (.ok _, run') => (.ok (), run')
    | (.error error, run') => write (.caught point label? error) run'

def dispatch (script : Script) (c : Call) (walk : Effect ScriptRun ScriptError) :
    Effect ScriptRun ScriptError := fun run =>
  match selectMode script.fallback c.point c.label? run.rules with
  | (mode, rules) => Mode.run mode c.point c.label? walk { run with rules := rules }

def visitor (script : Script) : Visitor ScriptRun ScriptError where
  dispatch := script.dispatch
  functions run :=
    (script.takesFunctions run.functionCalls, { run with functionCalls := run.functionCalls + 1 })
  ofBroken := .broken

end Script

end EntityModel
