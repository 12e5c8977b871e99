import Postmortem.Analysis.Text
import Postmortem.CommandLine.Arguments
import Postmortem.Config.File
import Postmortem.Json.Comparisons
import Postmortem.Json.Printer
import Postmortem.Json.Report
import Postmortem.Snapshot.Capture
import Postmortem.Snapshot.Text

/-!
# The program

What the program writes for its arguments and files. Its exit code is one if a file cannot be used
or the analysis fails, and two if the arguments cannot be understood.
-/

namespace Postmortem.CommandLine

/-- What a run of the program leaves behind. -/
structure Ending where
  code : Nat := 0
  stdout : String := ""
  stderr : String := ""
deriving DecidableEq, Repr, Inhabited

/-- Why a run fails. -/
inductive RunError where
  | config (path : String)
  | transcriptUnreadable (path : String)
  | transcriptMalformed (path : String)
  | analysis (reason : String)
deriving DecidableEq, Repr

/-- The text of an error. -/
def RunError.message : RunError → String
  | config path => s!"failed to load config {path}"
  | transcriptUnreadable path => s!"failed to read transcript {path}"
  | transcriptMalformed path => s!"failed to parse transcript {path}"
  | analysis reason => s!"analysis failed: {reason}"

/-- The ending of a failed run. -/
def RunError.ending (e : RunError) (stdout : String := "") : Ending :=
  { code := 1, stdout, stderr := s!"Error: {e.message}\n" }

/-- How to use the program. -/
def helpText : String :=
  linesText
    ["Crash snapshot analyzer for recorded debugger sessions",
     "",
     "Usage: crashlens [OPTIONS] <COMMAND>",
     "",
     "Commands:",
     "  analyze  Analyze one recorded debugger transcript",
     "  compare  Compare two snapshots of the same process",
     "  help     Print this message or the help of the given subcommand(s)",
     "",
     "Options:",
     "      --format <FORMAT>  Output format (text or json) [default: text] " ++
       "[possible values: text, json]",
     "      --config <FILE>    Analyzer configuration file (TOML); missing keys take defaults",
     "      --preset <PRESET>  Threshold preset, applied when no --config file is given " ++
       "[default: default] [possible values: default, strict, permissive]",
     "      --debug            Enable debug tracing output to stderr",
     "  -h, --help             Print help",
     "  -V, --version          Print version"]

/-- The ending where there is nothing to do. -/
def Stop.ending : Stop → Ending
  | help => { stdout := helpText }
  | version => { stdout := "crashlens 0.3.2\n" }
  | noArguments => { code := 2, stderr := helpText }
  | usage e => { code := 2, stderr := s!"error: {e.message}\n" }

/-- The configuration of a preset. -/
def Preset.config : Preset → Config
  | standard => {}
  | strict => .strict
  | permissive => .permissive

section

variable {m : Type → Type} [Monad m] (read : String → m (Option String))

/-- The configuration: that of a file, or else that of a preset. -/
def loadConfig (options : Options) : ExceptT RunError m Config := do
  match options.config with
  | some path =>
    match (← read path).map Config.ofToml with
    | some (.ok config) => return config
    | _ => throw (.config path)
  | none => return (options.preset.getD .standard).config

/-- The transcript in a file. -/
def loadTranscript (path : String) : ExceptT RunError m Transcript := do
  match ← read path with
  | some text =>
    match Transcript.parse? text with
    | some transcript => return transcript
    | none => throw (.transcriptMalformed path)
  | none => throw (.transcriptUnreadable path)

/-- A result as a text or as indented JSON. -/
def render (options : Options) (text : String) (json : Json) : String :=
  match options.format.getD .text with
  | .text => text
  | .json => json.pretty ++ "\n"

/-- The ending of an analysis. -/
def endAnalysis (options : Options) (report : AnalysisReport) : Ending :=
  let stdout := render options report.text report.toJson
  if report.isComplete then { stdout }
  else (RunError.analysis (report.error.getD "unknown error")).ending stdout

/-- Does what was asked for. -/
def perform (invocation : Invocation) : ExceptT RunError m Ending := do
  let options := invocation.options
  let config ← loadConfig read options
  match invocation.task with
  | .analyze path =>
    let transcript ← loadTranscript read path
    return endAnalysis options (analyze config transcript.backend transcript.introspector).report
  | .compare baselinePath comparisonPath =>
    let baseline ← loadTranscript read baselinePath
    let comparison ← loadTranscript read comparisonPath
    let diff := compareCaptured config.leak (captureSnapshot config baseline.backend)
      (captureSnapshot config comparison.backend)
    return { stdout := render options diff.text diff.toJson }

/-- Runs the program; `read` gives the text of a file. -/
def run (arguments : List String) : m Ending := do
  match readArguments arguments with
  | .ok invocation =>
    match ← (perform read invocation).run with
    | .ok ending => return ending
    | .error e => return e.ending
  | .error stop => return stop.ending

end

end Postmortem.CommandLine
