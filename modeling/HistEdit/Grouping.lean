import HistEdit.Expression.Reader
import HistEdit.Groups
import HistEdit.Log
import HistEdit.Palette
import HistEdit.Report

/-!
Grouping the histograms of documents. A run reads the configuration, the expressions and the
palette, then the documents in order; each histogram that its expressions accept joins the group
that they name. Every group is then shown on a canvas of its own, where canvas expressions may
drop or rename it, and what is left is coloured. The first failure ends the run.
-/

namespace HistEdit

mutual

/-- The expressions inside an expression and at last itself, in the order in which they are read. -/
def Expression.subexpressions : Expression → List Expression
  | .leaf rule effect => [.leaf rule effect]
  | .block rule children => allSubexpressions children ++ [.block rule children]

def allSubexpressions : List Expression → List Expression
  | [] => []
  | expression :: rest => expression.subexpressions ++ allSubexpressions rest

end

/-- The expressions that are read from a text before reading fails or ends. -/
def Expression.readBefore [PatternEngine] (functions : Functions) (resolution : Resolution)
    (cs : List Char) :
    List Expression :=
  match h : Segment.next? cs with
  | .error _ => []
  | .ok none => []
  | .ok (some segment) =>
    have hshorter := Segment.next?_shorter h
    match ofSegment functions resolution segment with
    | .ok expression =>
      expression.subexpressions ++ readBefore functions resolution segment.rest
    | .error _ =>
      match hbody : segment.body with
      | .nothing | .call .. => []
      | .block inner =>
        have := hshorter.2 inner hbody
        readBefore functions resolution inner
termination_by cs.length
decreasing_by all_goals omega

/-- Reads the expressions of several texts and tells of each one. -/
def Expression.readLogged [PatternEngine] (functions : Functions) (resolution : Resolution) :
    List String → Logged (List Expression)
  | [] => .ok []
  | text :: texts =>
    match readList functions resolution text.toList with
    | .error error =>
      ⟨(readBefore functions resolution text.toList).map .parsed, .error error⟩
    | .ok expressions =>
      (Logged.mk ((allSubexpressions expressions).map .parsed) (.ok expressions)).andThen
        fun expressions =>
          (readLogged functions resolution texts).andThen fun rest => .ok (expressions ++ rest)

structure GroupRequest where
  exprs : List String := []
  canvasExprs : List String := []
  output : Option String := none
  sort : Bool := false
  colors : Option String := none
  config : Option String := none
  inputs : List String := []

/-- Where a run finds what it needs: files by their paths, and the path of a configuration that
holds when the request names none. -/
structure Surroundings where
  read : String → Except FileError ByteArray
  config : Option String := none

structure Summary where
  filesScanned : Nat := 0
  histogramsScanned : Nat := 0
  histogramsSelected : Nat := 0
  groups : Nat := 0
  deriving DecidableEq

structure GroupResponse where
  groups : List GroupCanvas
  summary : Summary

/-- What a run goes by, once configuration and request are put together. -/
structure GroupPlan where
  exprs : List Expression
  canvasExprs : List Expression
  palette : Palette
  sort : Bool

/-- Histograms in groups, and how many were looked at. -/
structure Collection where
  groups : Groups Histogram := {}
  scanned : Nat := 0

namespace GroupRequest

/-- The path of the configuration: the one asked for, else the one around, unless that is empty. -/
def configPath? (request : GroupRequest) (surroundings : Surroundings) : Option String :=
  request.config <|> surroundings.config.filter fun path => !path.isEmpty

def configuration [ConfigurationReader] (request : GroupRequest) (surroundings : Surroundings) :
    Logged Configuration :=
  match request.configPath? surroundings with
  | none => .ok {}
  | some path =>
    (Logged.ofExcept (Configuration.load surroundings.read path)).andThen fun configuration =>
      ⟨[.configured path configuration], .ok configuration⟩

/-- The palette: the one asked for, else that of the configuration. -/
def palette (request : GroupRequest) (configuration : Configuration) : Except EditError Palette :=
  match request.colors with
  | none => .ok ⟨configuration.colors⟩
  | some text =>
    match Palette.read text with
    | .ok palette => .ok palette
    | .error cause => .error (.badPalette cause)

/-- Puts configuration and request together. What the configuration sets comes first. -/
def plan [PatternEngine] (request : GroupRequest) (configuration : Configuration) :
    Logged GroupPlan := do
  let exprs ← Expression.readLogged .builtin .histogram (configuration.exprs ++ request.exprs)
  let canvasExprs ← Expression.readLogged .builtin .histogramThenCanvas
    (configuration.canvasExprs ++ request.canvasExprs)
  let palette ← Logged.ofExcept (request.palette configuration)
  return { exprs, canvasExprs, palette, sort := request.sort || configuration.sort }

end GroupRequest

def Evaluation.logged {σ : Type} (evaluation : Evaluation σ) : Logged (σ × Option String) :=
  ⟨evaluation.steps.map .evaluated,
    match evaluation.outcome with
    | .accepted group => .ok (evaluation.subject, some group)
    | .rejected => .ok (evaluation.subject, none)
    | .failed error => .error error⟩

/-- Evaluates expressions on a histogram, which joins the group that they name. -/
def Collection.add (expressions : List Expression) (collection : Collection) (h : Histogram) :
    Logged Collection := do
  let (edited, group) ← (evaluate expressions h).logged
  let scanned := collection.scanned + 1
  match group with
  | some key => return { groups := collection.groups.insert key edited, scanned }
  | none =>
    Logged.tell (.rejected edited.name)
    return { collection with scanned }

def Collection.addAll (expressions : List Expression) (collection : Collection) :
    List Histogram → Logged Collection
  | [] => .ok collection
  | h :: rest => do
    let collection ← collection.add expressions h
    collection.addAll expressions rest

def Surroundings.histograms [DocumentReader] (surroundings : Surroundings) (path : String) :
    Logged (List Histogram) := do
  let (format, document) ← Logged.ofExcept (Document.load surroundings.read path)
  Logged.tell (.loaded path format)
  return document.histogramsAt path

def Collection.addDocuments [DocumentReader] (surroundings : Surroundings)
    (expressions : List Expression) (collection : Collection) :
    List String → Logged Collection
  | [] => .ok collection
  | path :: paths => do
    Logged.tell (.reading path)
    let histograms ← surroundings.histograms path
    let collection ← collection.addAll expressions histograms
    collection.addDocuments surroundings expressions paths

/-- Shows one group on a canvas of its own; nothing for a group that is dropped. -/
def GroupPlan.showGroup (plan : GroupPlan) (key : String) (histograms : List Histogram) :
    Logged (Option GroupCanvas) := do
  let group : GroupCanvas := { key, canvas := {}, histograms }
  let (edited, name) ← (evaluate plan.canvasExprs group).logged
  match name with
  | some name =>
    return some { edited with key := name, histograms := plan.palette.paint edited.histograms }
  | none =>
    Logged.tell (.groupRejected key)
    return none

def GroupPlan.showGroups (plan : GroupPlan) :
    List (String × List Histogram) → Logged (List GroupCanvas)
  | [] => .ok []
  | (key, histograms) :: rest => do
    let group ← plan.showGroup key histograms
    let groups ← plan.showGroups rest
    return group.toList ++ groups

def GroupPlan.run [DocumentReader] (plan : GroupPlan) (surroundings : Surroundings)
    (inputs : List String) :
    Logged GroupResponse := do
  let collection ← Collection.addDocuments surroundings plan.exprs {} inputs
  let ordered := if plan.sort then collection.groups.sort else collection.groups
  let groups ← plan.showGroups ordered.toList
  let summary : Summary :=
    { filesScanned := inputs.length
      histogramsScanned := collection.scanned
      histogramsSelected := collection.groups.memberCount
      groups := groups.length }
  Logged.tell (.finished summary.filesScanned summary.histogramsSelected summary.groups)
  return { groups, summary }

/-- Does what a request asks for, up to writing the response. -/
def GroupRequest.respond [PatternEngine] [DocumentReader] [ConfigurationReader]
    (request : GroupRequest) (surroundings : Surroundings) :
    Logged GroupResponse := do
  let configuration ← request.configuration surroundings
  let plan ← request.plan configuration
  plan.run surroundings request.inputs

open Data (Value)

def Summary.report (summary : Summary) : Value :=
  .table
    [ ("files_scanned", .int summary.filesScanned),
      ("histograms_scanned", .int summary.histogramsScanned),
      ("histograms_selected", .int summary.histogramsSelected),
      ("groups", .int summary.groups) ]

def GroupCanvas.report (group : GroupCanvas) : Value :=
  .table
    [ ("group", .text group.key), ("canvas", group.canvas.report),
      ("histograms", .list (group.histograms.map Histogram.report)) ]

def GroupResponse.report (response : GroupResponse) : Value :=
  .table
    [ ("groups", .list (response.groups.map GroupCanvas.report)),
      ("summary", response.summary.report) ]

end HistEdit
