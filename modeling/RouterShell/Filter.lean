import RouterShell.Abbreviation
import RouterShell.Line.Pipeline
import RouterShell.Output
import RouterShell.Pattern.Search

/-!
# Filters

A filter keeps the rows of a table, or the lines of a text, in which its pattern occurs (include) or
does not occur (exclude). A row passes a chain of filters if it passes all of them.

The filters of a line are named in its segments, by abbreviation, and each takes one pattern.

## What is stated

`passes_append`: chains compose, so the order of filters does not matter.
-/

namespace RouterShell

/-- What a filter keeps. -/
inductive FilterKind where
  /-- What matches. -/
  | include
  /-- What does not match. -/
  | exclude
  deriving DecidableEq, Repr

/-- How the tests of the columns make up the test of a row. -/
inductive Combine where
  /-- One column has to match. -/
  | any
  /-- Every column has to be free of matches. -/
  | all
  deriving DecidableEq, Repr

/-- How a filter goes over the columns. -/
def FilterKind.combine : FilterKind → Combine
  | .include => .any
  | .exclude => .all

/-- A filter. Of its pattern only matters which texts it occurs in. -/
structure Filter where
  /-- What it keeps. -/
  kind : FilterKind
  /-- Whether its pattern occurs in a text. -/
  occurs : String → Bool

/-- Whether a row passes a filter. -/
def Filter.passes (f : Filter) (row : List String) : Bool :=
  match f.kind.combine with
  | .any => row.any f.occurs
  | .all => !row.any f.occurs

/-- The filters of a line. -/
structure FilterChain where
  /-- The filters, in order. -/
  filters : List Filter

namespace FilterChain

/-- No filters. -/
def empty : FilterChain := ⟨[]⟩

/-- Whether a row passes all filters. -/
def passes (c : FilterChain) (row : List String) : Bool :=
  c.filters.all fun f => f.passes row

/-- Whether a line passes all filters: it is tested as a row of one column. -/
def passesLine (c : FilterChain) (line : String) : Bool :=
  c.passes [line]

/-- The lines of a text that pass. -/
def applyText (c : FilterChain) (text : String) : String :=
  joinLines (((Text.lines text.toList).map String.ofList).filter c.passesLine)

/-- What is left of an output. Without filters a text keeps even the ends of its lines. -/
def apply (c : FilterChain) (output : Output) : Output :=
  if c.filters.isEmpty then output
  else match output with
    | .table headers rows => .table headers (rows.filter c.passes)
    | .text text => .text (c.applyText text)
    | other => other

/-- A row passes two chains together when it passes each of them. -/
theorem passes_append (a b : List Filter) (row : List String) :
    passes ⟨a ++ b⟩ row = (passes ⟨a⟩ row && passes ⟨b⟩ row) := by
  simp [passes, List.all_append]

end FilterChain

/-! ### Filters by name -/

/-- What a name of a filter stands for. -/
structure FilterEntry where
  /-- What the filter keeps. -/
  kind : FilterKind
  /-- What help says about it. -/
  description : String
  deriving DecidableEq, Repr

/-- The filters that a line may name. -/
structure FilterTable where
  /-- The entries by name. -/
  entries : SortedMap String FilterEntry

/-- What is wrong with a segment. -/
inductive FilterFault where
  /-- The segment has no words. -/
  | missingName
  /-- No filter is meant by the first word. -/
  | unknown (name : String)
  /-- There is no pattern. -/
  | missingPattern
  /-- There are words after the pattern. -/
  | tooManyArguments
  /-- The pattern is not usable. -/
  | badPattern (fault : Pattern.Fault)
  deriving DecidableEq, Repr

/-- The index, in its segment, of the word that a fault is about. -/
def FilterFault.column : FilterFault → Nat
  | .missingName => 0
  | .unknown _ => 0
  | .missingPattern => 1
  | .tooManyArguments => 2
  | .badPattern _ => 1

/-- The wording of a fault. -/
def FilterFault.message : FilterFault → String
  | .missingName => "missing filter name"
  | .unknown name => s!"unknown filter: {name}"
  | .missingPattern => "missing argument"
  | .tooManyArguments => "too many arguments"
  | .badPattern fault => fault.message

namespace FilterTable

/-- No filters. -/
def empty : FilterTable := ⟨[]⟩

/-- Enter a filter, in place of the one of its name. -/
def register (t : FilterTable) (name : String) (kind : FilterKind) (description : String) :
    FilterTable :=
  ⟨SortedMap.insert name ⟨kind, description⟩ t.entries⟩

/-- The two filters of the shell. -/
def builtin : FilterTable :=
  (empty.register "include" .include "keep lines matching a regex").register "exclude" .exclude
    "drop lines matching a regex"

/-- The names and descriptions of all filters. -/
def list (t : FilterTable) : List (String × String) :=
  t.entries.map fun (name, entry) => (name, entry.description)

/-- The filter that a segment describes. -/
def instantiate (t : FilterTable) : List String → Except FilterFault Filter
  | [] => .error .missingName
  | name :: args =>
    match abbreviate t.entries name with
    | none => .error (.unknown name)
    | some (_, entry) =>
      match args with
      | [] => .error .missingPattern
      | [pattern] =>
        match Pattern.read pattern with
        | .ok p => .ok ⟨entry.kind, p.isMatch⟩
        | .error fault => .error (.badPattern fault)
      | _ => .error .tooManyArguments

/-- The chain that all segments of a line describe. -/
def buildChain (t : FilterTable) (segments : List Segment) : Except FilterFault FilterChain :=
  (segments.mapM fun s => t.instantiate s.words).map FilterChain.mk

end FilterTable

end RouterShell
