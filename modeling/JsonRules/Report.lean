/-
# JsonRules.Report -- what there is to know about a rule before it is run

A report lists the variables that a rule names, each under its slot, and the size and depth
of its tree.
-/
import JsonRules.Json.Printer
import JsonRules.Rule
import JsonRules.Text.Pad

namespace JsonRules

set_option autoImplicit false

structure Report where
  table : NameTable
  nodeCount : Nat
  depth : Nat
  /-- The rule in its normal form. -/
  normalized : Json
  deriving DecidableEq

namespace Report

def ofRule [PatternEngine] (rule : Rule) : Report where
  table := rule.table
  nodeCount := rule.root.nodeCount
  depth := rule.root.depth
  normalized := rule.toJson

/-- The lines that list names under their slots. -/
def nameLines : List String → List String
  | [] => ["No free variables"]
  | names => "Free variables:" ::
      names.zipIdx.map fun (name, slot) => "  " ++ Text.padLeft 3 (toString slot) ++ "  " ++ name

/-- The lines of a report, with the normal form as the last one if it is wanted. -/
def lines (report : Report) (showNormalized : Bool) : List String :=
  ["Rule is valid (" ++ toString report.nodeCount ++ " nodes, depth " ++ toString report.depth
      ++ ")"]
    ++ nameLines report.table.names
    ++ (if report.table.hasComputed then
        ["Rule also reads variables whose names are computed at evaluation time"]
      else [])
    ++ (if showNormalized then [report.normalized.render] else [])

end Report

end JsonRules
