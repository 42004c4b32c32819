import SourceGate.Data.Basic
import SourceGate.Gate.Report
import SourceGate.Namespace.Inventory

/-! # Reports as data

What is absent from a report is left out of its record, except the target of an inventory.
-/

namespace SourceGate

def Location.data (p : Location) : Data :=
  .record [("line", .ofNat p.line), ("column", .ofNat p.column)]

def ModuleRef.data (m : ModuleRef) : Data :=
  .record [("path", .text m.path), ("root", .text m.root)]

def FunctionInfo.data (f : FunctionInfo) : Data :=
  .record [("qualified_name", .text f.qualifiedName), ("params", .ofTexts f.params),
    ("location", f.place.data)]

def Inventory.data (i : Inventory) : Data :=
  .record [("target", (i.target.map (·.data)).getD .null),
    ("imports", .list (i.imports.map (·.data))), ("functions", .ofTexts i.functions),
    ("classes", .ofTexts i.classes), ("names", .ofTexts i.names)]

/-- A violation in a report. -/
def Violation.data (v : Violation) : Data :=
  .record ([("kind", .text v.kind.label), ("target", .text v.target)] ++
    Data.optional "pattern" (v.route.map fun route => .text route.label) ++
    [("line", .ofNat v.place.line), ("column", .ofNat v.place.column)])

/-- A refusal in a report. -/
def Refusal.data (r : Refusal) : Data :=
  .record ([("code", .text r.code), ("message", .text r.message)] ++
    Data.optional "location" (r.place?.map (·.data)))

namespace Report

variable {α : Type}

/-- A report whose result is written by `output`. -/
def data (output : α → Data) (r : Report α) : Data :=
  let violations := r.violations.map (·.data)
  .record ([("status", .text r.status.label), ("policy_fingerprint", .text r.fingerprint)] ++
    Data.optional "error" (r.refusal?.map (·.data)) ++
    Data.optional "violations" (if violations.isEmpty then none else some (.list violations)) ++
    Data.optional "output" (r.output?.map output))

end Report

end SourceGate
