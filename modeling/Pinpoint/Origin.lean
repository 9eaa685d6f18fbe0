import Pinpoint.Location

/-! How a source begins. -/

namespace Pinpoint

/-- What is known of a source before its first token: the name to report, the tab width, and the
text that stands on the first line ahead of the input. -/
structure Origin where
  name : String
  tabWidth : TabWidth
  lead : String
  deriving DecidableEq

namespace Origin

def named (name : String) : Origin := ⟨name, .standard, ""⟩

instance : Inhabited Origin := ⟨named ""⟩

def withTabWidth (o : Origin) (columns : Nat) : Except TabWidth.Fault Origin :=
  (TabWidth.ofNat columns).map fun tabWidth => { o with tabWidth }

def withLead (o : Origin) (lead : String) : Origin := { o with lead }

/-- The place of the first token. -/
def location (o : Origin) : Location := .start o.name

instance : Inspect Origin := ⟨fun o => Inspect.record "PositionConfig"
  [("source_name", inspect o.name), ("tab_width", inspect o.tabWidth),
   ("line_prefix", inspect o.lead)]⟩

end Origin

end Pinpoint
