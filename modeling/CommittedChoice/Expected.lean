/-! What a parser would have accepted: labels in order of first mention, none of them twice. -/
namespace CommittedChoice

structure Expected where
  alternatives : List String
  deriving DecidableEq

namespace Expected

def nothing : Expected := ⟨[]⟩

def label (text : String) : Expected := ⟨[text]⟩

/-- Text that stands for itself is shown between double quotes. -/
def literal (text : String) : Expected := label ("\"" ++ text ++ "\"")

/-- A label already listed keeps its place, a new one goes to the end. -/
def mention (listed : List String) (text : String) : List String :=
  if text ∈ listed then listed else listed ++ [text]

def merge (first second : Expected) : Expected :=
  ⟨second.alternatives.foldl mention first.alternatives⟩

def ofLabels (labels : List String) : Expected :=
  labels.foldl (fun expected text => expected.merge (label text)) nothing

def isEmpty (expected : Expected) : Bool := expected.alternatives.isEmpty

def text (expected : Expected) : String := String.intercalate " or " expected.alternatives

end Expected

end CommittedChoice
