import ClusterAdmission.Binary64.Shortest
import ClusterAdmission.Metrics
import ClusterAdmission.Text.Split

/-!
# The text of metrics

Each family of series has two lines of comment and one line for each number; a family without series
is left out. The labels of a series stand in braces, and their values as they are. A histogram
counts in each bucket all durations up to its bound.
-/

namespace ClusterAdmission

namespace Metrics

/-- The start of the names of all families. -/
def stem : String := "dbaas_policy_"

/-- A sample: what follows the name of its family, its labels, and its number in text. -/
structure Sample where
  ending : String
  labels : List (String × String)
  value : String

/-- A family of samples. -/
structure Family where
  name : String
  help : String
  type : String
  samples : List Sample

/-- A label with its value. -/
def labelText (label : String × String) : String := label.1 ++ "=\"" ++ label.2 ++ "\""

/-- The line of a sample. -/
def Sample.line (family : String) (s : Sample) : String :=
  let labels := ",".intercalate (s.labels.map labelText)
  stem ++ family ++ s.ending ++ "\x7b" ++ labels ++ "\x7d " ++ s.value

/-- A count in text. -/
def countText (n : Nat) : String := .ofList (Text.digits n)

/-- The lines of a family. -/
def Family.lines (f : Family) : List String :=
  if f.samples.isEmpty then
    []
  else
    ("# HELP " ++ stem ++ f.name ++ " " ++ f.help ++ ".") ::
      ("# TYPE " ++ stem ++ f.name ++ " " ++ f.type) :: f.samples.map (Sample.line f.name)

/-- The samples of the rejections. -/
def rejectionSamples (m : Metrics) : List Sample :=
  m.rejections.entries.map fun e => ⟨"_total", [("reason", e.1)], countText e.2⟩

/-- The samples of the outcomes of one operation; outcomes that never arose have none. -/
def tallySamples (operation : String) (t : Tally) : List Sample :=
  (Outcome.all.filter fun o => t.count o ≠ 0).map fun o =>
    ⟨"_total", [("operation", operation), ("outcome", o.name)], countText (t.count o)⟩

/-- The samples of the outcomes. -/
def validationSamples (m : Metrics) : List Sample :=
  m.validations.entries.flatMap fun e => tallySamples e.1 e.2

/-- Each number of a list added to all before it. -/
def runningSums (before : Nat) : List Nat → List Nat
  | [] => []
  | n :: ns => (before + n) :: runningSums (before + n) ns

/-- The samples of the buckets of one operation. -/
def bucketSamples (operation : String) (h : Histogram) : List Sample :=
  let marks := Histogram.bounds.map Binary64.text ++ ["+Inf"]
  (marks.zip (runningSums 0 h.buckets)).map fun (mark, n) =>
    ⟨"_bucket", [("le", mark), ("operation", operation)], countText n⟩

/-- The number of durations of one operation. -/
def durationCount (operation : String) (h : Histogram) : Sample :=
  ⟨"_count", [("operation", operation)], countText h.count⟩

/-- The samples of the durations of one operation. -/
def histogramSamples (operation : String) (h : Histogram) : List Sample :=
  ⟨"_sum", [("operation", operation)], h.sum.text⟩ :: durationCount operation h ::
    bucketSamples operation h

/-- The family of the outcomes. -/
def validationFamily (samples : List Sample) : Family :=
  ⟨"validations", "Total number of validated requests", "counter", samples⟩

/-- The family of the rejections. -/
def rejectionFamily (samples : List Sample) : Family :=
  ⟨"rejections", "Total number of rejected requests by reason", "counter", samples⟩

/-- The family of the durations. -/
def durationFamily (samples : List Sample) : Family :=
  ⟨"validation_duration_seconds", "Duration of request validation in seconds", "histogram", samples⟩

/-- The families of the metrics. -/
def families (m : Metrics) : List Family :=
  [validationFamily m.validationSamples, rejectionFamily m.rejectionSamples,
    durationFamily (m.durations.entries.flatMap fun e => histogramSamples e.1 e.2)]

/-- The text of the metrics. -/
def text (m : Metrics) : String :=
  String.join (((m.families.flatMap Family.lines) ++ ["# EOF"]).map (· ++ "\n"))

/-- Puts a line before the first one that is not smaller. -/
def insertLine (line : String) : List String → List String
  | [] => [line]
  | l :: ls => if compare l line = .lt then l :: insertLine line ls else line :: l :: ls

/-- Lines in increasing order. -/
def sorted (lines : List String) : List String := lines.foldr insertLine []

/-- The lines of the text, in increasing order. -/
def sortedLines (m : Metrics) : List String :=
  sorted ((Text.lines m.text.toList).map String.ofList)

/-- The samples that do not depend on how long checks took, in increasing order. -/
def countLines (m : Metrics) : List String :=
  sorted
    (m.validationSamples.map (Sample.line "validations") ++
      m.rejectionSamples.map (Sample.line "rejections") ++
      m.durations.entries.map fun e =>
        (durationCount e.1 e.2).line "validation_duration_seconds")

example : (({} : Metrics).add "a" .admitted (.ofRatio false 1 4)).countLines =
    ["dbaas_policy_validation_duration_seconds_count\x7boperation=\"a\"\x7d 1",
      "dbaas_policy_validations_total\x7boperation=\"a\",outcome=\"admitted\"\x7d 1"] := by
  decide +kernel

end Metrics

end ClusterAdmission
