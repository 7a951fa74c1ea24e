import Crosstab.Value.EpochMillis
import Crosstab.View.Chart
import Crosstab.View.Median

/-!
# Drilldowns

A drilldown shows the course of a metric over time for each row key behind one column key. The
points of a key keep the order in which they come back; the series follow the order of the row keys
that the request selects, or else the order of their first points.

Models `drilldown_time_series`, `DrilldownSeries` and `DrilldownResponse`.
-/

namespace Crosstab.View

open Number Pivot

/-- The value of the metric at a time, in milliseconds. -/
structure Point where
  time? : Option Int
  value? : Option Binary64
  deriving DecidableEq

/-- The points of a row key and their median. -/
structure TimeSeries where
  rowKey : Value
  points : List Point
  median? : Option Binary64
  deriving DecidableEq

/-- The series of a drilldown, with the range of its times and the median of all its values. -/
structure Drilldown where
  timeField : String
  metric : Metric
  minTime? : Option Int
  maxTime? : Option Int
  median? : Option Binary64
  series : List TimeSeries
  deriving DecidableEq

/-! ## Putting series together -/

/-- The point of a row and the key that it belongs to. -/
def pointOf (row : Row) : Outcome (Value × Point) := do
  let key ← asKey (← row.get rowColumn)
  let time? ← (← row.get timeColumn).epochMillis
  return (key, ⟨time?, ← (← row.get metricColumn).toReal?⟩)

/-- Adds a point to the series of its key, which is a new one at the end for a new key. -/
def addPoint (series : List TimeSeries) (key : Value) (p : Point) : List TimeSeries :=
  match series with
  | [] => [⟨key, [p], none⟩]
  | s :: rest =>
    if s.rowKey.equals key then { s with points := s.points ++ [p] } :: rest
    else s :: addPoint rest key p

/-- The series of rows. -/
def seriesOf (records : List Row) : Outcome (List TimeSeries) :=
  records.foldlM (fun series row => do
    let (key, p) ← pointOf row
    return addPoint series key p) []

/-- The rank of a series among selected keys: that of the last equal one, and for another key the
number of different selected keys. -/
def rankOf (selected : List String) (s : TimeSeries) : Nat :=
  (placeOf? s.rowKey (selected.map .text)).getD selected.eraseDups.length

/-- The series in the order of the selected keys, those of other keys behind them. -/
def orderSeries (selected : List String) (series : List TimeSeries) : List TimeSeries :=
  if selected.isEmpty then series
  else series.mergeSort fun a b => rankOf selected a ≤ rankOf selected b

/-- The values of a series that are there. -/
def TimeSeries.values (s : TimeSeries) : List Value :=
  s.points.filterMap fun p => p.value?.map Value.real

/-- The series with its median. -/
def TimeSeries.withMedian (s : TimeSeries) : Outcome TimeSeries := do
  return { s with median? := ← median s.values }

/-- The least or the greatest of times by a choice between two; several times must all be
there. -/
def extremeTime (choose : Int → Int → Int) (times : List (Option Int)) : Outcome (Option Int) :=
  match times with
  | [] => .ok none
  | [t?] => .ok t?
  | ts =>
    match ts.mapM id with
    | some (t :: rest) => .ok (some (rest.foldl choose t))
    | _ => mismatch .kind

/-- The drilldown of series. -/
def Drilldown.ofSeries (timeField : String) (metric : Metric) (series : List TimeSeries) :
    Outcome Drilldown := do
  let series ← series.mapM TimeSeries.withMedian
  let times := series.flatMap fun s => s.points.map (·.time?)
  let minTime? ← extremeTime min times
  let maxTime? ← extremeTime max times
  return ⟨timeField, metric, minTime?, maxTime?, ← median (series.flatMap (·.values)), series⟩

/-! ## The view -/

/-- Rejects a time bucket that is none. -/
def checkBucket (bucket : Value) : Outcome Unit :=
  match Sql.bucketWidth bucket with
  | .ok _ => .ok ()
  | .error f => if f.isValueFault then reject .invalidValue f.message else .error f

/-- The restrictions to the column key and the row keys that a request selects. -/
def selection (c : Context) (r : DrilldownRequest) : Outcome (List Restriction) := do
  let keyText (v : Value) : Value := .text (Filter.normalizeKey v)
  let col ←
    if r.selectedColKey == .null then pure []
    else do pure [← c.axisFilter r.colField [keyText r.selectedColKey]]
  let row ←
    if r.rowKeys.isEmpty then pure []
    else do pure [← c.axisFilter r.rowField (r.rowKeys.map keyText)]
  return col ++ row

/-- The drilldown of a request. -/
def drilldown (w : Workspace) (r : DrilldownRequest) : Session Drilldown := do
  checkBucket r.timeBucket
  let c ← w.context r.toRequest [r.metric]
  let _ ← c.schema.require r.colField
  let extra ← selection c r
  let records ← Session.records (← c.timeSeries r.rowField r.metric r.timeBucket extra)
  let series ← seriesOf records
  Drilldown.ofSeries c.timeField r.metric
    (orderSeries (r.rowKeys.map Filter.normalizeKey) series)

/-! ## As records -/

/-- A time that may be missing. -/
def timeValue (t? : Option Int) : Value :=
  (t?.map Value.int).getD .null

/-- The series as a record. -/
def TimeSeries.toValue (s : TimeSeries) : Value :=
  let point (p : Point) : Value :=
    .record [("ts", timeValue p.time?), ("value", cellValue p.value?)]
  .record [("rowKey", s.rowKey), ("points", .list (s.points.map point)),
    ("median", cellValue s.median?)]

/-- The drilldown as a record; the keys of its medians become texts as told. -/
def Drilldown.toValue (keyText : Value → Outcome String) (d : Drilldown) : Outcome Value := do
  let medians ← d.series.mapM fun s => do
    return (← keyText s.rowKey, cellValue s.median?)
  return .record [("timeField", .text d.timeField), ("metricField", .text d.metric.field),
    ("metricAgg", .text d.metric.agg.name), ("globalMinTime", timeValue d.minTime?),
    ("globalMaxTime", timeValue d.maxTime?), ("globalMedian", cellValue d.median?),
    ("series", .list (d.series.map TimeSeries.toValue)), ("seriesMedianMap", .record medians)]

end Crosstab.View
