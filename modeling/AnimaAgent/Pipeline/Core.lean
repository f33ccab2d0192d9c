import AnimaAgent.Library.Runs
import AnimaAgent.Support.Value

/-!
This module contains the data pipeline: filters, transforms, an aggregate and a sink. What a component
does with a value may depend on the number of the call, so it may have any state of its own. The
components also note which items they have disposed of, which the code does not.
-/

namespace AnimaAgent

structure Datum where
  value : Value
  items : List Nat

structure FilterStage where
  passes : Nat → Value → Bool
  rejected : List Datum

inductive TransformStage where
  | apply (f : Nat → Value → Except String (Option Value)) (dropped : List Datum)
  | batch (batchSize : Nat) (buffer : List Datum)

structure AggregateStage where
  addData : Nat → Value → Except String Unit
  absorbed : List Datum

structure SinkStage where
  write : Nat → Value → Except String Unit
  flush : Nat → Except String Unit
  close : Nat → Except String Unit
  written : List Datum

structure SourceStage where
  start : Nat → Except String Unit
  stop : Nat → Except String Unit

inductive PipelineState where
  | idle
  | running
  | stopped
  deriving DecidableEq

structure Pipeline where
  source : Option SourceStage
  transforms : List TransformStage
  filters : List FilterStage
  aggregate : Option AggregateStage
  sink : Option SinkStage
  state : PipelineState
  itemsProcessed : Nat
  itemsFiltered : Nat
  errors : Nat

namespace Pipeline

def new : Pipeline where
  source := none
  transforms := []
  filters := []
  aggregate := none
  sink := none
  state := .idle
  itemsProcessed := 0
  itemsFiltered := 0
  errors := 0

variable (p : Pipeline)

def addSource (source : SourceStage) : Pipeline :=
  { p with source := some source }

def addTransform (f : Nat → Value → Except String (Option Value)) : Pipeline :=
  { p with transforms := p.transforms ++ [.apply f []] }

def addBatchTransform (batchSize : Nat) : Pipeline :=
  { p with transforms := p.transforms ++ [.batch batchSize []] }

def addFilter (passes : Nat → Value → Bool) : Pipeline :=
  { p with filters := p.filters ++ [{ passes := passes, rejected := [] }] }

def addAggregate (addData : Nat → Value → Except String Unit) : Pipeline :=
  { p with aggregate := some { addData := addData, absorbed := [] } }

def addSink (write : Nat → Value → Except String Unit) (flush close : Nat → Except String Unit)
    : Pipeline :=
  { p with sink := some { write := write, flush := flush, close := close, written := [] } }

end Pipeline

def sumAggregate : Nat → Value → Except String Unit
  | _, .number _ => .ok ()
  | _, _ => .error "expected number"

def filterAll (n : Nat) (d : Datum) : List FilterStage → Bool × List FilterStage
  | [] => (true, [])
  | filter :: rest =>
    if filter.passes n d.value then
      let (passed, rest) := filterAll n d rest
      (passed, filter :: rest)
    else
      (false, { filter with rejected := filter.rejected ++ [d] } :: rest)

def TransformStage.transform (n : Nat) (d : Datum)
    : TransformStage → Except String (Option Datum) × TransformStage
  | .apply f dropped =>
    match f n d.value with
    | .ok (some next) => (.ok (some { d with value := next }), .apply f dropped)
    | .ok none => (.ok none, .apply f (dropped ++ [d]))
    | .error e => (.error e, .apply f dropped)
  | .batch batchSize buffer =>
    let buffer := buffer ++ [d]
    if batchSize ≤ buffer.length then
      (.ok (some { value := .array (buffer.map Datum.value), items := buffer.flatMap Datum.items }),
        .batch batchSize [])
    else
      (.ok none, .batch batchSize buffer)

def transformAll (n : Nat) (current : Datum)
    : List TransformStage → Except String (Option Datum) × List TransformStage
  | [] => (.ok (some current), [])
  | stage :: rest =>
    match stage.transform n current with
    | (.ok (some next), stage) =>
      let (result, rest) := transformAll n next rest
      (result, stage :: rest)
    | (.ok none, stage) => (.ok none, stage :: rest)
    | (.error e, stage) => (.error e, stage :: rest)

namespace Pipeline

variable (p : Pipeline)

def deliver (n : Nat) (current : Datum) : Except String (Option Datum) × Pipeline :=
  match p.aggregate with
  | some aggregate =>
    match aggregate.addData n current.value with
    | .ok _ =>
      (.ok none, { p with
        aggregate := some { aggregate with absorbed := aggregate.absorbed ++ [current] } })
    | .error e => (.error e, p)
  | none =>
    match p.sink with
    | some sink =>
      match sink.write n current.value with
      | .ok _ =>
        (.ok (some current), { p with
          sink := some { sink with written := sink.written ++ [current] } })
      | .error e => (.error e, p)
    | none => (.ok (some current), p)

def process (n : Nat) (data : Value) : Except String (Option Datum) × Pipeline :=
  let p := { p with itemsProcessed := p.itemsProcessed + 1 }
  match filterAll n { value := data, items := [n] } p.filters with
  | (false, filters) =>
    (.ok none, { p with filters := filters, itemsFiltered := p.itemsFiltered + 1 })
  | (true, filters) =>
    let p := { p with filters := filters }
    match transformAll n { value := data, items := [n] } p.transforms with
    | (.ok (some current), transforms) => deliver { p with transforms := transforms } n current
    | (.ok none, transforms) =>
      (.ok none, { p with transforms := transforms, itemsFiltered := p.itemsFiltered + 1 })
    | (.error e, transforms) =>
      (.error e, { p with transforms := transforms, errors := p.errors + 1 })

def start (n : Nat) : Except String Unit × Pipeline :=
  let p := { p with state := .running }
  match p.source with
  | some source => (source.start n, p)
  | none => (.ok (), p)

def stop (n : Nat) : Except String Unit × Pipeline :=
  let p := { p with state := .stopped }
  let stopped := do
    (p.source.map (fun source => source.stop n)).getD (.ok ())
    match p.sink with
    | some sink => do
      sink.flush n
      sink.close n
    | none => pure ()
  (stopped, p)

end Pipeline

inductive PipelineAction where
  | process (data : Value)
  | start
  | stop

structure PipelineRun where
  pipeline : Pipeline
  results : List (Except String (Option Datum))

namespace PipelineRun

variable (s : PipelineRun)

def step : PipelineAction → Option PipelineRun
  | .process data =>
    let (result, pipeline) := s.pipeline.process s.results.length data
    some { pipeline := pipeline, results := s.results ++ [result] }
  | .start => some { s with pipeline := (s.pipeline.start s.results.length).2 }
  | .stop => some { s with pipeline := (s.pipeline.stop s.results.length).2 }

end PipelineRun

end AnimaAgent
