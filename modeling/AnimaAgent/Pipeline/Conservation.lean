import AnimaAgent.Pipeline.Core

namespace AnimaAgent

namespace TransformStage

def dropped : TransformStage → List Datum
  | .apply _ dropped => dropped
  | .batch _ _ => []

def buffer : TransformStage → List Datum
  | .apply _ _ => []
  | .batch _ buffer => buffer

def Fits : TransformStage → Prop
  | .apply _ _ => True
  | .batch batchSize buffer => batchSize ≤ buffer.length + 1

end TransformStage

def droppedItems (stages : List TransformStage) : List Nat :=
  (stages.flatMap TransformStage.dropped).flatMap Datum.items

def bufferedItems (stages : List TransformStage) : List Nat :=
  (stages.flatMap TransformStage.buffer).flatMap Datum.items

def rejectedItems (filters : List FilterStage) : List Nat :=
  (filters.flatMap FilterStage.rejected).flatMap Datum.items

inductive Reaches (n : Nat) : List TransformStage → Datum → List TransformStage → Datum → Prop where
  | here (stages : List TransformStage) (d : Datum) : Reaches n stages d stages d
  | through (stage : TransformStage) (rest : List TransformStage) (d next : Datum)
      (stages : List TransformStage) (d' : Datum) (hpass : (stage.transform n d).1 = .ok (some next))
      (hrest : Reaches n rest next stages d')
      : Reaches n (stage :: rest) d stages d'

def Pipeline.absorbedItems (p : Pipeline) : List Nat :=
  ((p.aggregate.map AggregateStage.absorbed).getD []).flatMap Datum.items

structure Pipeline.Accepts (p : Pipeline) (n : Nat) (value : Value) : Prop where
  aggregate : ∀ aggregate, p.aggregate = some aggregate
    → ∃ accepted, aggregate.addData n value = .ok accepted
  sink : p.aggregate = none → ∀ sink, p.sink = some sink → ∃ accepted, sink.write n value = .ok accepted

def returnedItems : Except String (Option Datum) → List Nat
  | .ok (some d) => d.items
  | _ => []

def isErr : Except String (Option Datum) → Bool
  | .error _ => true
  | .ok _ => false

namespace PipelineRun

def deliveredItems (s : PipelineRun) : List Nat :=
  match s.pipeline.sink with
  | some sink => sink.written.flatMap Datum.items
  | none => s.results.flatMap returnedItems

/-- Every item is counted once, and no item is left in a batch by the stop. -/
structure Conserves (s : PipelineRun) : Prop where
  errors : s.pipeline.errors = s.results.countP isErr
  filtered : s.pipeline.itemsFiltered
    = (rejectedItems s.pipeline.filters).length + (droppedItems s.pipeline.transforms).length
  accounted : s.pipeline.itemsProcessed = s.pipeline.itemsFiltered + s.pipeline.errors
    + s.pipeline.absorbedItems.length + s.deliveredItems.length
    + (bufferedItems s.pipeline.transforms).length
  stopped : s.pipeline.state = .stopped → bufferedItems s.pipeline.transforms = []

/--
An item that passes the filters fills each batch that it gets to, and what is made of it is taken by the
aggregate or the sink if it gets there.
-/
def Unspoiled (s : PipelineRun) : PipelineAction → Prop
  | .process data =>
    (∀ filter ∈ s.pipeline.filters, filter.passes s.results.length data = true)
    → (∀ stage rest d, Reaches s.results.length s.pipeline.transforms
          { value := data, items := [s.results.length] } (stage :: rest) d → stage.Fits)
      ∧ ∀ d, Reaches s.results.length s.pipeline.transforms
          { value := data, items := [s.results.length] } [] d
        → s.pipeline.Accepts s.results.length d.value
  | .start => True
  | .stop => True

end PipelineRun

def Unbegun (stages : List TransformStage) : Prop :=
  ∀ stage ∈ stages, stage.buffer = []

theorem bufferedItems_eq_nil {stages : List TransformStage} (h : Unbegun stages)
    : bufferedItems stages = [] := by
  unfold bufferedItems
  rw [List.flatMap_eq_nil_iff.mpr h]
  rfl

section Stages

variable {n : Nat} {d : Datum} {stages : List TransformStage}

inductive Through (n : Nat) (d : Datum) (stages : List TransformStage)
    : Except String (Option Datum) × List TransformStage → Prop where
  | passed (next : Datum) (stages' : List TransformStage) (hreaches : Reaches n stages d [] next)
      (hitems : next.items = d.items) (hunbegun : Unbegun stages')
      (hdropped : droppedItems stages' = droppedItems stages)
      : Through n d stages (.ok (some next), stages')
  | dropped (stages' : List TransformStage) (hnot : ∀ next, ¬ Reaches n stages d [] next)
      (hunbegun : Unbegun stages')
      (hdropped : (droppedItems stages').length = (droppedItems stages).length + d.items.length)
      : Through n d stages (.ok none, stages')
  | failed (e : String) (stages' : List TransformStage) (hnot : ∀ next, ¬ Reaches n stages d [] next)
      (hunbegun : Unbegun stages') (hdropped : droppedItems stages' = droppedItems stages)
      : Through n d stages (.error e, stages')

theorem droppedItems_cons (stage : TransformStage) (rest : List TransformStage)
    : droppedItems (stage :: rest) = stage.dropped.flatMap Datum.items ++ droppedItems rest := by
  unfold droppedItems
  rw [List.flatMap_cons, List.flatMap_append]

theorem unbegun_cons {stage : TransformStage} {rest : List TransformStage}
    : Unbegun (stage :: rest) ↔ stage.buffer = [] ∧ Unbegun rest := by
  exact List.forall_mem_cons

theorem transform_of_fits {stage : TransformStage} (hbuffer : stage.buffer = []) (hfits : stage.Fits)
    : (stage.transform n d).2.buffer = []
        ∧ ((∃ next, (stage.transform n d).1 = .ok (some next) ∧ next.items = d.items
            ∧ (stage.transform n d).2.dropped = stage.dropped)
          ∨ ((stage.transform n d).1 = .ok none ∧ (stage.transform n d).2.dropped = stage.dropped ++ [d])
          ∨ (∃ e, (stage.transform n d).1 = .error e
            ∧ (stage.transform n d).2.dropped = stage.dropped)) := by
  cases stage with
  | apply f dropped =>
    unfold TransformStage.transform
    dsimp only
    rcases f n d.value with e | _ | next
    . exact ⟨rfl, .inr (.inr ⟨e, rfl, rfl⟩)⟩
    . exact ⟨rfl, .inr (.inl ⟨rfl, rfl⟩)⟩
    . exact ⟨rfl, .inl ⟨_, rfl, rfl, rfl⟩⟩
  | batch batchSize buffer =>
    unfold TransformStage.buffer at hbuffer
    unfold TransformStage.Fits at hfits
    dsimp only at hbuffer hfits
    unfold TransformStage.transform
    dsimp only
    rw [List.length_append, List.length_singleton, if_pos hfits]
    refine ⟨rfl, .inl ⟨_, rfl, ?_, rfl⟩⟩
    rw [hbuffer]
    simp

theorem through_transformAll (hunbegun : Unbegun stages)
    (hfits : ∀ stage rest d', Reaches n stages d (stage :: rest) d' → stage.Fits)
    : Through n d stages (transformAll n d stages) := by
  induction stages generalizing d with
  | nil => exact .passed d [] (.here [] d) rfl (fun _ h => by cases h) rfl
  | cons stage rest ih =>
    obtain ⟨hbuffer, hrest⟩ := unbegun_cons.mp hunbegun
    have hstage := transform_of_fits (n := n) (d := d) hbuffer (hfits stage rest d (.here _ d))
    unfold transformAll
    rcases htransform : stage.transform n d with ⟨result, stage'⟩
    rw [htransform] at hstage
    dsimp only at hstage
    -- a datum that stops here gets to no later stage
    have hnot : (∀ next, result ≠ .ok (some next)) → ∀ next, ¬ Reaches n (stage :: rest) d [] next := by
      intro hresult next hreaches
      cases hreaches with
      | through _ _ _ between _ _ hpass _ =>
        rw [htransform] at hpass
        exact hresult between hpass
    obtain ⟨hbuffer', ⟨next, rfl, hitems, hdropped⟩ | ⟨rfl, hdropped⟩ | ⟨e, rfl, hdropped⟩⟩ := hstage
    . have hpass : (stage.transform n d).1 = .ok (some next) := by rw [htransform]
      have hnext := ih (d := next) hrest (fun stage rest' d' hreaches =>
        hfits stage rest' d' (.through _ _ _ next _ _ hpass hreaches))
      dsimp only
      rcases hall : transformAll n next rest with ⟨result, rest'⟩
      rw [hall] at hnext
      cases hnext with
      | passed final _ hreaches hsame hunbegun' hdropped' =>
        refine .passed final _ (.through _ _ _ next _ _ hpass hreaches) (hsame.trans hitems)
          (unbegun_cons.mpr ⟨hbuffer', hunbegun'⟩) ?_
        rw [droppedItems_cons, droppedItems_cons, hdropped, hdropped']
      | dropped _ hnone hunbegun' hdropped' =>
        refine .dropped _ ?_ (unbegun_cons.mpr ⟨hbuffer', hunbegun'⟩) ?_
        . intro final hreaches
          cases hreaches with
          | through _ _ _ between _ _ hpass' hreaches =>
            cases hpass.symm.trans hpass'
            exact hnone final hreaches
        . rw [droppedItems_cons, droppedItems_cons, hdropped, List.length_append, List.length_append,
            hdropped', hitems]
          omega
      | failed e _ hnone hunbegun' hdropped' =>
        refine .failed e _ ?_ (unbegun_cons.mpr ⟨hbuffer', hunbegun'⟩) ?_
        . intro final hreaches
          cases hreaches with
          | through _ _ _ between _ _ hpass' hreaches =>
            cases hpass.symm.trans hpass'
            exact hnone final hreaches
        . rw [droppedItems_cons, droppedItems_cons, hdropped, hdropped']
    . refine .dropped _ (hnot (fun next h => by cases h)) (unbegun_cons.mpr ⟨hbuffer', hrest⟩) ?_
      rw [droppedItems_cons, droppedItems_cons, hdropped, List.flatMap_append, List.length_append,
        List.length_append, List.length_append, List.flatMap_singleton]
      omega
    . refine .failed e _ (hnot (fun next h => by cases h)) (unbegun_cons.mpr ⟨hbuffer', hrest⟩) ?_
      rw [droppedItems_cons, droppedItems_cons, hdropped]

theorem dropped_transform_of_some {stage : TransformStage} {next : Datum}
    (h : (stage.transform n d).1 = .ok (some next))
    : (stage.transform n d).2.dropped = stage.dropped := by
  cases stage with
  | apply f dropped =>
    unfold TransformStage.transform at h ⊢
    dsimp only at h ⊢
    split
    . rfl
    . next hf =>
      rw [hf] at h
      cases h
    . rfl
  | batch batchSize buffer =>
    unfold TransformStage.transform
    dsimp only
    split
    . rfl
    . rfl

theorem transformAll_of_not_fits {stages' : List TransformStage} {d' : Datum}
    (h : Reaches n stages d stages' d') {stage : TransformStage} {rest : List TransformStage}
    (hstages' : stages' = stage :: rest) (hunfit : ¬ stage.Fits)
    : (transformAll n d stages).1 = .ok none
        ∧ droppedItems (transformAll n d stages).2 = droppedItems stages := by
  induction h with
  | here stages d =>
    rw [hstages']
    cases stage with
    | apply f dropped => exact absurd trivial hunfit
    | batch batchSize buffer =>
      unfold TransformStage.Fits at hunfit
      dsimp only at hunfit
      have htransform : (TransformStage.batch batchSize buffer).transform n d
          = (.ok none, .batch batchSize (buffer ++ [d])) := by
        unfold TransformStage.transform
        dsimp only
        rw [List.length_append, List.length_singleton, if_neg hunfit]
      unfold transformAll
      rw [htransform]
      exact ⟨rfl, rfl⟩
  | through stage' rest' d next stages'' d'' hpass hrest ih =>
    obtain ⟨hresult, hdropped⟩ := ih hstages'
    have hsame := dropped_transform_of_some hpass
    unfold transformAll
    rcases htransform : stage'.transform n d with ⟨result, after⟩
    rw [htransform] at hpass hsame
    dsimp only at hpass hsame
    rw [hpass]
    dsimp only
    refine ⟨hresult, ?_⟩
    rw [droppedItems_cons, droppedItems_cons, hsame, hdropped]

theorem transformAll_of_reaches {stages' : List TransformStage} {d' : Datum}
    (h : Reaches n stages d stages' d') (hnil : stages' = [])
    : (transformAll n d stages).1 = .ok (some d') := by
  induction h with
  | here stages d =>
    rw [hnil]
    rfl
  | through stage rest d next stages' d' hpass hrest ih =>
    unfold transformAll
    rcases htransform : stage.transform n d with ⟨result, after⟩
    rw [htransform] at hpass
    dsimp only at hpass
    rw [hpass]
    exact ih hnil

theorem filterAll_spec (n : Nat) (d : Datum) (filters : List FilterStage)
    : ((∀ filter ∈ filters, filter.passes n d.value = true) ∧ filterAll n d filters = (true, filters))
        ∨ ((∃ filter ∈ filters, filter.passes n d.value = false) ∧ (filterAll n d filters).1 = false
          ∧ (rejectedItems (filterAll n d filters).2).length
            = (rejectedItems filters).length + d.items.length) := by
  have hcons : ∀ (filter : FilterStage) (rest : List FilterStage), rejectedItems (filter :: rest)
      = filter.rejected.flatMap Datum.items ++ rejectedItems rest := by
    intro filter rest
    unfold rejectedItems
    rw [List.flatMap_cons, List.flatMap_append]
  induction filters with
  | nil => exact .inl ⟨List.forall_mem_nil _, rfl⟩
  | cons filter rest ih =>
    unfold filterAll
    cases hpasses : filter.passes n d.value with
    | true =>
      rw [if_pos rfl]
      obtain ⟨hall, hrest⟩ | ⟨⟨other, hmem, hother⟩, hrest, hlength⟩ := ih
      . rw [hrest]
        exact .inl ⟨List.forall_mem_cons.mpr ⟨hpasses, hall⟩, rfl⟩
      . refine .inr ⟨⟨other, List.mem_cons_of_mem _ hmem, hother⟩, hrest, ?_⟩
        dsimp only
        rw [hcons, hcons, List.length_append, List.length_append, hlength]
        omega
    | false =>
      rw [if_neg (by decide)]
      refine .inr ⟨⟨filter, List.mem_cons_self .., hpasses⟩, rfl, ?_⟩
      dsimp only
      rw [hcons, hcons, List.flatMap_append, List.length_append, List.length_append,
        List.length_append, List.flatMap_singleton]
      omega

end Stages

namespace Pipeline

variable {p : Pipeline} {n : Nat} {current : Datum}

theorem deliver_spec (p : Pipeline) (n : Nat) (current : Datum)
    (results : List (Except String (Option Datum)))
    : ∃ aggregate sink, (p.deliver n current).2 = { p with aggregate := aggregate, sink := sink }
        ∧ ((p.Accepts n current.value ∧ isErr (p.deliver n current).1 = false
            ∧ (p.deliver n current).2.absorbedItems.length
                + (PipelineRun.deliveredItems
                  ⟨(p.deliver n current).2, results ++ [(p.deliver n current).1]⟩).length
              = p.absorbedItems.length + (PipelineRun.deliveredItems ⟨p, results⟩).length
                + current.items.length)
          ∨ (¬ p.Accepts n current.value ∧ isErr (p.deliver n current).1 = true)) := by
  unfold deliver
  cases haggregate : p.aggregate with
  | some aggregate =>
    dsimp only
    rcases hadd : aggregate.addData n current.value with e | ⟨⟩
    . refine ⟨p.aggregate, p.sink, rfl, .inr ⟨?_, rfl⟩⟩
      intro haccepts
      obtain ⟨accepted, haccepted⟩ := haccepts.aggregate aggregate haggregate
      cases hadd.symm.trans haccepted
    . refine ⟨_, p.sink, rfl, .inl ⟨?_, rfl, ?_⟩⟩
      . constructor
        . intro other hother
          cases haggregate.symm.trans hother
          exact ⟨_, hadd⟩
        . intro hnone
          cases haggregate.symm.trans hnone
      . unfold absorbedItems PipelineRun.deliveredItems
        dsimp only
        rw [haggregate]
        simp only [Option.map_some, Option.getD_some, List.flatMap_append, List.length_append,
          List.flatMap_singleton, returnedItems]
        cases p.sink with
        | some sink =>
          dsimp only
          omega
        | none =>
          dsimp only
          simp only [List.length_append, List.length_nil]
          omega
  | none =>
    dsimp only
    cases hsink : p.sink with
    | some sink =>
      dsimp only
      rcases hwrite : sink.write n current.value with e | ⟨⟩
      . refine ⟨p.aggregate, p.sink, rfl, .inr ⟨?_, rfl⟩⟩
        intro haccepts
        obtain ⟨accepted, haccepted⟩ := haccepts.sink haggregate sink hsink
        cases hwrite.symm.trans haccepted
      . refine ⟨none, _, rfl, .inl ⟨?_, rfl, ?_⟩⟩
        . constructor
          . intro other hother
            cases haggregate.symm.trans hother
          . intro _ other hother
            cases hsink.symm.trans hother
            exact ⟨_, hwrite⟩
        . unfold absorbedItems PipelineRun.deliveredItems
          dsimp only
          rw [haggregate, hsink]
          simp only [List.flatMap_append, List.length_append, List.flatMap_singleton]
          omega
    | none =>
      refine ⟨p.aggregate, p.sink, rfl, .inl ⟨?_, rfl, ?_⟩⟩
      . constructor
        . intro other hother
          cases haggregate.symm.trans hother
        . intro _ other hother
          cases hsink.symm.trans hother
      . unfold PipelineRun.deliveredItems
        dsimp only
        rw [hsink]
        simp only [List.flatMap_append, List.length_append, List.flatMap_singleton, returnedItems]
        omega

end Pipeline

namespace PipelineRun

variable {s s' : PipelineRun}

theorem deliveredItems_unfinished {p : Pipeline} {result : Except String (Option Datum)}
    (hsink : p.sink = s.pipeline.sink) (hresult : returnedItems result = [])
    : deliveredItems { pipeline := p, results := s.results ++ [result] } = s.deliveredItems := by
  unfold deliveredItems
  dsimp only
  rw [hsink]
  cases s.pipeline.sink with
  | some sink => rfl
  | none =>
    dsimp only
    rw [List.flatMap_append, List.flatMap_singleton, hresult, List.append_nil]

theorem conserves_rejected {filters : List FilterStage} {transforms : List TransformStage}
    (h : s.Conserves) (hunbegun : Unbegun s.pipeline.transforms) (hunbegun' : Unbegun transforms)
    (hlength : (rejectedItems filters).length + (droppedItems transforms).length
      = (rejectedItems s.pipeline.filters).length + (droppedItems s.pipeline.transforms).length + 1)
    : Conserves {
        pipeline := { s.pipeline with
          transforms := transforms
          filters := filters
          itemsProcessed := s.pipeline.itemsProcessed + 1
          itemsFiltered := s.pipeline.itemsFiltered + 1 }
        results := s.results ++ [.ok none] } := by
  have hold := h.accounted
  rw [bufferedItems_eq_nil hunbegun, List.length_nil] at hold
  constructor
  . rw [List.countP_append]
    exact h.errors
  . dsimp only
    rw [hlength, h.filtered]
  . rw [deliveredItems_unfinished (s := s)]
    . dsimp only
      rw [bufferedItems_eq_nil hunbegun', List.length_nil]
      change _ = _ + s.pipeline.errors + s.pipeline.absorbedItems.length + _ + 0
      omega
    . rfl
    . rfl
  . intro _
    exact bufferedItems_eq_nil hunbegun'

theorem conserves_failed {transforms : List TransformStage} {e : String} (h : s.Conserves)
    (hunbegun : Unbegun s.pipeline.transforms) (hunbegun' : Unbegun transforms)
    (hdropped : droppedItems transforms = droppedItems s.pipeline.transforms)
    : Conserves {
        pipeline := { s.pipeline with
          transforms := transforms
          itemsProcessed := s.pipeline.itemsProcessed + 1
          errors := s.pipeline.errors + 1 }
        results := s.results ++ [.error e] } := by
  have hold := h.accounted
  rw [bufferedItems_eq_nil hunbegun, List.length_nil] at hold
  constructor
  . rw [List.countP_append, ← h.errors]
    rfl
  . dsimp only
    rw [hdropped, h.filtered]
  . rw [deliveredItems_unfinished (s := s)]
    . dsimp only
      rw [bufferedItems_eq_nil hunbegun', List.length_nil]
      change _ = _ + _ + s.pipeline.absorbedItems.length + _ + 0
      omega
    . rfl
    . rfl
  . intro _
    exact bufferedItems_eq_nil hunbegun'

theorem conserves_delivered_iff {transforms : List TransformStage} {current : Datum} {n : Nat}
    (h : s.Conserves) (hunbegun : Unbegun s.pipeline.transforms) (hunbegun' : Unbegun transforms)
    (hdropped : droppedItems transforms = droppedItems s.pipeline.transforms)
    (hitems : current.items.length = 1) {p : Pipeline}
    (hp : p = { s.pipeline with
      transforms := transforms
      itemsProcessed := s.pipeline.itemsProcessed + 1 })
    : Unbegun (p.deliver n current).2.transforms
        ∧ (Conserves {
            pipeline := (p.deliver n current).2
            results := s.results ++ [(p.deliver n current).1] }
          ↔ s.pipeline.Accepts n current.value) := by
  obtain ⟨aggregate, sink, hafter, hcase⟩ := p.deliver_spec n current s.results
  have haccepts : p.Accepts n current.value ↔ s.pipeline.Accepts n current.value := by
    rw [hp]
    exact ⟨fun h => ⟨h.aggregate, h.sink⟩, fun h => ⟨h.aggregate, h.sink⟩⟩
  rw [← haccepts]
  refine ⟨by rw [hafter, hp]; exact hunbegun', ?_⟩
  obtain ⟨hyes, herr, hlength⟩ | ⟨hno, herr⟩ := hcase
  . refine iff_of_true ?_ hyes
    . have hold := h.accounted
      rw [bufferedItems_eq_nil hunbegun, List.length_nil] at hold
      have hbefore : p.absorbedItems.length + (deliveredItems ⟨p, s.results⟩).length
          = s.pipeline.absorbedItems.length + s.deliveredItems.length := by
        rw [hp]
        rfl
      constructor
      . rw [List.countP_append, List.countP_singleton, herr, hafter, hp]
        exact h.errors
      . rw [hafter, hp]
        dsimp only
        rw [hdropped, h.filtered]
      . have hfields : (p.deliver n current).2.itemsProcessed = s.pipeline.itemsProcessed + 1
            ∧ (p.deliver n current).2.itemsFiltered = s.pipeline.itemsFiltered
            ∧ (p.deliver n current).2.errors = s.pipeline.errors
            ∧ (p.deliver n current).2.transforms = transforms := by
          rw [hafter, hp]
          exact ⟨rfl, rfl, rfl, rfl⟩
        obtain ⟨hprocessed, hfiltered, herrors, htransforms⟩ := hfields
        dsimp only
        rw [hprocessed, hfiltered, herrors, htransforms, bufferedItems_eq_nil hunbegun',
          List.length_nil]
        omega
      . intro _
        rw [hafter, hp]
        exact bufferedItems_eq_nil hunbegun'
  . refine iff_of_false ?_ hno
    intro hconserves
    have herrors := hconserves.errors
    rw [List.countP_append, List.countP_singleton, herr, hafter, hp, ← h.errors] at herrors
    dsimp only at herrors
    rw [if_pos rfl] at herrors
    omega

theorem conserves_process_iff {data : Value} (h : s.Conserves)
    (hunbegun : Unbegun s.pipeline.transforms) (hstep : s.step (.process data) = some s')
    : (s'.Conserves → Unbegun s'.pipeline.transforms)
        ∧ (s'.Conserves ↔ s.Unspoiled (.process data)) := by
  obtain rfl : s' = {
      pipeline := (s.pipeline.process s.results.length data).2
      results := s.results ++ [(s.pipeline.process s.results.length data).1] } :=
    (Option.some.inj hstep).symm
  unfold Unspoiled Pipeline.process
  dsimp only
  obtain ⟨hpasses, hfilters⟩ | ⟨⟨filter, hmem, hreject⟩, hfilters, hrejected⟩ :=
    filterAll_spec s.results.length { value := data, items := [s.results.length] } s.pipeline.filters
  . rw [hfilters]
    dsimp only
    rw [forall_prop_of_true hpasses]
    by_cases hfits : ∀ stage rest d, Reaches s.results.length s.pipeline.transforms
        { value := data, items := [s.results.length] } (stage :: rest) d → stage.Fits
    . have hthrough := through_transformAll hunbegun hfits
      rw [and_iff_right hfits]
      rcases hall : transformAll s.results.length { value := data, items := [s.results.length] }
        s.pipeline.transforms with ⟨result, transforms⟩
      rw [hall] at hthrough
      cases hthrough with
      | passed next _ hreaches hitems hunbegun' hdropped =>
        have hdelivered := conserves_delivered_iff (n := s.results.length) h hunbegun hunbegun' hdropped
          (congrArg List.length hitems) rfl
        refine ⟨fun _ => hdelivered.1, hdelivered.2.trans ?_⟩
        constructor
        . intro haccepts d hd
          have hnext := transformAll_of_reaches hd rfl
          rw [hall] at hnext
          cases hnext
          exact haccepts
        . intro haccepts
          exact haccepts next hreaches
      | dropped _ hnot hunbegun' hdropped =>
        refine ⟨fun _ => hunbegun', iff_of_true ?_ (fun d hd => absurd hd (hnot d))⟩
        apply conserves_rejected h hunbegun hunbegun'
        rw [hdropped]
        exact (Nat.add_assoc ..).symm
      | failed e _ hnot hunbegun' hdropped =>
        refine ⟨fun _ => hunbegun', iff_of_true ?_ (fun d hd => absurd hd (hnot d))⟩
        exact conserves_failed h hunbegun hunbegun' hdropped
    . rw [iff_false_intro hfits, false_and]
      push Not at hfits
      obtain ⟨stage, rest, d, hreaches, hunfit⟩ := hfits
      obtain ⟨hresult, hdropped⟩ := transformAll_of_not_fits hreaches rfl hunfit
      rcases hall : transformAll s.results.length { value := data, items := [s.results.length] }
        s.pipeline.transforms with ⟨result, transforms⟩
      rw [hall] at hresult hdropped
      dsimp only at hresult hdropped
      rw [hresult]
      dsimp only
      refine (fun hno => ⟨fun hconserves => absurd hconserves hno, iff_of_false hno id⟩) ?_
      intro hconserves
      have hfiltered := hconserves.filtered
      dsimp only at hfiltered
      rw [hdropped, h.filtered] at hfiltered
      omega
  . rcases hall : filterAll s.results.length { value := data, items := [s.results.length] }
      s.pipeline.filters with ⟨passed, filters⟩
    rw [hall] at hfilters hrejected
    dsimp only at hfilters hrejected
    rw [hfilters]
    refine ⟨fun _ => hunbegun, iff_of_true ?_ ?_⟩
    . apply conserves_rejected h hunbegun hunbegun
      rw [hrejected, List.length_singleton]
      omega
    . intro hall
      exact absurd ((hall filter hmem).symm.trans hreject) (by decide)

theorem conserves_state {state : PipelineState} (h : s.Conserves)
    (hunbegun : Unbegun s.pipeline.transforms)
    : Conserves { s with pipeline := { s.pipeline with state := state } } := by
  refine ⟨h.errors, h.filtered, h.accounted, ?_⟩
  intro _
  exact bufferedItems_eq_nil hunbegun

theorem conserves_step_iff {action : PipelineAction} (h : s.Conserves)
    (hunbegun : Unbegun s.pipeline.transforms) (hstep : s.step action = some s')
    : (s'.Conserves → Unbegun s'.pipeline.transforms) ∧ (s'.Conserves ↔ s.Unspoiled action) := by
  cases action with
  | process data => exact conserves_process_iff h hunbegun hstep
  | start =>
    have hstart : s' = { s with pipeline := { s.pipeline with state := .running } } := by
      unfold step Pipeline.start at hstep
      dsimp only at hstep
      split at hstep
      . exact (Option.some.inj hstep).symm
      . exact (Option.some.inj hstep).symm
    rw [hstart]
    exact ⟨fun _ => hunbegun, iff_of_true (conserves_state h hunbegun) trivial⟩
  | stop =>
    have hstop : s' = { s with pipeline := { s.pipeline with state := .stopped } } :=
      (Option.some.inj hstep).symm
    rw [hstop]
    exact ⟨fun _ => hunbegun, iff_of_true (conserves_state h hunbegun) trivial⟩

end PipelineRun

inductive PipelineComponent where
  | source (source : SourceStage)
  | filter (passes : Nat → Value → Bool)
  | transform (f : Nat → Value → Except String (Option Value))
  | batchTransform (batchSize : Nat)
  | aggregate (addData : Nat → Value → Except String Unit)
  | sink (write : Nat → Value → Except String Unit) (flush close : Nat → Except String Unit)

namespace Pipeline

def add (p : Pipeline) : PipelineComponent → Pipeline
  | .source source => p.addSource source
  | .filter passes => p.addFilter passes
  | .transform f => p.addTransform f
  | .batchTransform batchSize => p.addBatchTransform batchSize
  | .aggregate addData => p.addAggregate addData
  | .sink write flush close => p.addSink write flush close

def build (components : List PipelineComponent) : Pipeline :=
  components.foldl add new

end Pipeline

namespace PipelineRun

def init (components : List PipelineComponent) : PipelineRun where
  pipeline := .build components
  results := []

structure Untouched (p : Pipeline) : Prop where
  filters : ∀ filter ∈ p.filters, filter.rejected = []
  transforms : ∀ stage ∈ p.transforms, stage.dropped = [] ∧ stage.buffer = []
  aggregate : ∀ aggregate, p.aggregate = some aggregate → aggregate.absorbed = []
  sink : ∀ sink, p.sink = some sink → sink.written = []
  counters : p.itemsProcessed = 0 ∧ p.itemsFiltered = 0 ∧ p.errors = 0

theorem untouched_new : Untouched .new := by
  constructor
  . intro filter hmem
    cases hmem
  . intro stage hmem
    cases hmem
  . intro aggregate haggregate
    cases haggregate
  . intro sink hsink
    cases hsink
  . exact ⟨rfl, rfl, rfl⟩

theorem Untouched.add {p : Pipeline} (h : Untouched p) (component : PipelineComponent)
    : Untouched (p.add component) := by
  cases component with
  | source source => exact ⟨h.filters, h.transforms, h.aggregate, h.sink, h.counters⟩
  | filter passes =>
    refine ⟨?_, h.transforms, h.aggregate, h.sink, h.counters⟩
    intro filter hmem
    obtain hold | hnew := List.mem_append.mp hmem
    . exact h.filters filter hold
    . rw [List.mem_singleton.mp hnew]
  | transform f =>
    refine ⟨h.filters, ?_, h.aggregate, h.sink, h.counters⟩
    intro stage hmem
    obtain hold | hnew := List.mem_append.mp hmem
    . exact h.transforms stage hold
    . rw [List.mem_singleton.mp hnew]
      exact ⟨rfl, rfl⟩
  | batchTransform batchSize =>
    refine ⟨h.filters, ?_, h.aggregate, h.sink, h.counters⟩
    intro stage hmem
    obtain hold | hnew := List.mem_append.mp hmem
    . exact h.transforms stage hold
    . rw [List.mem_singleton.mp hnew]
      exact ⟨rfl, rfl⟩
  | aggregate addData =>
    refine ⟨h.filters, h.transforms, ?_, h.sink, h.counters⟩
    intro aggregate haggregate
    cases haggregate
    rfl
  | sink write flush close =>
    refine ⟨h.filters, h.transforms, h.aggregate, ?_, h.counters⟩
    intro sink hsink
    cases hsink
    rfl

theorem untouched_build (components : List PipelineComponent) : Untouched (.build components) := by
  have hfoldl : ∀ (components : List PipelineComponent) p, Untouched p
      → Untouched (components.foldl Pipeline.add p) := by
    intro components
    induction components with
    | nil => exact fun p h => h
    | cons component rest ih => exact fun p h => ih _ (h.add component)
  exact hfoldl components .new untouched_new

theorem flatMap_eq_nil {α : Type} {stages : List α} {f : α → List Datum}
    (h : ∀ stage ∈ stages, f stage = [])
    : (stages.flatMap f).flatMap Datum.items = [] := by
  rw [List.flatMap_eq_nil_iff.mpr h]
  rfl

theorem Untouched.conserves {p : Pipeline} (h : Untouched p) : Conserves ⟨p, []⟩ := by
  obtain ⟨hprocessed, hfiltered, herrors⟩ := h.counters
  have hrejected : rejectedItems p.filters = [] := flatMap_eq_nil h.filters
  have hdropped : droppedItems p.transforms = [] :=
    flatMap_eq_nil (fun stage hmem => (h.transforms stage hmem).1)
  have hbuffered : bufferedItems p.transforms = [] :=
    flatMap_eq_nil (fun stage hmem => (h.transforms stage hmem).2)
  have habsorbed : p.absorbedItems = [] := by
    unfold Pipeline.absorbedItems
    cases haggregate : p.aggregate with
    | none => rfl
    | some aggregate =>
      rw [Option.map_some, Option.getD_some, h.aggregate aggregate haggregate]
      rfl
  have hdelivered : deliveredItems ⟨p, []⟩ = [] := by
    unfold deliveredItems
    dsimp only
    cases hsink : p.sink with
    | none => rfl
    | some sink =>
      dsimp only
      rw [h.sink sink hsink]
      rfl
  constructor
  . exact herrors
  . dsimp only
    rw [hfiltered, hrejected, hdropped]
    rfl
  . dsimp only
    rw [hprocessed, hfiltered, herrors, habsorbed, hdelivered, hbuffered]
    rfl
  . intro _
    exact hbuffered

/--
The counters and the stages account for every item along exactly the runs in which no item is put into a
batch that it does not fill, or is refused by the aggregate or the sink.
-/
theorem always_accounted_iff (components : List PipelineComponent) (actions : List PipelineAction)
    : Runs.Always step Conserves (init components) actions
        ↔ Runs.Guarded step Unspoiled (init components) actions := by
  have hbuild := untouched_build components
  have hunbegun : Unbegun (init components).pipeline.transforms :=
    fun stage hmem => (hbuild.transforms stage hmem).2
  rw [Runs.always_iff_always_and (Q := fun s => Unbegun s.pipeline.transforms)
    (fun s action s' h hunbegun hstep hconserves =>
      (conserves_step_iff h hunbegun hstep).1 hconserves) hunbegun]
  refine Runs.always_iff_guarded (fun _ => True) (fun _ => True) ?_ trivial
    ⟨hbuild.conserves, hunbegun⟩ (fun _ _ => trivial)
  intro s action s' _ _ h hstep
  obtain ⟨hkept, hiff⟩ := conserves_step_iff h.1 h.2 hstep
  refine ⟨trivial, ?_⟩
  rw [← hiff]
  exact and_iff_left_of_imp hkept

/-- One item of a batch of two is counted as filtered, and is still there after the stop. -/
theorem halfBatch_not_accounted
    : ¬ Runs.Always step Conserves (init [.batchTransform 2]) [.process .null, .stop] := by
  intro h
  have hconserves := h.run_eq_some rfl
  exact absurd (hconserves.stopped rfl) (by decide)

example
    : ¬ Runs.Always step Conserves (init [.aggregate sumAggregate]) [.process (.string "text")] := by
  intro h
  have hconserves := h.run_eq_some rfl
  exact absurd hconserves.errors (by decide)

end PipelineRun

end AnimaAgent
