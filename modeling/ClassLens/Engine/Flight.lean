import ClassLens.Engine.Run
/-
  Flights — first queries at the same time

  Several queries may ask for components that are not indexed yet. The first
  query for a component starts a run and enters it into the table of runs in
  flight; every other query for that component waits for the same run. When a
  run is over, each of its queries answers with the component that the index
  then holds, and the entry of the run leaves the table.
-/

namespace ClassLens

/-- How far a query has come. -/
inductive QueryState where
  | starting
  | waiting (run : Nat)
  | answered (component : Option Component)
  deriving Repr

/-- A query for a component, with the imports it would build it from. -/
structure Query where
  component : Path
  imports : List Path
  state : QueryState
  deriving Repr

/-- Queries under way on one index. -/
structure Flight where
  index : Index
  /-- The run in flight for each component. -/
  inFlight : Table Path Nat
  /-- The runs that are not over, by number. -/
  runs : Table Nat Run
  nextRun : Nat
  queries : List Query
  deriving Repr

namespace Flight

/-- The queries before any of them has begun. -/
def begin (index : Index) (queries : List (Path × List Path)) : Flight :=
  ⟨index, Table.empty, Table.empty, 0, queries.map fun (c, imports) => ⟨c, imports, .starting⟩⟩

/-- The flight with one query moved on. -/
def setState (f : Flight) (i : Nat) (q : Query) (state : QueryState) : Flight :=
  { f with queries := f.queries.set i { q with state } }

/-- A query begins: it answers at once, joins the run in flight, or starts one. -/
def startQuery (f : Flight) (i : Nat) (q : Query) : Flight :=
  match f.index.components.get? q.component with
  | some c => f.setState i q (.answered (some c))
  | none =>
    match f.inFlight.get? q.component with
    | some run => f.setState i q (.waiting run)
    | none =>
      let started := { f with
        inFlight := f.inFlight.insert q.component f.nextRun
        runs := f.runs.insert f.nextRun (Run.start q.component q.imports)
        nextRun := f.nextRun + 1 }
      started.setState i q (.waiting f.nextRun)

/-- The run that a query waits for is over: the entry of the run leaves the table, if
it is there yet, and the query answers. -/
def land (f : Flight) (i : Nat) (q : Query) (run : Nat) : Flight :=
  let inFlight :=
    if f.inFlight.get? q.component = some run then f.inFlight.erase q.component else f.inFlight
  { f with inFlight }.setState i q (.answered (f.index.components.get? q.component))

/-- A waiting query drives its run one step on. The query that brings the run to its
end answers with that, and nothing comes in between; the others answer when they move
on after it. -/
def await (disk : Disk) (f : Flight) (i : Nat) (q : Query) (run : Nat) : Flight :=
  match f.runs.get? run with
  | none => f.land i q run
  | some r =>
    match Run.step disk f.index r with
    | (index, some r) => { f with index, runs := f.runs.insert run r }
    | (index, none) => { f with index, runs := f.runs.erase run }.land i q run

/-- The query with the given number moves on to the next point where it can be interrupted. -/
def step (disk : Disk) (f : Flight) (i : Nat) : Flight :=
  match f.queries[i]? with
  | none => f
  | some q =>
    match q.state with
    | .starting => f.startQuery i q
    | .waiting run => await disk f i q run
    | .answered _ => f

/-- Moves queries on in the given order. -/
def steps (disk : Disk) (f : Flight) (order : List Nat) : Flight := order.foldl (step disk) f

/-- Moves all queries on in turn, a number of times. -/
def rounds (disk : Disk) : Nat → Flight → Flight
  | 0, f => f
  | n + 1, f => rounds disk n (steps disk f (List.range f.queries.length))

/-- Enough rounds for all queries to be answered. -/
def roundsNeeded (f : Flight) : Nat :=
  totalSteps (fun q => 5 * q.imports.length + 4) f.queries +
    totalSteps (fun r => r.stepsLeft + 1) f.runs.values

/-- All queries, moved on in turn until each is answered. -/
def complete (disk : Disk) (f : Flight) : Flight := rounds disk f.roundsNeeded f

def answerOf (q : Query) : Option Component :=
  match q.state with
  | .answered c => c
  | _ => none

def answers (f : Flight) : List (Option Component) := f.queries.map answerOf

/-! ## One query without a break -/

/-- The flight once the run that is in flight for a component is over, and its entry gone. -/
def joined (disk : Disk) (f : Flight) (component : Path) (run : Nat) : Flight :=
  { f with
    index := match f.runs.get? run with
      | some r => r.finish disk f.index
      | none => f.index
    inFlight := f.inFlight.erase component
    runs := f.runs.erase run }

/-- A query that nothing interrupts. It answers at once, brings the run in flight
to its end, or indexes the component from its own imports. -/
def ask (disk : Disk) (f : Flight) (component : Path) (imports : List Path) :
    Flight × Option Component :=
  match f.index.components.get? component with
  | some c => (f, some c)
  | none =>
    let asked := match f.inFlight.get? component with
      | some run => joined disk f component run
      | none => { f with index := Index.indexComponent disk f.index component imports }
    (asked, asked.index.components.get? component)

end Flight

end ClassLens
