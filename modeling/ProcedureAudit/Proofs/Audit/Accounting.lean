import Mathlib.Algebra.Ring.Nat
import ProcedureAudit.Audit
import ProcedureAudit.Proofs.Plan.Labels

/-!
# The account of an audit

The planner of this module answers its calls by number, with the rows of a plan or with a refusal,
and keeps a record of the queries that it was asked.  An audit with it is accounted for call by
call: the planner is asked each query once and in order, whatever it answered before, and the
report grows by what the calls came to.  Refusals therefore never cost an entry, and an audit in
two batches with one report is the audit of both batches together.
-/

namespace ProcedureAudit.Audit

/-! ## Audits in batches -/

/-- An audit of two batches is the audit of the second one from where the first one ended. -/
theorem explain_append
    {State Breakdown : Type}
    (planner : Text → State → PlanAnswer Breakdown × State)
    (registry : Registry)
    (first second : List CollectedSelect)
    (report : Report)
    (state : State) :
    explain planner registry (first ++ second) report state =
      match explain planner registry first report state with
      | (.ok report, state) => explain planner registry second report state
      | (.error cause, state) => (.error cause, state) := by
  induction first generalizing report state with
  | nil => rfl
  | cons collected first induction =>
      rw [List.cons_append, explain, explain]
      rcases planner (Query.normalizeSelect collected.select registry) state with
        ⟨plan | reason | cause, state⟩
      · exact induction _ state
      · exact induction _ state
      · rfl

def queryOf (registry : Registry) (collected : CollectedSelect) : Text :=
  Query.normalizeSelect collected.select registry

/-! ## The queries of an audit -/

section Recording

variable {State Breakdown : Type}
  (planner : Text → State → PlanAnswer Breakdown × State)

/-- A planner that takes down the queries that it is asked. -/
def recording (query : Text) (state : List Text × State) :
    PlanAnswer Breakdown × List Text × State :=
  let (answer, next) := planner query state.2
  (answer, state.1 ++ [query], next)

/-- The planner is asked the queries of the statements in order, all unless it breaks down. -/
theorem exists_asked_explain
    (registry : Registry)
    (selects : List CollectedSelect)
    (report : Report)
    (earlier : List Text)
    (state : State) :
    ∃ asked, asked <+: selects.map (queryOf registry) ∧
      (explain (recording planner) registry selects report (earlier, state)).2.1 =
        earlier ++ asked ∧
      ∀ final, (explain (recording planner) registry selects report (earlier, state)).1 =
        .ok final → asked = selects.map (queryOf registry) := by
  induction selects generalizing report earlier state with
  | nil => exact ⟨[], List.prefix_refl _, (List.append_nil earlier).symm, fun _ _ => rfl⟩
  | cons collected rest induction =>
      have goingOn (report : Report) (next : State) :
          ∃ asked, asked <+: (collected :: rest).map (queryOf registry) ∧
            (explain (recording planner) registry rest report
              (earlier ++ [queryOf registry collected], next)).2.1 = earlier ++ asked ∧
            ∀ final, (explain (recording planner) registry rest report
              (earlier ++ [queryOf registry collected], next)).1 = .ok final →
                asked = (collected :: rest).map (queryOf registry) := by
        rcases induction report (earlier ++ [queryOf registry collected]) next with
          ⟨asked, isPrefix, record, complete⟩
        refine ⟨queryOf registry collected :: asked, ?_, ?_, ?_⟩
        · exact List.cons_prefix_cons.2 ⟨rfl, isPrefix⟩
        · rw [record, List.append_assoc, List.singleton_append]
        · intro final ended
          rw [complete final ended, List.map_cons]
      rw [explain]
      simp only [recording]
      rcases planner (Query.normalizeSelect collected.select registry) state with
        ⟨plan | reason | cause, next⟩
      · exact goingOn _ next
      · exact goingOn _ next
      · refine ⟨[queryOf registry collected], ?_, rfl, fun final ended => by contradiction⟩
        exact List.cons_prefix_cons.2 ⟨rfl, List.nil_prefix⟩

end Recording

/-- An audit of statements asks any planner these queries in order: all of them if it ends. -/
def Asks (registry : Registry) (selects : List CollectedSelect) (queries : List Text) : Prop :=
  ∀ (State Breakdown : Type) (planner : Text → State → PlanAnswer Breakdown × State)
      (state : State),
    (explain (recording planner) registry selects {} ([], state)).2.1 <+: queries ∧
      ∀ final, (explain (recording planner) registry selects {} ([], state)).1 = .ok final →
        (explain (recording planner) registry selects {} ([], state)).2.1 = queries

theorem asks_map_queryOf (registry : Registry) (selects : List CollectedSelect) :
    Asks registry selects (selects.map (queryOf registry)) := by
  intro State Breakdown planner state
  rcases exists_asked_explain planner registry selects {} [] state with
    ⟨asked, isPrefix, record, complete⟩
  rw [record, List.nil_append]
  exact ⟨isPrefix, complete⟩

/-! ## Planners that always answer -/

/-- The rows of a plan, or the reason for refusing a query. -/
abbrev Verdict := Except Text (List Row)

def Verdict.answer {Breakdown : Type} : Verdict → PlanAnswer Breakdown
  | .ok plan => .rows plan
  | .error reason => .refused reason

/-- The planner that answers its calls by their number; its state is the queries so far. -/
def numbered
    (Breakdown : Type)
    (verdict : Nat → Text → Verdict)
    (query : Text)
    (asked : List Text) :
    PlanAnswer Breakdown × List Text :=
  ((verdict asked.length query).answer, asked ++ [query])

/-- A call of the planner and what it came to. -/
structure Call where
  procedure : Text
  query : Text
  verdict : Verdict

namespace Call

/-- The call of a number, for a collected statement. -/
def ofSelect
    (verdict : Nat → Text → Verdict)
    (registry : Registry)
    (collected : CollectedSelect)
    (number : Nat) :
    Call where
  procedure := collected.procedure
  query := queryOf registry collected
  verdict := verdict number (queryOf registry collected)

def isRefused (call : Call) : Bool :=
  match call.verdict with
  | .ok _ => false
  | .error _ => true

/-- The rows of the plan; a refused query has none. -/
def rows (call : Call) : List Row :=
  match call.verdict with
  | .ok plan => plan
  | .error _ => []

/-- The warnings of a call, one for each label of each row, in order. -/
def warnings (call : Call) : List Warning :=
  (call.rows.flatMap Plan.rowLabels).map fun label =>
    { label, procedure := call.procedure, query := call.query }

/-- The refusal of a call, if the query was refused. -/
def refusals (call : Call) : List Refusal :=
  match call.verdict with
  | .ok _ => []
  | .error reason => [{ reason, procedure := call.procedure, query := call.query }]

end Call

/-- The calls for collected statements, in order, with numbers from `first` on. -/
def calls
    (verdict : Nat → Text → Verdict)
    (registry : Registry)
    (first : Nat)
    (selects : List CollectedSelect) :
    List Call :=
  (selects.zipIdx first).map fun (collected, number) =>
    Call.ofSelect verdict registry collected number

/-- A report with the entries of some calls at its end. -/
def withCalls (report : Report) (made : List Call) : Report where
  warnings := report.warnings ++ made.flatMap Call.warnings
  refusals := report.refusals ++ made.flatMap Call.refusals

theorem calls_cons
    (verdict : Nat → Text → Verdict)
    (registry : Registry)
    (first : Nat)
    (collected : CollectedSelect)
    (rest : List CollectedSelect) :
    calls verdict registry first (collected :: rest) =
      Call.ofSelect verdict registry collected first ::
        calls verdict registry (first + 1) rest :=
  rfl

theorem withCalls_cons (report : Report) (call : Call) (made : List Call) :
    withCalls report (call :: made) = withCalls (withCalls report [call]) made := by
  simp [withCalls]

theorem noteRows_eq_withCalls
    (report : Report)
    (procedure query : Text)
    (plan : List Row) :
    noteRows procedure query plan report =
      withCalls report [{ procedure, query, verdict := .ok plan }] := by
  have labelled :
      (Plan.smells plan).map (fun smell => ({ label := smell.label, procedure, query } : Warning)) =
        (plan.flatMap Plan.rowLabels).map fun label => { label, procedure, query } := by
    rw [← Plan.map_label_smells, List.map_map]
    rfl
  simp [noteRows, withCalls, Call.warnings, Call.refusals, Call.rows, labelled]

theorem noteRefusal_eq_withCalls
    (report : Report)
    (procedure query reason : Text) :
    noteRefusal procedure query reason report =
      withCalls report [{ procedure, query, verdict := .error reason }] := by
  simp [noteRefusal, withCalls, Call.warnings, Call.refusals, Call.rows]

/-- One call adds its entries to the report, and its query to the record. -/
theorem explain_cons_numbered
    (Breakdown : Type)
    (verdict : Nat → Text → Verdict)
    (registry : Registry)
    (collected : CollectedSelect)
    (rest : List CollectedSelect)
    (report : Report)
    (asked : List Text) :
    explain (numbered Breakdown verdict) registry (collected :: rest) report asked =
      explain (numbered Breakdown verdict) registry rest
        (withCalls report [Call.ofSelect verdict registry collected asked.length])
        (asked ++ [queryOf registry collected]) := by
  rw [explain]
  simp only [numbered, Call.ofSelect, queryOf]
  cases verdict asked.length (Query.normalizeSelect collected.select registry) with
  | ok plan => rw [← noteRows_eq_withCalls]; rfl
  | error reason => rw [← noteRefusal_eq_withCalls]; rfl

/-- A whole audit is the account of its calls. -/
theorem explain_numbered
    (Breakdown : Type)
    (verdict : Nat → Text → Verdict)
    (registry : Registry)
    (selects : List CollectedSelect)
    (report : Report)
    (asked : List Text) :
    explain (numbered Breakdown verdict) registry selects report asked =
      (.ok (withCalls report (calls verdict registry asked.length selects)),
        asked ++ selects.map (queryOf registry)) := by
  induction selects generalizing report asked with
  | nil =>
      simp [explain, withCalls, calls]
  | cons collected rest induction =>
      rw [explain_cons_numbered, induction, calls_cons, ← withCalls_cons]
      simp

/-! ## The number of entries -/

theorem length_flatMap_refusals (made : List Call) :
    (made.flatMap Call.refusals).length = made.countP Call.isRefused := by
  induction made with
  | nil => rfl
  | cons call made induction =>
      rw [List.flatMap_cons, List.length_append, induction, List.countP_cons, Nat.add_comm]
      congr 1
      unfold Call.refusals Call.isRefused
      cases call.verdict <;> rfl

theorem length_flatMap_warnings (made : List Call) :
    (made.flatMap Call.warnings).length =
      ((made.flatMap Call.rows).map fun row => (Plan.rowLabels row).length).sum := by
  induction made with
  | nil => rfl
  | cons call made induction =>
      rw [List.flatMap_cons, List.length_append, induction, List.flatMap_cons, List.map_append,
        List.sum_append, Call.warnings, List.length_map, List.length_flatMap]

/-- The status grows by one for each refusal and for each label of each row. -/
theorem status_withCalls (report : Report) (made : List Call) :
    (withCalls report made).status =
      report.status + made.countP Call.isRefused +
        ((made.flatMap Call.rows).map fun row => (Plan.rowLabels row).length).sum := by
  have refused := length_flatMap_refusals made
  have warned := length_flatMap_warnings made
  simp only [Report.status, withCalls, List.length_append]
  omega

/--
The account of an audit.  With a planner that answers every call, in whatever way, an audit asks
each query once and in order, and ends with the report that has the entries of all calls at its
end: the refusals in the order of the calls, and the warnings in the order of the calls, of the
rows of a plan, and of the labels of a row.  The status grows by the number of refused queries and
by the number of labels of all rows; and going on with more statements and the same report comes
to the same as an audit of all statements together.
-/
theorem explain_accounts_for_calls
    (Breakdown : Type)
    (verdict : Nat → Text → Verdict)
    (registry : Registry)
    (selects : List CollectedSelect)
    (report : Report)
    (asked : List Text) :
    let made := calls verdict registry asked.length selects
    let final := withCalls report made
    let record := asked ++ selects.map (queryOf registry)
    explain (numbered Breakdown verdict) registry selects report asked = (.ok final, record) ∧
      final.status =
        report.status + made.countP Call.isRefused +
          ((made.flatMap Call.rows).map fun row => (Plan.rowLabels row).length).sum ∧
      ∀ more,
        explain (numbered Breakdown verdict) registry (selects ++ more) report asked =
          explain (numbered Breakdown verdict) registry more final record := by
  have account := explain_numbered Breakdown verdict registry selects report asked
  refine ⟨account, status_withCalls report _, fun more => ?_⟩
  rw [explain_append, account]

end ProcedureAudit.Audit
