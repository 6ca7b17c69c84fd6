import CoachingApi.Common.TenantSeparation
import CoachingApi.Surfaces.TenantApi

/-!
# The part of an institute

What the tenant surface serves from is partitioned by institute: the part of one holds its own
entry, its own rows of every collection, the entries of the audit trail about it, and what was
handed to the push service for its notifications. A collection is a list of rows with a place in
the whole. A call on its rows that is apart for a tenant is apart for that tenant's institute
when it is made on the whole.
-/

namespace CoachingApi

open TenantModel Partitions

namespace Campus

/-- What is an institute's. -/
def part (tenant : String) (campus : Campus) : Campus where
  database :=
    { tenants := campus.database.tenants.filter (fun entry => decide (entry.id.hex = tenant))
      users := ownRows tenant campus.database.users
      students := ownRows tenant campus.database.students
      batches := ownRows tenant campus.database.batches
      plans := ownRows tenant campus.database.plans
      invoices := ownRows tenant campus.database.invoices
      payments := ownRows tenant campus.database.payments
      notifications := ownRows tenant campus.database.notifications
      auditLogs := campus.database.auditLogs.filter
        (fun entry => decide (entry.targetTenantId = some tenant))
      assignments := ownRows tenant campus.database.assignments
      submissions := ownRows tenant campus.database.submissions
      tests := ownRows tenant campus.database.tests
      scores := ownRows tenant campus.database.scores
      attendance := ownRows tenant campus.database.attendance
      pushes := campus.database.pushes.filter (fun push => decide (push.tenantId = tenant)) }
  leads := ownRows tenant campus.leads
  materials := ownRows tenant campus.materials

/-- The tenants and identities of the records of a table. -/
def named {α : Type} [TenantModel α] (rows : List α) : List (String × ObjectId) :=
  rows.map (fun record => (tenantId record, TenantModel.id record))

/-- The tenants and identities of all records. -/
def identities (campus : Campus) : List (String × ObjectId) :=
  named campus.database.users ++ named campus.database.students ++
    named campus.database.batches ++ named campus.database.plans ++
    named campus.database.invoices ++ named campus.database.payments ++
    named campus.database.notifications ++ named campus.database.assignments ++
    named campus.database.submissions ++ named campus.database.tests ++
    named campus.database.scores ++ named campus.database.attendance ++
    named campus.leads ++ named campus.materials

/-- No record of another tenant has an identity. -/
def Free (tenant : String) (generated : ObjectId) (campus : Campus) : Prop :=
  ∀ entry ∈ campus.identities, entry.1 ≠ tenant → entry.2 ≠ generated

/-- The records of each collection have distinct identities, as the index of `_id` keeps them. -/
structure Identified (campus : Campus) : Prop where
  users : Records.Distinct TenantModel.id campus.database.users
  students : Records.Distinct TenantModel.id campus.database.students
  batches : Records.Distinct TenantModel.id campus.database.batches
  plans : Records.Distinct TenantModel.id campus.database.plans
  invoices : Records.Distinct TenantModel.id campus.database.invoices
  payments : Records.Distinct TenantModel.id campus.database.payments
  notifications : Records.Distinct TenantModel.id campus.database.notifications
  assignments : Records.Distinct TenantModel.id campus.database.assignments
  submissions : Records.Distinct TenantModel.id campus.database.submissions
  tests : Records.Distinct TenantModel.id campus.database.tests
  scores : Records.Distinct TenantModel.id campus.database.scores
  attendance : Records.Distinct TenantModel.id campus.database.attendance
  leads : Records.Distinct TenantModel.id campus.leads
  materials : Records.Distinct TenantModel.id campus.materials

/-- The entries of a table's own rows are those of the table that name the tenant. -/
theorem named_own {α : Type} [TenantModel α] (tenant : String) (rows : List α) :
    named (ownRows tenant rows) =
      (named rows).filter (fun entry => decide (entry.1 = tenant)) := by
  rw [named, ownRows, named, List.filter_map]
  rfl

/-- The entries of a part are those of the whole that name its institute. -/
theorem identities_part (tenant : String) (campus : Campus) :
    (campus.part tenant).identities =
      campus.identities.filter (fun entry => decide (entry.1 = tenant)) := by
  simp only [identities, part, named_own, List.filter_append]

/-- An identity that is free stays free while the parts of the others stay as they are. -/
theorem free_kept {tenant : String} {generated : ObjectId} {before after : Campus}
    (free : Free tenant generated before)
    (others : ∀ other, other ≠ tenant → after.part other = before.part other) :
    Free tenant generated after := by
  intro entry stored foreign
  have kept : entry ∈ (after.part entry.1).identities := by
    rw [identities_part]
    exact List.mem_filter.mpr ⟨stored, decide_eq_true rfl⟩
  rw [others entry.1 foreign, identities_part] at kept
  exact free entry (List.mem_filter.mp kept).1 foreign

end Campus

/-- A collection of tenant-scoped rows, and its place in the whole. -/
structure Collection (α : Type) [TenantModel α] where
  rows : Campus → List α
  put : List α → Campus → Campus
  rows_part : ∀ tenant campus, rows (campus.part tenant) = ownRows tenant (rows campus)
  part_put : ∀ tenant table campus,
    (put table campus).part tenant = put (ownRows tenant table) (campus.part tenant)
  put_rows : ∀ campus, put (rows campus) campus = campus
  named : ∀ campus entry, entry ∈ Campus.named (rows campus) → entry ∈ campus.identities
  ids : ∀ campus, campus.Identified → Records.Distinct TenantModel.id (rows campus)
  identified : ∀ table campus, campus.Identified → Records.Distinct TenantModel.id table →
    (put table campus).Identified

namespace Collection

variable {α β : Type} [TenantModel α] (collection : Collection α)

/-- A call on the rows of a collection, made on the whole. -/
def on (call : Call (List α) Thrown β) : Call Campus Thrown β := fun campus =>
  (collection.put (call (collection.rows campus)).1 campus, (call (collection.rows campus)).2)

/-- An operation on the rows of a collection, made on the whole. -/
def write (operation : List α → Except Thrown (β × List α)) : Call Campus Thrown β :=
  collection.on (attempt operation)

variable {collection} {tenant : String} {campus : Campus}

/-- What a write leaves and answers. -/
theorem write_eq (operation : List α → Except Thrown (β × List α)) (campus : Campus) :
    collection.write operation campus =
      match operation (collection.rows campus) with
      | .error thrown => (campus, .error thrown)
      | .ok (answer, table) => (collection.put table campus, .ok answer) := by
  unfold write on attempt
  cases operation (collection.rows campus) with
  | error thrown => rw [collection.put_rows]
  | ok ended => rfl

/-- A free identity is fresh in every collection. -/
theorem fresh (collection : Collection α) {generated : ObjectId} (free : campus.Free tenant generated) :
    FreshFor tenant generated (collection.rows campus) := by
  intro record stored foreign
  exact free (tenantId record, TenantModel.id record)
    (collection.named campus _ (List.mem_map_of_mem stored)) foreign

/-- A call on the rows that is apart is apart on the whole. -/
theorem on_apart (identified : campus.Identified) {call : Call (List α) Thrown β}
    (apart : Apart ownRows (Records.Distinct TenantModel.id) tenant (collection.rows campus) call) :
    Apart Campus.part Campus.Identified tenant campus (collection.on call) where
  own := by simp only [on, collection.rows_part, apart.own, collection.part_put]
  others := by
    intro other different
    simp only [on, collection.part_put, apart.others other different, ← collection.rows_part,
      collection.put_rows]
  kept := collection.identified _ _ identified apart.kept

/-- A write that is apart on the rows is apart on the whole. -/
theorem write_apart (identified : campus.Identified)
    {operation : List α → Except Thrown (β × List α)}
    (apart : RowsApart tenant (collection.rows campus) operation) :
    Apart Campus.part Campus.Identified tenant campus (collection.write operation) :=
  on_apart identified (apart.attempt (collection.ids campus identified))

/-- The users. -/
def users : Collection User where
  rows := fun campus => campus.database.users
  put := fun table campus => { campus with database := { campus.database with users := table } }
  rows_part := fun _ _ => rfl
  part_put := fun _ _ _ => rfl
  put_rows := fun _ => rfl
  named := fun campus entry member => by simp [Campus.identities, member]
  ids := fun _ identified => identified.users
  identified := fun _ _ identified distinct => { identified with users := distinct }

/-- The students. -/
def students : Collection Student where
  rows := fun campus => campus.database.students
  put := fun table campus => { campus with database := { campus.database with students := table } }
  rows_part := fun _ _ => rfl
  part_put := fun _ _ _ => rfl
  put_rows := fun _ => rfl
  named := fun campus entry member => by simp [Campus.identities, member]
  ids := fun _ identified => identified.students
  identified := fun _ _ identified distinct => { identified with students := distinct }

/-- The batches. -/
def batches : Collection Batch where
  rows := fun campus => campus.database.batches
  put := fun table campus => { campus with database := { campus.database with batches := table } }
  rows_part := fun _ _ => rfl
  part_put := fun _ _ _ => rfl
  put_rows := fun _ => rfl
  named := fun campus entry member => by simp [Campus.identities, member]
  ids := fun _ identified => identified.batches
  identified := fun _ _ identified distinct => { identified with batches := distinct }

/-- The fee plans. -/
def plans : Collection FeePlan where
  rows := fun campus => campus.database.plans
  put := fun table campus => { campus with database := { campus.database with plans := table } }
  rows_part := fun _ _ => rfl
  part_put := fun _ _ _ => rfl
  put_rows := fun _ => rfl
  named := fun campus entry member => by simp [Campus.identities, member]
  ids := fun _ identified => identified.plans
  identified := fun _ _ identified distinct => { identified with plans := distinct }

/-- The invoices. -/
def invoices : Collection FeeInvoice where
  rows := fun campus => campus.database.invoices
  put := fun table campus => { campus with database := { campus.database with invoices := table } }
  rows_part := fun _ _ => rfl
  part_put := fun _ _ _ => rfl
  put_rows := fun _ => rfl
  named := fun campus entry member => by simp [Campus.identities, member]
  ids := fun _ identified => identified.invoices
  identified := fun _ _ identified distinct => { identified with invoices := distinct }

/-- The payments. -/
def payments : Collection Payment where
  rows := fun campus => campus.database.payments
  put := fun table campus => { campus with database := { campus.database with payments := table } }
  rows_part := fun _ _ => rfl
  part_put := fun _ _ _ => rfl
  put_rows := fun _ => rfl
  named := fun campus entry member => by simp [Campus.identities, member]
  ids := fun _ identified => identified.payments
  identified := fun _ _ identified distinct => { identified with payments := distinct }

/-- The notifications. -/
def notifications : Collection Notification where
  rows := fun campus => campus.database.notifications
  put := fun table campus => { campus with database := { campus.database with notifications := table } }
  rows_part := fun _ _ => rfl
  part_put := fun _ _ _ => rfl
  put_rows := fun _ => rfl
  named := fun campus entry member => by simp [Campus.identities, member]
  ids := fun _ identified => identified.notifications
  identified := fun _ _ identified distinct => { identified with notifications := distinct }

/-- The assignments. -/
def assignments : Collection Assignment where
  rows := fun campus => campus.database.assignments
  put := fun table campus => { campus with database := { campus.database with assignments := table } }
  rows_part := fun _ _ => rfl
  part_put := fun _ _ _ => rfl
  put_rows := fun _ => rfl
  named := fun campus entry member => by simp [Campus.identities, member]
  ids := fun _ identified => identified.assignments
  identified := fun _ _ identified distinct => { identified with assignments := distinct }

/-- The submissions. -/
def submissions : Collection Submission where
  rows := fun campus => campus.database.submissions
  put := fun table campus => { campus with database := { campus.database with submissions := table } }
  rows_part := fun _ _ => rfl
  part_put := fun _ _ _ => rfl
  put_rows := fun _ => rfl
  named := fun campus entry member => by simp [Campus.identities, member]
  ids := fun _ identified => identified.submissions
  identified := fun _ _ identified distinct => { identified with submissions := distinct }

/-- The tests. -/
def tests : Collection Test where
  rows := fun campus => campus.database.tests
  put := fun table campus => { campus with database := { campus.database with tests := table } }
  rows_part := fun _ _ => rfl
  part_put := fun _ _ _ => rfl
  put_rows := fun _ => rfl
  named := fun campus entry member => by simp [Campus.identities, member]
  ids := fun _ identified => identified.tests
  identified := fun _ _ identified distinct => { identified with tests := distinct }

/-- The scores. -/
def scores : Collection TestScore where
  rows := fun campus => campus.database.scores
  put := fun table campus => { campus with database := { campus.database with scores := table } }
  rows_part := fun _ _ => rfl
  part_put := fun _ _ _ => rfl
  put_rows := fun _ => rfl
  named := fun campus entry member => by simp [Campus.identities, member]
  ids := fun _ identified => identified.scores
  identified := fun _ _ identified distinct => { identified with scores := distinct }

/-- The attendance records. -/
def attendance : Collection Attendance where
  rows := fun campus => campus.database.attendance
  put := fun table campus => { campus with database := { campus.database with attendance := table } }
  rows_part := fun _ _ => rfl
  part_put := fun _ _ _ => rfl
  put_rows := fun _ => rfl
  named := fun campus entry member => by simp [Campus.identities, member]
  ids := fun _ identified => identified.attendance
  identified := fun _ _ identified distinct => { identified with attendance := distinct }

/-- The leads. -/
def leads : Collection Lead where
  rows := fun campus => campus.leads
  put := fun table campus => { campus with leads := table }
  rows_part := fun _ _ => rfl
  part_put := fun _ _ _ => rfl
  put_rows := fun _ => rfl
  named := fun campus entry member => by simp [Campus.identities, member]
  ids := fun _ identified => identified.leads
  identified := fun _ _ identified distinct => { identified with leads := distinct }

/-- The materials. -/
def materials : Collection Material where
  rows := fun campus => campus.materials
  put := fun table campus => { campus with materials := table }
  rows_part := fun _ _ => rfl
  part_put := fun _ _ _ => rfl
  put_rows := fun _ => rfl
  named := fun campus entry member => by simp [Campus.identities, member]
  ids := fun _ identified => identified.materials
  identified := fun _ _ identified distinct => { identified with materials := distinct }

end Collection

end CoachingApi
