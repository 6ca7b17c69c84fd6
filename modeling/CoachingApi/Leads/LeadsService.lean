import CoachingApi.Common.Queries
import CoachingApi.Common.ValidationPipe
import CoachingApi.Schemas.Outreach

/-!
# Prospective admissions

A lead is changed by updates in place: its status and whom it is assigned to are set, and a
note is pushed at the end of its notes. No validator runs on either. A status in a query that
is none of the schema's matches no lead.
-/

namespace CoachingApi

open TenantContextStore TenantPlugin

/-- The body of a lead's creation. -/
structure CreateLeadDto where
  name : String
  phone : String
  source : Option String := none
  assignedTo : Option MongoId := none

/-- The body of a change of a lead. -/
structure UpdateLeadDto where
  status : Option LeadStatus := none
  assignedTo : Option MongoId := none

namespace LeadsService

/-- `list`, the newest first. Creation times are taken to grow with the order of creation. -/
def list (ambient : Ambient) (status : Option String) (campus : Campus) :
    Except Thrown (List Lead) :=
  (TenantModel.find ambient
    (fun lead => decide (∀ given ∈ present status, lead.status.value = given))
    campus.leads).map List.reverse

/-- The lead that a body asks for. -/
def createdLead (generated : ObjectId) (dto : CreateLeadDto) : Lead :=
  { id := generated, name := dto.name, phone := dto.phone, source := dto.source,
    assignedTo := dto.assignedTo.map MongoId.id }

/-- `create`. -/
def create (ambient : Ambient) (generated : ObjectId) (dto : CreateLeadDto) (campus : Campus) :
    Campus × Except Thrown Lead :=
  match TenantModel.create ambient (createdLead generated dto) campus.leads with
  | .error thrown => (campus, .error thrown)
  | .ok (lead, leads) => ({ campus with leads := leads }, .ok lead)

/-- The change that a body asks for. -/
def changeLead (dto : UpdateLeadDto) (lead : Lead) : Lead :=
  { lead with
    status := dto.status.getD lead.status
    assignedTo := (dto.assignedTo.map MongoId.id).or lead.assignedTo }

/-- What the updates in place share: the lead under a text is changed. -/
def updateLead (ambient : Ambient) (id : String) (change : Lead → Lead) (campus : Campus) :
    Campus × Except Thrown Lead :=
  match TenantModel.findByTextAndUpdate ambient id change campus.leads with
  | .error thrown => (campus, .error thrown)
  | .ok (none, _) => (campus, .error (.notFound "Lead not found"))
  | .ok (some lead, leads) => ({ campus with leads := leads }, .ok lead)

/-- `update`. -/
def update (ambient : Ambient) (id : String) (dto : UpdateLeadDto) (campus : Campus) :
    Campus × Except Thrown Lead :=
  updateLead ambient id (changeLead dto) campus

/-- `$push` of a note. -/
def pushNote (note : LeadNote) (lead : Lead) : Lead := { lead with notes := lead.notes ++ [note] }

/-- `addNote`: the author's identity is made before the lead is looked up. -/
def addNote (ambient : Ambient) (now : Int) (id text by_ : String) (campus : Campus) :
    Campus × Except Thrown Lead :=
  match newObjectId by_ with
  | .error thrown => (campus, .error thrown)
  | .ok author =>
    updateLead ambient id (pushNote { text := text, at_ := now, by_ := some author }) campus

end LeadsService

end CoachingApi
