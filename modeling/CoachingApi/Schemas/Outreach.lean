import CoachingApi.Schemas.Fees

/-!
# Leads, study materials and the tenant surface's collections

A lead is a prospective admission with its notes in the order they were taken. A material
names the file it stands for by its key and by the address clients fetch it from. Times of
creation order the listings and are not held: records are stored in the order of their
creation.
-/

namespace CoachingApi

/-- A note about a lead: what was said, when, and by whom. -/
structure LeadNote where
  text : String
  at_ : Int
  by_ : Option ObjectId := none
  deriving DecidableEq

/-- A prospective admission. -/
structure Lead where
  id : ObjectId
  tenantId : String := ""
  name : String
  phone : String
  source : Option String := none
  status : LeadStatus := .new
  notes : List LeadNote := []
  assignedTo : Option ObjectId := none
  deriving DecidableEq

instance : TenantModel Lead where
  modelName := "Lead"
  id := Lead.id
  tenantId := Lead.tenantId
  withTenantId := fun tenant lead => { lead with tenantId := tenant }
  clashes := fun _ _ => false
  refusedPath := fun lead =>
    firstRefused [(lead.name = "", "name"), (lead.phone = "", "phone"),
      (lead.notes.any (fun note => note.text = ""), "notes.text")]
  writeBack := fun loaded current stored =>
    { stored with
      tenantId := written loaded.tenantId current.tenantId stored.tenantId
      name := written loaded.name current.name stored.name
      phone := written loaded.phone current.phone stored.phone
      source := written loaded.source current.source stored.source
      status := written loaded.status current.status stored.status
      notes := written loaded.notes current.notes stored.notes
      assignedTo := written loaded.assignedTo current.assignedTo stored.assignedTo }
  with_tenant_id := fun _ _ => rfl
  with_tenant_same := fun _ => rfl
  with_tenant_keeps := fun _ _ => rfl
  write_back_keeps := fun _ _ _ => rfl

/-- A file that a batch studies from. -/
structure Material where
  id : ObjectId
  tenantId : String := ""
  batchId : ObjectId
  title : String
  type : MaterialType
  fileUrl : String
  cdnUrl : Option String := none
  uploadedBy : ObjectId
  deriving DecidableEq

instance : TenantModel Material where
  modelName := "Material"
  id := Material.id
  tenantId := Material.tenantId
  withTenantId := fun tenant material => { material with tenantId := tenant }
  clashes := fun _ _ => false
  refusedPath := fun material =>
    firstRefused [(material.title = "", "title"), (material.fileUrl = "", "fileUrl")]
  writeBack := fun loaded current stored =>
    { stored with
      tenantId := written loaded.tenantId current.tenantId stored.tenantId
      batchId := written loaded.batchId current.batchId stored.batchId
      title := written loaded.title current.title stored.title
      type := written loaded.type current.type stored.type
      fileUrl := written loaded.fileUrl current.fileUrl stored.fileUrl
      cdnUrl := written loaded.cdnUrl current.cdnUrl stored.cdnUrl
      uploadedBy := written loaded.uploadedBy current.uploadedBy stored.uploadedBy }
  with_tenant_id := fun _ _ => rfl
  with_tenant_same := fun _ => rfl
  with_tenant_keeps := fun _ _ => rfl
  write_back_keeps := fun _ _ _ => rfl

/-- Everything the tenant surface serves from. -/
structure Campus where
  database : Database := {}
  leads : List Lead := []
  materials : List Material := []

end CoachingApi
