import CoachingApi.Common.Queries
import CoachingApi.Common.ValidationPipe
import CoachingApi.Materials.StorageService
import CoachingApi.Schemas.Outreach

/-!
# Study materials

A material is created for a batch with the keys that its upload was given, and deleted without
touching the file. The signing of uploads stands with the storage service.
-/

namespace CoachingApi

open TenantContextStore TenantPlugin

/-- The body of a material's creation. -/
structure CreateMaterialDto where
  batchId : MongoId
  title : String
  type : MaterialType
  fileUrl : String
  cdnUrl : Option String := none

namespace MaterialsService

/-- `list`, the newest first. Creation times are taken to grow with the order of creation. -/
def list (ambient : Ambient) (batchId : Option String) (campus : Campus) :
    Except Thrown (List Material) :=
  match queryId batchId with
  | .error thrown => .error thrown
  | .ok target =>
    (TenantModel.find ambient
      (fun material => decide (∀ id ∈ target, material.batchId = id)) campus.materials).map
        List.reverse

/-- The material that a body asks for. -/
def createdMaterial (generated uploader : ObjectId) (dto : CreateMaterialDto) : Material :=
  { id := generated, batchId := dto.batchId.id, title := dto.title, type := dto.type,
    fileUrl := dto.fileUrl, cdnUrl := dto.cdnUrl, uploadedBy := uploader }

/-- `create`. -/
def create (ambient : Ambient) (generated : ObjectId) (uploadedBy : String)
    (dto : CreateMaterialDto) (campus : Campus) : Campus × Except Thrown Material :=
  match newObjectId uploadedBy with
  | .error thrown => (campus, .error thrown)
  | .ok uploader =>
    match TenantModel.create ambient (createdMaterial generated uploader dto) campus.materials with
    | .error thrown => (campus, .error thrown)
    | .ok (material, materials) => ({ campus with materials := materials }, .ok material)

/-- `remove`. -/
def remove (ambient : Ambient) (id : String) (campus : Campus) : Campus × Except Thrown Unit :=
  match TenantModel.deleteByText ambient id campus.materials with
  | .error thrown => (campus, .error thrown)
  | .ok (false, _) => (campus, .error (.notFound "Material not found"))
  | .ok (true, materials) => ({ campus with materials := materials }, .ok ())

end MaterialsService

end CoachingApi
