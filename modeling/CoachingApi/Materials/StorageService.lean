import CoachingApi.Common.TenantModel

/-!
# Signed uploads

With a storage account configured an upload's address is signed by the storage vendor's
client, which may fail; without one a stub address is made up. Either way the object's key
is made of the folder, the time in milliseconds and the file's name with every character
that is not kept replaced. File names are texts as the runtime holds them, UTF-16 code
units; the replacement goes through them one by one.
-/

namespace CoachingApi

/-- The storage account. -/
structure CdnConfig where
  endpoint : Option String := none
  bucket : Option String := none
  accessKeyId : Option String := none
  secretAccessKey : Option String := none
  publicBaseUrl : Option String := none
  deriving DecidableEq

namespace CdnConfig

/-- A setting that is there and not empty. -/
def configured (setting : Option String) : Bool := decide (setting.getD "" ≠ "")

/-- Whether an account is configured. -/
def enabled (cfg : CdnConfig) : Bool :=
  configured cfg.endpoint && configured cfg.bucket && configured cfg.accessKeyId &&
    configured cfg.secretAccessKey

end CdnConfig

/-- What the vendor's client is asked to sign. -/
structure PutObjectCommand where
  bucket : Option String
  key : String
  deriving DecidableEq

/-- An answer to a request for an upload. -/
structure SignedUpload where
  uploadUrl : String
  fileKey : String
  cdnUrl : String
  deriving DecidableEq

/-- The UTF-16 code units of a text. -/
def codeUnits (text : String) : List UInt16 :=
  text.toList.flatMap (fun char =>
    if char.toNat < 0x10000 then [char.toNat.toUInt16]
    else [(0xD800 + (char.toNat - 0x10000) / 0x400).toUInt16,
      (0xDC00 + (char.toNat - 0x10000) % 0x400).toUInt16])

namespace StorageService

/-- The characters `[a-zA-Z0-9._-]` of a file's name. -/
def keptChar (char : Char) : Bool :=
  char.isAlphanum || decide (char = '.') || decide (char = '_') || decide (char = '-')

/-- A code unit of a file's name after the replacement. Half of a surrogate pair is no
character and reads as the null character here, which is not kept. -/
def safeChar (unit : UInt16) : Char :=
  if keptChar (Char.ofNat unit.toNat) then Char.ofNat unit.toNat else '_'

/-- `filename.replace(/[^a-zA-Z0-9._-]/g, '_')`. -/
def safeName (filename : List UInt16) : String := String.ofList (filename.map safeChar)

/-- The key of an upload. -/
def fileKeyOf (folder : String) (now : Int) (filename : List UInt16) : String :=
  folder ++ "/" ++ toString now ++ "_" ++ safeName filename

/-- A text without a slash at its end. -/
def withoutSlash (text : String) : String :=
  if text.toList.getLast? = some '/' then String.ofList text.toList.dropLast else text

/-- `cdnUrl`. -/
def cdnUrl (cfg : CdnConfig) (key : String) : String :=
  withoutSlash (cfg.publicBaseUrl.getD "https://cdn.stub.local") ++ "/" ++ key

/-- `createSignedUpload`, with the vendor's answer to a command and a time to expiry. -/
def createSignedUpload (cfg : CdnConfig) (presign : PutObjectCommand → Nat → Except Thrown String)
    (now : Int) (filename : List UInt16) (folder : String := "materials") :
    Except Thrown SignedUpload :=
  let fileKey := fileKeyOf folder now filename
  if cfg.enabled then
    match presign { bucket := cfg.bucket, key := fileKey } 900 with
    | .error thrown => .error thrown
    | .ok uploadUrl =>
      .ok { uploadUrl := uploadUrl, fileKey := fileKey, cdnUrl := cdnUrl cfg fileKey }
  else
    .ok
      { uploadUrl := "https://storage.stub.local/upload/" ++ fileKey ++ "?signature=stub"
        fileKey := fileKey
        cdnUrl := cdnUrl cfg fileKey }

/-- A request is answered without an account, or when the vendor signs. -/
def answers (cfg : CdnConfig) (presign : PutObjectCommand → Nat → Except Thrown String)
    (key : String) : Bool :=
  !cfg.enabled || (presign { bucket := cfg.bucket, key := key } 900).isOk

/-- The key in an answer is made of the folder, the time and the file's name. -/
theorem signed_upload_key (cfg : CdnConfig)
    (presign : PutObjectCommand → Nat → Except Thrown String) (now : Int)
    (filename : List UInt16) (folder : String) :
    (createSignedUpload cfg presign now filename folder).toOption.map SignedUpload.fileKey =
      if answers cfg presign (fileKeyOf folder now filename) then
        some (fileKeyOf folder now filename)
      else none := by
  cases account : cfg.enabled with
  | false => simp [createSignedUpload, answers, account, Except.toOption]
  | true =>
    cases signed : presign { bucket := cfg.bucket, key := fileKeyOf folder now filename } 900 with
    | error thrown =>
      simp [createSignedUpload, answers, account, signed, Except.toOption, Except.isOk,
        Except.toBool]
    | ok uploadUrl =>
      simp [createSignedUpload, answers, account, signed, Except.toOption, Except.isOk,
        Except.toBool]

end StorageService

namespace MaterialsService

/-- `createUploadUrl`. -/
def createUploadUrl (cfg : CdnConfig) (presign : PutObjectCommand → Nat → Except Thrown String)
    (now : Int) (filename : List UInt16) : Except Thrown SignedUpload :=
  StorageService.createSignedUpload cfg presign now filename "materials"

end MaterialsService

end CoachingApi
