import CoachingApi.Library.CompositeKeys
import CoachingApi.Library.Revisions
import CoachingApi.Materials.StorageService

/-!
# The keys of uploads

A key tells its folder, its millisecond and its file's name as far as the replacement keeps
it, and nothing of who asked for it. The keys issued to any sequence of requests are
therefore distinct exactly as long as no two answered requests in one folder fall in one
millisecond with names that are alike: equal but for characters that are not kept, each of
which reads as an underscore. Objects put under distinct keys are not overwritten.
-/

namespace CoachingApi

open StorageService CompositeKeys

/-- A request for an upload: who makes it, for which file and folder, when, and what the
vendor's client answers. -/
structure UploadCall where
  tenantId : String
  userId : String
  filename : List UInt16
  folder : String := "materials"
  now : Int
  presign : PutObjectCommand → Nat → Except Thrown String

namespace UploadKeys

/-- The key of a request. -/
def keyOf (call : UploadCall) : String := fileKeyOf call.folder call.now call.filename

/-- The answer to a request. -/
def uploadOf (cfg : CdnConfig) (call : UploadCall) : Except Thrown SignedUpload :=
  createSignedUpload cfg call.presign call.now call.filename call.folder

/-- The keys issued to a sequence of requests. -/
def issuedKeys (cfg : CdnConfig) (calls : List UploadCall) : List String :=
  calls.filterMap (fun call => (uploadOf cfg call).toOption.map SignedUpload.fileKey)

/-- A key in a folder: the folder, one slash and a name of kept characters, none of which is a
further slash. -/
def Formed (folder key : String) : Prop :=
  ∃ name : String, key = folder ++ "/" ++ name ∧ '/' ∉ name.toList ∧
    ∀ char ∈ name.toList, keptChar char = true

/-- Requests whose issued keys are distinct, each of them in the request's folder. -/
structure KeysApart (cfg : CdnConfig) (calls : List UploadCall) : Prop where
  distinct : (issuedKeys cfg calls).Nodup
  formed : ∀ call ∈ calls, ∀ upload, uploadOf cfg call = .ok upload →
    Formed call.folder upload.fileKey

/-- A code unit that reads as an underscore in a key: the underscore, or one not kept. -/
def Blank (unit : UInt16) : Prop :=
  keptChar (Char.ofNat unit.toNat) = false ∨ Char.ofNat unit.toNat = '_'

/-- Whether a code unit reads as an underscore can be tested. -/
instance decidableBlank (unit : UInt16) : Decidable (Blank unit) :=
  inferInstanceAs (Decidable (_ ∨ _))

/-- File names that are equal but for code units that read as underscores. -/
def Alike (first second : List UInt16) : Prop :=
  List.Forall₂ (fun one other => one = other ∨ (Blank one ∧ Blank other)) first second

/-- Whether file names are alike can be tested. -/
instance decidableAlike (first second : List UInt16) : Decidable (Alike first second) :=
  inferInstanceAs (Decidable (List.Forall₂ _ first second))

/-- Two requests that are answered, in one folder, in one millisecond and for file names that
are alike. -/
structure Clash (cfg : CdnConfig) (first second : UploadCall) : Prop where
  answered : answers cfg first.presign (keyOf first) = true
  otherAnswered : answers cfg second.presign (keyOf second) = true
  folder : first.folder = second.folder
  now : first.now = second.now
  alike : Alike first.filename second.filename

/-- Whether two requests clash can be tested. -/
instance decidableClash (cfg : CdnConfig) (first second : UploadCall) :
    Decidable (Clash cfg first second) :=
  decidable_of_iff
    (answers cfg first.presign (keyOf first) = true ∧
      answers cfg second.presign (keyOf second) = true ∧ first.folder = second.folder ∧
      first.now = second.now ∧ Alike first.filename second.filename)
    ⟨fun ⟨answered, otherAnswered, folder, now, alike⟩ =>
        ⟨answered, otherAnswered, folder, now, alike⟩,
      fun clash => ⟨clash.answered, clash.otherAnswered, clash.folder, clash.now, clash.alike⟩⟩

/-- A kept code unit is the number of its character. -/
theorem kept_number {unit : UInt16} (kept : keptChar (Char.ofNat unit.toNat) = true) :
    (Char.ofNat unit.toNat).toNat = unit.toNat := by
  by_cases valid : unit.toNat.isValidChar
  · rw [Char.ofNat, dif_pos valid]
    rfl
  · rw [Char.ofNat, dif_neg valid] at kept
    exact absurd kept (by decide)

/-- A code unit reads as an underscore exactly when it is blank. -/
theorem safe_char_blank {unit : UInt16} : safeChar unit = '_' ↔ Blank unit := by
  unfold safeChar Blank
  cases kept : keptChar (Char.ofNat unit.toNat) with
  | false => simp
  | true => simp

/-- Two code units read alike exactly when they are equal or both blank. -/
theorem safe_char_iff {one other : UInt16} :
    safeChar one = safeChar other ↔ one = other ∨ (Blank one ∧ Blank other) := by
  have reads {unit : UInt16} (filled : ¬ Blank unit) :
      safeChar unit = Char.ofNat unit.toNat ∧ keptChar (Char.ofNat unit.toNat) = true := by
    simp only [Blank, not_or, Bool.not_eq_false] at filled
    exact ⟨if_pos filled.1, filled.1⟩
  constructor
  · intro same
    by_cases blank : Blank one
    · refine .inr ⟨blank, safe_char_blank.mp ?_⟩
      rw [← same, safe_char_blank.mpr blank]
    · have filled : ¬ Blank other := by
        rw [← safe_char_blank, ← same, safe_char_blank]
        exact blank
      rw [(reads blank).1, (reads filled).1] at same
      have numbers := congrArg Char.toNat same
      rw [kept_number (reads blank).2, kept_number (reads filled).2] at numbers
      exact .inl (UInt16.toNat_inj.mp numbers)
  · rintro (rfl | ⟨blank, otherBlank⟩)
    · rfl
    · rw [safe_char_blank.mpr blank, safe_char_blank.mpr otherBlank]

/-- Every character of a name after the replacement is kept. -/
theorem safe_char_kept (unit : UInt16) : keptChar (safeChar unit) = true := by
  unfold safeChar
  split
  · assumption
  · decide

/-- The name in a request's key. -/
def nameOf (call : UploadCall) : List Char :=
  (toString call.now).toList ++ '_' :: call.filename.map safeChar

/-- A key is its folder and its name, joined by a slash. -/
theorem key_joined (call : UploadCall) :
    (keyOf call).toList = call.folder.toList ++ '/' :: nameOf call := by
  simp [keyOf, fileKeyOf, safeName, nameOf]

/-- The characters of a name in a key are kept. -/
theorem name_kept {call : UploadCall} {char : Char} (member : char ∈ nameOf call) :
    keptChar char = true := by
  rcases List.mem_append.mp member with printed | later
  · rcases printed_mem printed with digit | rfl
    · simp [keptChar, Char.isAlphanum, digit]
    · decide
  · rcases List.mem_cons.mp later with rfl | safe
    · decide
    · obtain ⟨unit, _, rfl⟩ := List.mem_map.mp safe
      exact safe_char_kept unit

/-- A name in a key has no slash. -/
theorem slash_no_name (call : UploadCall) : '/' ∉ nameOf call := by
  intro member
  have kept := name_kept member
  revert kept
  decide

/-- A printed time has no underscore. -/
theorem underscore_no_time (now : Int) : '_' ∉ (toString now).toList := by
  intro member
  rcases printed_mem member with digit | sign
  · revert digit
    decide
  · cases sign

/-- Two requests have one key exactly when they are in one folder, in one millisecond and for
file names that are alike. -/
theorem key_same_iff {first second : UploadCall} :
    keyOf first = keyOf second ↔ first.folder = second.folder ∧ first.now = second.now ∧
      Alike first.filename second.filename := by
  have names : nameOf first = nameOf second ↔
      first.now = second.now ∧ Alike first.filename second.filename := by
    rw [nameOf, nameOf,
      joined_first_iff (underscore_no_time first.now) (underscore_no_time second.now), printed_inj,
      Records.same_reading_iff]
    simp only [safe_char_iff, Alike]
  rw [← String.toList_inj, key_joined, key_joined,
    joined_last_iff (slash_no_name first) (slash_no_name second), String.toList_inj, names]

/-- The key of a request is formed in its folder. -/
theorem key_formed (call : UploadCall) : Formed call.folder (keyOf call) := by
  refine ⟨String.ofList (nameOf call), ?_, ?_, ?_⟩
  · rw [← String.toList_inj, key_joined]
    simp
  · simpa using slash_no_name call
  · intro char member
    rw [String.toList_ofList] at member
    exact name_kept member

/-- An answered request is issued its key, and another one none. -/
theorem issued_key (cfg : CdnConfig) (call : UploadCall) :
    (uploadOf cfg call).toOption.map SignedUpload.fileKey =
      if answers cfg call.presign (keyOf call) then some (keyOf call) else none :=
  signed_upload_key cfg call.presign call.now call.filename call.folder

/-- What a bucket holds after objects have been put under keys one after the other. -/
def bucketAfter {β : Type} (puts : List (String × β)) : String → Option β :=
  Revisions.assignAll (fun _ => none) puts

/-- Once an object has been put under every key issued to requests whose keys are distinct, in
any order, each key holds its own object. -/
theorem uploads_kept {β : Type} {cfg : CdnConfig} {calls : List UploadCall}
    (apart : KeysApart cfg calls) {puts : List (String × β)}
    (once : (puts.map Prod.fst).Perm (issuedKeys cfg calls)) :
    ∀ put ∈ puts, bucketAfter puts put.1 = some put.2 := by
  intro put member
  have distinct : (puts.map Prod.fst).Nodup := once.nodup_iff.mpr apart.distinct
  rw [bucketAfter, Revisions.assign_all_read, Revisions.last_under_distinct distinct member]
  rfl

/-- For every sequence of requests, by any users of any tenants, for any file names in any
folders at any times: the keys issued are pairwise distinct and each is its request's folder,
one slash and a name of kept characters if and only if no two requests of the sequence clash.
Objects put under such keys do not overwrite each other.

Proof: a slash is in no name and an underscore in no time, so a key determines its folder,
its time and its file's name after the replacement. The replacement makes two names the same
exactly when they are alike. -/
theorem upload_keys_apart (cfg : CdnConfig) (calls : List UploadCall) :
    (KeysApart cfg calls ↔ calls.Pairwise (fun first second => ¬ Clash cfg first second)) ∧
    (KeysApart cfg calls → ∀ {β : Type} (puts : List (String × β)),
      (puts.map Prod.fst).Perm (issuedKeys cfg calls) →
        ∀ put ∈ puts, bucketAfter puts put.1 = some put.2) := by
  have issued (call : UploadCall) (key : String) :
      (uploadOf cfg call).toOption.map SignedUpload.fileKey = some key ↔
        answers cfg call.presign (keyOf call) = true ∧ keyOf call = key := by
    rw [issued_key]
    split <;> simp_all
  have distinct : (issuedKeys cfg calls).Nodup ↔
      calls.Pairwise (fun first second => ¬ Clash cfg first second) := by
    rw [issuedKeys, List.Nodup, List.pairwise_filterMap]
    refine List.Pairwise.iff (fun first second => ?_)
    constructor
    · intro apart clash
      refine apart _ ((issued first _).mpr ⟨clash.answered, rfl⟩) _
        ((issued second _).mpr ⟨clash.otherAnswered, rfl⟩) ?_
      exact key_same_iff.mpr ⟨clash.folder, clash.now, clash.alike⟩
    · rintro apart key keyed other otherKeyed rfl
      obtain ⟨answered, rfl⟩ := (issued first _).mp keyed
      obtain ⟨otherAnswered, same⟩ := (issued second _).mp otherKeyed
      obtain ⟨folder, now, alike⟩ := key_same_iff.mp same.symm
      exact apart ⟨answered, otherAnswered, folder, now, alike⟩
  refine ⟨⟨fun apart => distinct.mp apart.distinct, fun apart => ⟨distinct.mpr apart, ?_⟩⟩,
    fun apart _ _ once => uploads_kept apart once⟩
  intro call _ upload signed
  have keyed : (uploadOf cfg call).toOption.map SignedUpload.fileKey = some upload.fileKey := by
    rw [signed]
    rfl
  rw [← ((issued call _).mp keyed).2]
  exact key_formed call

/-- A storage account. -/
def account : CdnConfig where
  endpoint := some "https://storage.test"
  bucket := some "materials"
  accessKeyId := some "key"
  secretAccessKey := some "secret"

/-- A request at a time, by a teacher of a tenant, that the vendor's client signs. -/
def requestOf (tenantId filename : String) (now : Int) : UploadCall where
  tenantId := tenantId
  userId := "teacher"
  filename := codeUnits filename
  now := now
  presign := fun command _ => .ok ("https://storage.test/" ++ command.key)

/-- Requests of two tenants in one millisecond, for file names that differ in a character that
is not kept, are issued one key. -/
theorem upload_keys_collide :
    ¬ KeysApart account [requestOf "bright" "unit 1.pdf" 1700000000000,
      requestOf "summit" "unit_1.pdf" 1700000000000] := by
  intro apart
  have distinct := apart.distinct
  revert distinct
  decide +kernel

end UploadKeys

end CoachingApi
