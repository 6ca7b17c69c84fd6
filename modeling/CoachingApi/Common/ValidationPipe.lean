import CoachingApi.Common.TenantModel
import CoachingApi.Library.Text

/-!
# Request bodies and the global validation pipe

A body is a JSON value; a number is held as it prints. The pipe validates a body when the
handler's parameter has a class for its metatype, whose properties are all texts here: their
values are first converted to texts, then keys that the class does not declare are refused,
then the validators of each property run. A parameter of an intersection type has the
metatype `Object`, which the pipe passes on as it is.
-/

namespace CoachingApi

/-- A parsed request body. -/
inductive Json where
  | null
  | bool (value : Bool)
  | number (printed : String)
  | string (text : String)
  | array (items : List Json)
  | object (fields : List (String × Json))

namespace Json

/-- The fields of an object; what is no object has none. -/
def fields : Json → List (String × Json)
  | .object fields => fields
  | _ => []

@[simp] theorem fields_object (entries : List (String × Json)) : (object entries).fields = entries :=
  rfl

/-- The value under a key, absent where the property is undefined. -/
def read (fields : List (String × Json)) (key : String) : Option Json :=
  (fields.find? (fun entry => decide (entry.1 = key))).map Prod.snd

/-- The text of a value that is one. -/
def text : Option Json → Option String
  | some (.string text) => some text
  | _ => none

/-- The implicit conversion to a text. Null and arrays stay, and an object with a property
`toString` of its own does not convert. -/
def toText : Json → Option Json
  | .null => some .null
  | .bool value => some (.string (if value then "true" else "false"))
  | .number printed => some (.string printed)
  | .string text => some (.string text)
  | .array items => some (.array items)
  | .object fields =>
    if (read fields "toString").isSome then none else some (.string "[object Object]")

/-- The implicit conversion of every value. -/
def convert : List (String × Json) → Option (List (String × Json))
  | [] => some []
  | (key, value) :: rest =>
    match toText value, convert rest with
    | some converted, some later => some ((key, converted) :: later)
    | _, _ => none

end Json

/-- A property that a class declares: its validators, each with its message, do not run on
an optional property without a value. -/
structure Property where
  key : String
  optional : Bool := false
  validators : List ((Option Json → Bool) × String)

namespace Property

/-- A property without a value. -/
def isNil : Option Json → Bool
  | none => true
  | some .null => true
  | _ => false

/-- The messages of the validators that refuse a property. -/
def refusals (fields : List (String × Json)) (property : Property) : List String :=
  if property.optional && isNil (Json.read fields property.key) then []
  else (property.validators.filter (fun validator =>
    !validator.1 (Json.read fields property.key))).map Prod.snd

/-- `IsString`. -/
def isString (value : Option Json) : Bool := (Json.text value).isSome

/-- `IsNotEmpty`. -/
def isNotEmpty (value : Option Json) : Bool :=
  !isNil value && decide (Json.text value ≠ some "")

/-- A validator that accepts texts of a kind, such as `Matches` and `IsEmail`. -/
def matchesText (accepts : String → Bool) (value : Option Json) : Bool :=
  (Json.text value).any accepts

/-- `MinLength`. -/
def minLength (least : Nat) : Option Json → Bool :=
  matchesText (fun text => decide (least ≤ Text.characters text))

/-- Hexadecimal digits in either case. -/
def areHexadecimal (chars : List Char) : Bool :=
  chars.all (fun char => decide (char.toLower ∈ hexDigits))

/-- The texts that `IsMongoId` accepts: 24 characters, all of them hexadecimal digits or all but
the prefix of a hexadecimal number. -/
def isMongoIdText (text : String) : Bool :=
  let chars := text.toList
  decide (chars.length = 24) &&
    (areHexadecimal chars ||
      (chars.head? == some '0' && (chars.drop 1).head?.any (fun char => char.toLower ∈ ['x', 'h']) &&
        areHexadecimal (chars.drop 2)))

/-- `IsMongoId`. -/
def isMongoId : Option Json → Bool := matchesText isMongoIdText

/-- A text that casts to an identity is accepted. -/
theorem mongo_id_casts {text : String} (casts : (ObjectId.cast text).isSome = true) :
    isMongoIdText text = true := by
  simp only [ObjectId.cast] at casts
  split at casts
  · rename_i digits
    obtain ⟨length, digits⟩ := digits
    rw [List.length_map] at length
    have hexadecimal : areHexadecimal text.toList = true := by
      simpa [areHexadecimal] using digits
    simp only [isMongoIdText, length, hexadecimal, decide_true, Bool.true_or, Bool.and_true]
  · cases casts

end Property

/-- What the reflected type of a parameter records. -/
inductive Metatype where
  | object
  | declared (properties : List Property)

/-- A text that `IsMongoId` accepts and that has an identity, for what a service makes an
identity of. -/
structure MongoId where
  text : String
  id : ObjectId
  casts : ObjectId.cast text = some id
  deriving DecidableEq

/-- The text an identity prints as. -/
def MongoId.ofId (id : ObjectId) : MongoId := ⟨id.hex, id, ObjectId.cast_hex id⟩

/-- A text that `IsMongoId` accepts, for what a service stores or compares as it was posted. -/
structure PostedId where
  text : String
  accepted : Property.isMongoIdText text = true
  deriving DecidableEq

/-- A text with an identity may be posted. -/
def MongoId.posted (text : MongoId) : PostedId :=
  ⟨text.text, Property.mongo_id_casts (by simp [text.casts])⟩

/-- The text an identity prints as, posted. -/
def PostedId.ofId (id : ObjectId) : PostedId := (MongoId.ofId id).posted

/-- What is stored of a posted text: the text. -/
def PostedId.reference (text : PostedId) : Reference := .text text.text

namespace ValidationPipe

/-- `transform`, with `whitelist`, `forbidNonWhitelisted` and implicit conversion. -/
def transform : Metatype → Json → Except Thrown Json
  | .object, body => .ok body
  | .declared properties, body =>
    match Json.convert body.fields with
    | none => .error (.error "Cannot convert object to primitive value")
    | some fields =>
      match (fields.filter (fun entry =>
            !properties.any (fun property => decide (property.key = entry.1)))).map
          (fun entry => "property " ++ entry.1 ++ " should not exist") ++
          properties.flatMap (Property.refusals fields) with
      | [] => .ok (.object fields)
      | message :: messages => .error (.badRequest (", ".intercalate (message :: messages)))

/-- What a class lets through no validator of a property refuses. -/
theorem transform_accepts {properties : List Property} {body value : Json}
    (passed : transform (.declared properties) body = .ok value) :
    ∀ property ∈ properties, Property.refusals value.fields property = [] := by
  unfold transform at passed
  cases converted : Json.convert body.fields with
  | none => simp [converted] at passed
  | some fields =>
    simp only [converted] at passed
    split at passed
    · rename_i accepted
      obtain rfl := Except.ok.inj passed
      exact List.flatMap_eq_nil_iff.mp (List.append_eq_nil_iff.mp accepted).2
    · cases passed

end ValidationPipe

namespace Property

/-- No validator refuses a required property exactly when all accept it. -/
theorem refusals_required {fields : List (String × Json)} {property : Property}
    (required : property.optional = false) :
    refusals fields property = [] ↔
      ∀ validator ∈ property.validators, validator.1 (Json.read fields property.key) = true := by
  simp [refusals, required]

/-- No validator refuses an optional property exactly when it has no value or all accept it. -/
theorem refusals_optional {fields : List (String × Json)} {property : Property}
    (optional : property.optional = true) :
    refusals fields property = [] ↔
      isNil (Json.read fields property.key) = true ∨
        ∀ validator ∈ property.validators, validator.1 (Json.read fields property.key) = true := by
  by_cases unset : isNil (Json.read fields property.key) = true
  · simp [refusals, optional, unset]
  · simp [refusals, optional, unset]

/-- A string that is not empty has a text that is not empty. -/
theorem text_nonempty {value : Option Json} (string : isString value = true)
    (filled : isNotEmpty value = true) : (Json.text value).getD "" ≠ "" := by
  obtain ⟨text, read⟩ := Option.isSome_iff_exists.mp string
  simp only [isNotEmpty, read, Bool.and_eq_true, decide_eq_true_eq] at filled
  rw [read]
  exact fun empty => filled.2 (congrArg some empty)

/-- A text of a kind has that kind. -/
theorem text_matches {accepts : String → Bool} {value : Option Json}
    (matched : matchesText accepts value = true) : accepts ((Json.text value).getD "") = true := by
  unfold matchesText at matched
  cases read : Json.text value with
  | none => simp [read] at matched
  | some text => simpa [read] using matched

end Property

end CoachingApi
