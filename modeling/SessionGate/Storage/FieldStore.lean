import SessionGate.Storage.Backend

/- The persisted fields of a session: one object under a key of its own in a backend. -/
namespace SessionGate.Storage

open Json (Value Members)

def fieldsKey : String := "storage_data"

inductive Field where
  | userId
  | userName
  | avatar
  | roles
  | permissions
  deriving DecidableEq, Repr

namespace Field

def all : List Field := [.userId, .userName, .avatar, .roles, .permissions]

def key : Field → String
  | .userId => "user_id"
  | .userName => "user_name"
  | .avatar => "user_avatar"
  | .roles => "user_roles"
  | .permissions => "user_permissions"

def ofKey? (key : String) : Option Field :=
  all.find? fun field => field.key = key

end Field

namespace FieldStore

/-- The fields in what a backend holds; anything but an object holds none. -/
def fieldsOf : Option Value → Members
  | some (.object members) => members
  | _ => []

def change (f : Members → Members) : Calls (Except Error Unit) :=
  .read fieldsKey fun
    | .error e => .done (.error e)
    | .ok stored => .write fieldsKey (.object (f (fieldsOf stored))) .done

def put (field : Field) (value : Value) : Calls (Except Error Unit) :=
  change fun fields => Members.insert fields field.key value

/-- Sets a field by its key. A key of no field is passed over. -/
def set (key : String) (value : Value) : Calls (Except Error Unit) :=
  match Field.ofKey? key with
  | some field => put field value
  | none => .done (.ok ())

def remove (key : String) : Calls (Except Error Unit) :=
  change fun fields => Members.erase fields key

def clear : Calls (Except Error Unit) :=
  .delete fieldsKey .done

def valueIn (fields : Members) (key : String) : Value :=
  match Members.get? fields key with
  | none | some .null => .text ""
  | some value => value

/-- Fields that cannot be read count as absent. -/
def get (key : String) : Calls Value :=
  .read fieldsKey fun
    | .error _ => .done (valueIn [] key)
    | .ok stored => .done (valueIn (fieldsOf stored) key)

def textOf : Value → String
  | .text s => s
  | .number n => n.text
  | _ => ""

def listOf : Value → List String
  | .array items => Json.onlyTexts items
  | _ => []

def getText (field : Field) : Calls String :=
  (get field.key).map textOf

def getList (field : Field) : Calls (List String) :=
  (get field.key).map listOf

end FieldStore

end SessionGate.Storage
