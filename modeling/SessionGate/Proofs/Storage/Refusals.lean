import SessionGate.Storage.FileStore
import SessionGate.Storage.FieldStore
import SessionGate.Storage.TokenStore

/- Calls that are all refused with one error, as those over a document that cannot be read are. What each
   client of the store then tells is a matter of its own: most pass the error on, a field that is only looked
   up is absent. -/
namespace SessionGate.Storage

open Json (Value)

section Refusals

variable {β : Type} [Backend β]

/-- Every call fails with the same error, and leaves the store as it is. -/
structure Refuses (e : Error) (store : β) : Prop where
  read (key : String) : Backend.read key store = (.error e, store)
  write (key : String) (value : Value) : Backend.write key value store = (.error e, store)
  delete (key : String) : Backend.delete key store = (.error e, store)

def Calls.refused {α : Type} (e : Error) : Calls α → α
  | .done a => a
  | .read _ next => (next (.error e)).refused e
  | .write _ _ next => (next (.error e)).refused e
  | .delete _ next => (next (.error e)).refused e

theorem Refuses.run {e : Error} {store : β} (refuses : Refuses e store) {α : Type}
    (calls : Calls α) : calls.run store = (calls.refused e, store) := by
  induction calls with
  | done a => rfl
  | read key next ih =>
    simp only [Calls.run, refuses.read]
    exact ih _
  | write key value next ih =>
    simp only [Calls.run, refuses.write]
    exact ih _
  | delete key next ih =>
    simp only [Calls.run, refuses.delete]
    exact ih _

end Refusals

theorem FileStore.refuses_of_load {store : FileStore} {e : Error} (failed : store.load = .error e) :
    Refuses e store := by
  refine ⟨?_, ?_, ?_⟩
  · intro key
    show (store.load.map fun entries => Json.Members.get? entries key, store) = _
    rw [failed]
    rfl
  · intro key value
    show store.change _ = _
    simp only [FileStore.change, failed]
  · intro key
    show store.change _ = _
    simp only [FileStore.change, failed]

theorem FileStore.load_unreadable {store : FileStore} {content : Text.Bytes} {cause : Json.Error}
    (found : FileTree.read store.path store.tree = .ok content)
    (visible : content.all isBlankByte = false)
    (unreadable : Json.readMap (Text.decode content) = .error cause) :
    store.load = .error (.malformed cause) := by
  simp only [FileStore.load, found, readDocument, visible, Bool.false_eq_true, if_false, unreadable]
  rfl

inductive Work where
  | read (key : String)
  | write (key : String) (value : Value)
  | delete (key : String)
  | set (key : String) (value : Value)
  | put (field : Field) (value : Value)
  | get (key : String)
  | getText (field : Field)
  | getList (field : Field)
  | remove (key : String)
  | clear
  | getToken
  | setToken (token : String)
  | removeToken

inductive Work.Reply where
  | read (answer : Except Error (Option Value))
  | done (answer : Except Error Unit)
  | value (value : Value)
  | text (s : String)
  | texts (items : List String)

namespace Work

def calls : Work → Calls Work.Reply
  | .read key => .read key fun answer => .done (.read answer)
  | .write key value => .write key value fun answer => .done (.done answer)
  | .delete key => .delete key fun answer => .done (.done answer)
  | .set key value => (FieldStore.set key value).map .done
  | .put field value => (FieldStore.put field value).map .done
  | .get key => (FieldStore.get key).map .value
  | .getText field => (FieldStore.getText field).map .text
  | .getList field => (FieldStore.getList field).map .texts
  | .remove key => (FieldStore.remove key).map .done
  | .clear => FieldStore.clear.map .done
  | .getToken => TokenStore.get.map .text
  | .setToken token => (TokenStore.set token).map .done
  | .removeToken => TokenStore.remove.map .done

def refusal (e : Error) : Work → Work.Reply
  | .read _ => .read (.error e)
  | .write _ _ | .delete _ | .put _ _ | .remove _ | .clear | .setToken _ | .removeToken =>
    .done (.error e)
  | .set key _ => .done (if (Field.ofKey? key).isSome then .error e else .ok ())
  | .get _ => .value (.text "")
  | .getText _ | .getToken => .text ""
  | .getList _ => .texts []

theorem calls_refused (e : Error) (work : Work) : work.calls.refused e = work.refusal e := by
  cases work with
  | set key value =>
    simp only [calls, refusal, FieldStore.set]
    cases Field.ofKey? key <;> rfl
  | _ => rfl

end Work

end SessionGate.Storage
