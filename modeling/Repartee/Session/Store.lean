import Repartee.Session.UserData

/-!
# Session stores

* `SessionStore`: either keeps the data of every user, with a frozen copy for some, or forgets
  everything at once.
* `SessionStore.set`, `meet`, `reset`, `resetAll`, `freeze`, `thaw`: the changes.
* `SessionStore.data?`, `get?`, `all`: the reads.
-/

namespace Repartee

/-- A store of user data. -/
inductive SessionStore where
  /-- Data and frozen copies by user. -/
  | memory (users frozen : Table UserData)
  /-- Every user looks new on every read. -/
  | forgetful
  deriving DecidableEq

/-- Why a store refused. -/
inductive StoreError where
  | userNotFound (user : String)
  | noFrozenSnapshot (user : String)
  deriving DecidableEq, Repr

/-- The text of a refusal. -/
def StoreError.message : StoreError → String
  | .userNotFound user => "no session data for user '" ++ user ++ "'"
  | .noFrozenSnapshot user => "user '" ++ user ++ "' has no frozen variables"

/-- What thawing does with the frozen copy. -/
inductive ThawAction where
  /-- Restore it and forget it. -/
  | thaw
  /-- Forget it. -/
  | discard
  /-- Restore it and keep it. -/
  | keep
  deriving DecidableEq, Repr

namespace SessionStore

/-- A store that remembers, still empty. -/
def new : SessionStore := .memory ∅ ∅

/-! ## Reads -/

/-- The data of a user. -/
def data? : SessionStore → String → Option UserData
  | memory users _, user => users.find? user
  | forgetful, _ => none

/-- A variable of a known user. -/
def get? (s : SessionStore) (user name : String) : Option String :=
  (s.data? user).map (·.var name)

/-- The data of all users. -/
def all : SessionStore → Table UserData
  | memory users _ => users
  | forgetful => ∅

/-! ## Changes -/

/-- Carry out a patch, on fresh data for an unknown user. -/
def set : SessionStore → String → SessionPatch → SessionStore
  | memory users frozen, user, p =>
    memory (users.insert user (((users.find? user).getD {}).apply p)) frozen
  | forgetful, _, _ => forgetful

/-- Give an unknown user fresh data. -/
def meet (s : SessionStore) (user : String) : SessionStore :=
  match s.data? user with
  | some _ => s
  | none => s.set user (.setting "topic" defaultTopic)

/-- Forget a user and the frozen copy. -/
def reset : SessionStore → String → SessionStore
  | memory users frozen, user => memory (users.erase user) (frozen.erase user)
  | forgetful, _ => forgetful

/-- Forget everything. -/
def resetAll : SessionStore → SessionStore
  | memory _ _ => memory ∅ ∅
  | forgetful => forgetful

/-- Keep a copy of a user's data. -/
def freeze : SessionStore → String → Except StoreError SessionStore
  | memory users frozen, user =>
    match users.find? user with
    | some data => .ok (memory users (frozen.insert user data))
    | none => .error (.userNotFound user)
  | forgetful, _ => .ok forgetful

/-- Use up, drop or re-use the frozen copy. -/
def thaw : SessionStore → String → ThawAction → Except StoreError SessionStore
  | memory users frozen, user, action =>
    match frozen.find? user, action with
    | none, _ => .error (.noFrozenSnapshot user)
    | some data, .thaw => .ok (memory (users.insert user data) (frozen.erase user))
    | some _, .discard => .ok (memory users (frozen.erase user))
    | some data, .keep => .ok (memory (users.insert user data) frozen)
  | forgetful, _, _ => .ok forgetful

end SessionStore

end Repartee
