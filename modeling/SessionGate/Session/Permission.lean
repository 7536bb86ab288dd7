import SessionGate.Session.Record

/- Checks of permissions and roles. One wildcard in what is held satisfies every query but the
   empty one. -/
namespace SessionGate

def allPermission : String := "*:*:*"

def superRole : String := "admin"

def grants (held : List String) (wildcard wanted : String) : Bool :=
  wanted ≠ "" && held.any fun h => h = wildcard || h = wanted

namespace Record

def hasPermission (record : Record) (permission : String) : Bool :=
  grants record.permissions allPermission permission

def hasAnyPermission (record : Record) (permissions : List String) : Bool :=
  permissions.any record.hasPermission

/-- No query at all is not satisfied. -/
def hasAllPermissions (record : Record) (permissions : List String) : Bool :=
  !permissions.isEmpty && permissions.all record.hasPermission

def hasRole (record : Record) (role : String) : Bool :=
  grants record.roles superRole role

def hasAnyRole (record : Record) (roles : List String) : Bool :=
  roles.any record.hasRole

def hasAllRoles (record : Record) (roles : List String) : Bool :=
  !roles.isEmpty && roles.all record.hasRole

end Record

end SessionGate
