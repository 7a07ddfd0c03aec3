import Provisioning.Wire.Decode

/-!
Who may do what: permission levels on workspace objects, privileges on catalog objects,
principals as the directory resolves them, and grants.
-/
namespace Provisioning

inductive PermissionLevel where
  | canView
  | canRun
  | canEdit
  | canManageRun
  | canManage
  | isOwner
  deriving DecidableEq, Repr

namespace PermissionLevel

def name : PermissionLevel → String
  | canView => "CAN_VIEW"
  | canRun => "CAN_RUN"
  | canEdit => "CAN_EDIT"
  | canManageRun => "CAN_MANAGE_RUN"
  | canManage => "CAN_MANAGE"
  | isOwner => "IS_OWNER"

def all : List PermissionLevel := [canView, canRun, canEdit, canManageRun, canManage, isOwner]

def named : List (String × PermissionLevel) := all.map fun l => (l.name, l)

def toJson (l : PermissionLevel) : Json := .text l.name

def decode : Wire.Decoder PermissionLevel := Wire.oneOf named

end PermissionLevel

inductive CatalogPrivilege where
  | select
  | modify
  | allPrivileges
  deriving DecidableEq, Repr

namespace CatalogPrivilege

def name : CatalogPrivilege → String
  | select => "SELECT"
  | modify => "MODIFY"
  | allPrivileges => "ALL_PRIVILEGES"

def all : List CatalogPrivilege := [select, modify, allPrivileges]

def named : List (String × CatalogPrivilege) := all.map fun p => (p.name, p)

def toJson (p : CatalogPrivilege) : Json := .text p.name

def decode : Wire.Decoder CatalogPrivilege := Wire.oneOf named

end CatalogPrivilege

inductive SecuredObject where
  | job (id : String)
  | pipeline (id : String)
  | repository (id : String)
  deriving DecidableEq, Repr

def SecuredObject.display : SecuredObject → String
  | job id => "job " ++ id
  | pipeline id => "pipeline " ++ id
  | repository id => "repository " ++ id

structure Principal where
  id : String
  name : String
  isGroup : Bool
  deriving DecidableEq, Repr

namespace Principal

def toJson (p : Principal) : Json :=
  .object [("id", .text p.id), ("is_group", .bool p.isGroup), ("name", .text p.name)]

open Wire Fields in
def decode : Decoder Principal :=
  record "Principal" <|
    Principal.mk <$> required "id" text <*> required "name" text <*> required "is_group" bool

end Principal

structure Grant where
  principal : String
  privilege : CatalogPrivilege
  deriving DecidableEq, Repr

end Provisioning
