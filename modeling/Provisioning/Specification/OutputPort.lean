import Provisioning.Wire.Decode

/-!
The specific section of an output port: a view in a catalog, and the table it shows.
-/
namespace Provisioning

def fullName (catalog schema name : String) : String := catalog ++ "." ++ schema ++ "." ++ name

structure SourceTable where
  catalog : String
  schema : String
  table : String
  deriving DecidableEq, Repr

namespace SourceTable

def fullName (t : SourceTable) : String := Provisioning.fullName t.catalog t.schema t.table

def toJson (t : SourceTable) : Json :=
  .object [("catalogName", .text t.catalog), ("schemaName", .text t.schema),
    ("tableName", .text t.table)]

open Wire Fields in
def decode : Decoder SourceTable :=
  record "SourceTableSpec" <|
    SourceTable.mk <$> required "catalogName" text
      <*> required "schemaName" text
      <*> required "tableName" text

end SourceTable

structure OutputPortSpec where
  workspace : String
  catalog : String
  schema : String
  view : String
  source : SourceTable
  deriving DecidableEq, Repr

namespace OutputPortSpec

def viewName (s : OutputPortSpec) : String := fullName s.catalog s.schema s.view

def toJson (s : OutputPortSpec) : Json :=
  .object [("catalogName", .text s.catalog), ("schemaName", .text s.schema),
    ("sourceTable", s.source.toJson), ("viewName", .text s.view),
    ("workspace", .text s.workspace)]

open Wire Fields in
def decode : Decoder OutputPortSpec :=
  record "OutputPortSpecific" <|
    OutputPortSpec.mk <$> required "workspace" text
      <*> required "catalogName" text
      <*> required "schemaName" text
      <*> required "viewName" text
      <*> required "sourceTable" SourceTable.decode

end OutputPortSpec
end Provisioning
