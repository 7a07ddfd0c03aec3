import Provisioning.Wire.Decode

/-!
A descriptor holds a data product with its components and names the one to act on.  The
specific section of a component stays a free value until the component is classified.
-/
namespace Provisioning

structure Component where
  id : String
  name : String
  description : Option String
  kind : String
  templateId : Option String
  infrastructureId : Option String
  version : Option String
  specific : Json
  deriving Repr

structure DataProduct where
  id : String
  name : String
  domain : String
  environment : String
  version : String
  owner : String
  devGroup : String
  components : List Component
  deriving Repr

structure Descriptor where
  product : DataProduct
  componentId : String
  deriving Repr

def Descriptor.component? (d : Descriptor) : Option Component :=
  d.product.components.find? (·.id == d.componentId)

def Component.toJson (c : Component) : Json :=
  .object [("description", .ofOption .text c.description), ("id", .text c.id),
    ("infrastructureTemplateId", .ofOption .text c.infrastructureId), ("kind", .text c.kind),
    ("name", .text c.name), ("specific", c.specific),
    ("useCaseTemplateId", .ofOption .text c.templateId), ("version", .ofOption .text c.version)]

open Wire Fields in
def Component.decode : Decoder Component :=
  record "Component" <|
    Component.mk <$> required "id" text
      <*> required "name" text
      <*> maybe "description" text
      <*> required "kind" text
      <*> maybe "useCaseTemplateId" text
      <*> maybe "infrastructureTemplateId" text
      <*> maybe "version" text
      <*> defaulted "specific" any .null

def DataProduct.toJson (p : DataProduct) : Json :=
  .object [("components", .list (p.components.map Component.toJson)),
    ("dataProductOwner", .text p.owner), ("devGroup", .text p.devGroup),
    ("domain", .text p.domain), ("environment", .text p.environment), ("id", .text p.id),
    ("name", .text p.name), ("version", .text p.version)]

open Wire Fields in
def DataProduct.decode : Decoder DataProduct :=
  record "DataProduct" <|
    DataProduct.mk <$> required "id" text
      <*> required "name" text
      <*> defaulted "domain" text ""
      <*> required "environment" text
      <*> defaulted "version" text ""
      <*> required "dataProductOwner" text
      <*> required "devGroup" text
      <*> defaulted "components" (listOf Component.decode) []

def Descriptor.toJson (d : Descriptor) : Json :=
  .object [("componentIdToProvision", .text d.componentId), ("dataProduct", d.product.toJson)]

open Wire Fields in
def Descriptor.decode : Decoder Descriptor :=
  record "ComponentDescriptor" <|
    Descriptor.mk <$> required "dataProduct" DataProduct.decode
      <*> required "componentIdToProvision" text

end Provisioning
