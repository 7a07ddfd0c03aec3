import Provisioning.Platform.State

/-!
How the platform answers.  A call is logged first; if its key, or the kind of call, is among the
injected failures it is rejected then and changes nothing else.
-/
namespace Provisioning.Platform

def jobReference (entry : String × StoredJob) : ResourceRef := ⟨entry.1, entry.2.definition.name⟩

def pipelineReference (entry : String × PipelineDefinition) : ResourceRef := ⟨entry.1, entry.2.name⟩

def missing (kind id workspace : String) : Failure :=
  .single s!"{kind} {id} does not exist in workspace '{workspace}'"

def deletionOf (wasThere : Bool) : Deletion := if wasThere then .deleted else .notFound

def answerJobs (w : String) (c : ObjectCall JobDefinition) (p : Platform) :
    Except Failure c.Answer × Platform :=
  let jobs := (p.data w).jobs
  match c with
  | .listByName name =>
    (.ok ((jobs.filter fun entry => entry.2.definition.name == name).map jobReference), p)
  | .get id =>
    (.ok ((jobs.find? id).map fun job => ⟨⟨id, job.definition.name⟩, job.definition, job.serverFields⟩), p)
  | .create d =>
    (.ok ⟨p.nextId, d.name⟩, p.spendId.modifyData w fun data =>
      { data with jobs := Keyed.insert p.nextId (p.newJob d) data.jobs })
  | .update id d =>
    match jobs.find? id with
    | some job =>
      (.ok ⟨id, d.name⟩, p.modifyData w fun data =>
        { data with jobs := Keyed.insert id { job with definition := d } data.jobs })
    | none => (.error (missing "Job" id w), p)
  | .delete id =>
    (.ok (deletionOf (jobs.contains id)), p.modifyData w fun data =>
      { data with jobs := Keyed.erase id data.jobs })

def answerPipelines (w : String) (c : ObjectCall PipelineDefinition) (p : Platform) :
    Except Failure c.Answer × Platform :=
  let pipelines := (p.data w).pipelines
  match c with
  | .listByName name =>
    (.ok ((pipelines.filter fun entry => entry.2.name == name).map pipelineReference), p)
  | .get id => (.ok ((pipelines.find? id).map fun d => ⟨⟨id, d.name⟩, d, []⟩), p)
  | .create d =>
    (.ok ⟨p.nextId, d.name⟩, p.spendId.modifyData w fun data =>
      { data with pipelines := Keyed.insert p.nextId d data.pipelines })
  | .update id d =>
    match pipelines.find? id with
    | some _ =>
      (.ok ⟨id, d.name⟩, p.modifyData w fun data =>
        { data with pipelines := Keyed.insert id d data.pipelines })
    | none => (.error (missing "Pipeline" id w), p)
  | .delete id =>
    (.ok (deletionOf (pipelines.contains id)), p.modifyData w fun data =>
      { data with pipelines := Keyed.erase id data.pipelines })

def missingSource (d : ViewDefinition) : Failure :=
  .single s!"Cannot create view '{d.fullName}': source table '{d.sourceTable}' does not exist"

/-- Views have no ids of their own; their full names serve.  With a view its grants go. -/
def answerViews (w : String) (c : ObjectCall ViewDefinition) (p : Platform) :
    Except Failure c.Answer × Platform :=
  let data := p.data w
  match c with
  | .listByName name =>
    (.ok ((data.views.filter fun entry => entry.1 == name).map fun entry => ⟨entry.1, entry.1⟩), p)
  | .get id => (.ok ((data.views.find? id).map fun d => ⟨⟨id, id⟩, d, []⟩), p)
  | .create d =>
    if data.tables.contains d.sourceTable then
      (.ok ⟨d.fullName, d.fullName⟩, p.modifyData w fun data =>
        { data with views := Keyed.insert d.fullName d data.views })
    else (.error (missingSource d), p)
  | .update id d =>
    (.ok ⟨id, id⟩, p.modifyData w fun data => { data with views := Keyed.insert id d data.views })
  | .delete id =>
    (.ok (deletionOf (data.views.contains id)), p.modifyData w fun data =>
      { data with views := Keyed.erase id data.views, grants := updated data.grants id [] })

def missingCatalog (catalog workspace : String) : Failure :=
  .single s!"Catalog '{catalog}' does not exist in workspace '{workspace}'"

def answerCatalog (w : String) (c : CatalogCall) (p : Platform) : Except Failure c.Answer × Platform :=
  match c with
  | .ensureCatalog catalog =>
    (.ok (), p.modifyData w fun data => { data with catalogs := addOnce catalog data.catalogs })
  | .ensureSchema catalog schema =>
    if (p.data w).catalogs.contains catalog then
      (.ok (), p.modifyData w fun data =>
        { data with schemas := addOnce (catalog ++ "." ++ schema) data.schemas })
    else (.error (missingCatalog catalog w), p)
  | .tableExists fullName => (.ok ((p.data w).tables.contains fullName), p)
  | .listGrants fullName => (.ok ((p.data w).grants fullName), p)
  | .grant fullName principal privilege =>
    (.ok (), p.modifyData w fun data =>
      { data with
        grants := updated data.grants fullName (addOnce ⟨principal.name, privilege⟩ (data.grants fullName)) })
  | .revoke fullName principal privilege =>
    (.ok (), p.modifyData w fun data =>
      { data with
        grants := updated data.grants fullName
          ((data.grants fullName).filter fun g => g != ⟨principal, privilege⟩) })

/-- At most one repository is registered at a path. -/
def answerRepositories (w : String) (c : RepositoryCall) (p : Platform) :
    Except Failure c.Answer × Platform :=
  let repositories := (p.data w).repositories
  match c with
  | .create url path provider =>
    if repositories.values.any (·.path == path) then (.ok .alreadyExists, p)
    else
      let repo : RepoInfo := ⟨p.nextId, url, path, provider⟩
      (.ok (.created repo), p.spendId.modifyData w fun data =>
        { data with repositories := Keyed.insert p.nextId repo data.repositories })
  | .listByPath path => (.ok (repositories.values.filter (·.path == path)), p)
  | .delete id =>
    (.ok (deletionOf (repositories.contains id)), p.modifyData w fun data =>
      { data with repositories := Keyed.erase id data.repositories })

def directoryEntry (principal : PrincipalRef) : Principal :=
  ⟨(if principal.isGroup then "g-" else "u-") ++ principal.externalId, principal.externalId,
    principal.isGroup⟩

def answerIdentity (w : String) (c : IdentityCall) (p : Platform) : Except Failure c.Answer × Platform :=
  match c with
  | .resolve principal => (.ok (if p.knows principal then some (directoryEntry principal) else none), p)
  | .assignPermission object principal level =>
    (.ok (), p.modifyData w fun data =>
      { data with permissions := data.permissions ++ [(object, principal.name, level)] })

def answerInner (w : String) (c : InnerCall) (p : Platform) : Except Failure c.Answer × Platform :=
  match c with
  | .jobs c => answerJobs w c p
  | .pipelines c => answerPipelines w c p
  | .views c => answerViews w c p
  | .catalog c => answerCatalog w c p
  | .repositories c => answerRepositories w c p
  | .identity c => answerIdentity w c p

def unknownPrincipal (principal : PrincipalRef) (role scope : String) : Failure :=
  .single <|
    s!"Principal '{principal.externalId}' not found in the directory " ++
    s!"while assigning role '{role}' on '{scope}'"

def answer (c : Call) (p : Platform) : Except Failure c.Answer × Platform :=
  match c with
  | .createIfAbsent name region _ =>
    match p.workspaces name with
    | some w => (.ok w, p)
    | none =>
      let w := p.newWorkspace name region p.newWorkspaceState
      (.ok w, p.spendId.putWorkspace w)
  | .findWorkspace name => (.ok (p.workspaces name), p)
  | .assignRole scope principal role =>
    if p.knows principal then
      (.ok (), { p with roles := p.roles ++ [(scope, principal.externalId, role)] })
    else (.error (unknownPrincipal principal role scope), p)
  | .openSession _ => (.ok (), p)
  | .inside w c => answerInner w c p

def rejection (key : String) : Failure := .wrap s!"Remote call '{key}' failed" "injected failure"

def respond (c : Call) (p : Platform) : Except Failure c.Answer × Platform :=
  let p := p.record c.key
  if p.rejects c.key then (.error (rejection c.key), p) else answer c p

def handler : Handler remote Platform := fun c p =>
  match respond c p with
  | (.ok a, p) => (.answered a, p)
  | (.error f, p) => (.refused f, p)

end Provisioning.Platform
