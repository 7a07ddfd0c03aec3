import Provisioning.Proofs.Chain.Effects
import Provisioning.Proofs.Platform.Frame
import Provisioning.Proofs.Platform.Shelf

/-!
Steps that have been done already.  Of each step of provisioning two things are shown: what stands on
the platform when it has answered, and that it answers the same and only makes calls where that
stands already and no failures are injected.
-/
namespace Provisioning

open Platform Program

variable {α β : Type} {p q : Platform}

/-- The program answers `a` and does nothing but make calls. -/
def Settles (program : Remote α) (p : Platform) (a : α) : Prop :=
  ∃ q, program.run handler p = (.answered a, q) ∧ p.Extends q

theorem settles_pure (p : Platform) (a : α) : Settles (pure a) p a := ⟨p, rfl, p.extends_refl⟩

theorem settles_ofExcept {result : Except Failure α} {a : α} (ok : result = .ok a) (p : Platform) :
    Settles (Program.ofExcept result) p a := by
  subst ok
  exact settles_pure p a

theorem settles_bind {program : Remote α} {f : α → Remote β} {a : α} {b : β}
    (first : Settles program p a) (second : ∀ q, p.Extends q → Settles (f a) q b) :
    Settles (program >>= f) p b := by
  obtain ⟨q, answered, grows⟩ := first
  obtain ⟨r, answeredToo, growsOn⟩ := second q grows
  refine ⟨r, ?_, grows.trans growsOn⟩
  rw [run_bind_of_answered answered, answeredToo]

theorem settles_request {c : Call} {a : c.Answer} (calm : p.failures = [])
    (answered : (answer c (p.record c.key)).1 = .ok a)
    (grows : (p.record c.key).Extends (answer c (p.record c.key)).2) :
    Settles (Program.request (I := remote) c) p a := by
  refine ⟨(answer c (p.record c.key)).2, ?_, (extends_record c.key p).trans grows⟩
  rw [run_request, handler_accepted (rejects_nothing calm c.key), answered]
  rfl

theorem settles_quiet {c : Call} {a : c.Answer} (calm : p.failures = [])
    (quiet : c.effect = .nothing) (answered : (answer c (p.record c.key)).1 = .ok a) :
    Settles (Program.request (I := remote) c) p a :=
  settles_request calm answered (extends_answer quiet _)

theorem answer_of_answered {c : Call} {a : c.Answer}
    (answered : (Program.request (I := remote) c).run handler p = (.answered a, q)) :
    answer c (p.record c.key) = (.ok a, q) := by
  rw [run_request] at answered
  cases decision : p.rejects c.key with
  | true =>
    rw [handler_rejected decision] at answered
    cases answered
  | false =>
    rw [handler_accepted decision] at answered
    generalize answer c (p.record c.key) = result at answered ⊢
    rcases result with ⟨f | b, r⟩
    · cases answered
    · cases answered
      rfl

/-! Workspaces -/

def Platform.HasReady (p : Platform) (name : String) (w : WorkspaceInfo) : Prop :=
  p.workspaces name = some w ∧ requireReady w = .ok ()

theorem Platform.HasReady.of_confined {es : List Effect} {name : String} {w : WorkspaceInfo}
    (ready : p.HasReady name w) (none : .makeWorkspace ∉ es) (confined : p.Confined es q) :
    q.HasReady name w := by
  unfold HasReady
  rw [confined.workspaces none]
  exact ready

theorem settles_findWorkspace (calm : p.failures = []) (name : String) :
    Settles (Remote.findWorkspace name) p (p.workspaces name) :=
  settles_quiet calm rfl rfl

theorem answered_findWorkspace {name : String} {found : Option WorkspaceInfo}
    (answered : (Remote.findWorkspace name).run handler p = (.answered found, q)) :
    q.workspaces name = found := by
  have answer := answer_of_answered answered
  cases answer
  rfl

theorem answered_existingWorkspace {name : String} {w : WorkspaceInfo}
    (answered : (existingWorkspace name).run handler p = (.answered w, q)) : q.HasReady name w := by
  obtain ⟨found, p₁, lookup, rest⟩ := answered_bind_iff.mp answered
  have there := answered_findWorkspace lookup
  cases found with
  | none => cases rest
  | some v =>
    obtain ⟨_, p₂, checked, done⟩ := answered_bind_iff.mp rest
    obtain ⟨isReady, rfl⟩ := answered_ofExcept_iff.mp checked
    cases done
    exact ⟨there, isReady⟩

theorem answered_obtainWorkspace {s : WorkspaceSettings} {name : String}
    {w : WorkspaceInfo} (answered : (obtainWorkspace s name).run handler p = (.answered w, q)) :
    q.workspaces name = some w := by
  unfold obtainWorkspace at answered
  split at answered
  · have answer := answer_of_answered answered
    simp only [Platform.answer, workspaces_record] at answer
    cases there : p.workspaces name with
    | some v =>
      rw [there] at answer
      cases answer
      exact there
    | none =>
      rw [there] at answer
      cases answer
      exact updated_same _ _ _
  · obtain ⟨found, p₁, lookup, rest⟩ := answered_bind_iff.mp answered
    have there := answered_findWorkspace lookup
    cases found with
    | none => cases rest
    | some v =>
      cases rest
      exact there

theorem answered_ensureWorkspace {s : WorkspaceSettings} {name : String}
    {w : WorkspaceInfo} (answered : (ensureWorkspace s name).run handler p = (.answered w, q)) :
    q.HasReady name w := by
  obtain ⟨v, p₁, obtained, rest⟩ := answered_bind_iff.mp answered
  have there := answered_obtainWorkspace obtained
  obtain ⟨_, p₂, checked, done⟩ := answered_bind_iff.mp rest
  obtain ⟨isReady, rfl⟩ := answered_ofExcept_iff.mp checked
  cases done
  exact ⟨there, isReady⟩

theorem settles_obtainWorkspace (calm : p.failures = []) {s : WorkspaceSettings} {name : String}
    {w : WorkspaceInfo} (there : p.workspaces name = some w) :
    Settles (obtainWorkspace s name) p w := by
  unfold obtainWorkspace
  split
  · refine settles_request calm ?_ ?_
    · simp only [answer, workspaces_record, there]
    · simp only [answer, workspaces_record, there]
      exact extends_refl _
  · refine settles_bind (settles_findWorkspace calm name) fun q _ => ?_
    rw [there]
    exact settles_pure q w

theorem settles_ensureWorkspace (calm : p.failures = []) {s : WorkspaceSettings} {name : String}
    {w : WorkspaceInfo} (ready : p.HasReady name w) : Settles (ensureWorkspace s name) p w := by
  obtain ⟨there, isReady⟩ := ready
  refine settles_bind (settles_obtainWorkspace calm there) fun q _ => ?_
  exact settles_bind (settles_ofExcept isReady q) fun r _ => settles_pure r w

theorem settles_existingWorkspace (calm : p.failures = []) {name : String}
    {w : WorkspaceInfo} (ready : p.HasReady name w) : Settles (existingWorkspace name) p w := by
  obtain ⟨there, isReady⟩ := ready
  refine settles_bind (settles_findWorkspace calm name) fun q _ => ?_
  rw [there]
  exact settles_bind (settles_ofExcept isReady q) fun r _ => settles_pure r w

/-! Access -/

theorem answered_assignRole {scope role : String} {principal : PrincipalRef}
    (answered : (Remote.assignRole scope principal role).run handler p = (.answered (), q)) :
    p.knows principal = true := by
  have answer := answer_of_answered answered
  simp only [Platform.answer] at answer
  split at answer
  · rename_i known
    exact known
  · cases answer

theorem settles_assignRole (calm : p.failures = []) {principal : PrincipalRef}
    (known : p.knows principal = true) (scope role : String) :
    Settles (Remote.assignRole scope principal role) p () := by
  refine settles_quiet calm rfl ?_
  have still : (p.record (Call.assignRole scope principal role).key).knows principal = true := known
  simp only [answer, still, if_true]

def Platform.KnowsBoth (p : Platform) (a : Accepted) : Prop :=
  p.knows a.owner = true ∧ p.knows a.devGroup = true

theorem Platform.knows_congr (users : q.users = p.users) (groups : q.groups = p.groups)
    (principal : PrincipalRef) : q.knows principal = p.knows principal := by
  cases principal with
  | user email => simp only [knows, users]
  | group name => simp only [knows, groups]

theorem Platform.KnowsBoth.congr {a : Accepted} (known : p.KnowsBoth a)
    (users : q.users = p.users) (groups : q.groups = p.groups) : q.KnowsBoth a := by
  unfold KnowsBoth
  rw [knows_congr users groups, knows_congr users groups]
  exact known

theorem answered_grantWorkspaceAccess {role : String} {w : WorkspaceInfo} {a : Accepted}
    (answered : (grantWorkspaceAccess role w a).run handler p = (.answered (), q)) :
    p.KnowsBoth a := by
  obtain ⟨_, p₁, owner, devGroup⟩ := answered_bind_iff.mp answered
  have quiet : (Remote.assignRole w.resourceId a.owner role).Asks (Call.Within [.nothing]) :=
    asks_request List.mem_cons_self
  have grows := extends_of_run quiet owner
  have later := answered_assignRole devGroup
  rw [knows_congr grows.users grows.groups] at later
  exact ⟨answered_assignRole owner, later⟩

theorem settles_grantWorkspaceAccess (calm : p.failures = []) {a : Accepted}
    (known : p.KnowsBoth a) (role : String) (w : WorkspaceInfo) :
    Settles (grantWorkspaceAccess role w a) p () := by
  refine settles_bind (settles_assignRole calm known.1 _ _) fun q grows => ?_
  exact settles_assignRole (grows.failures.trans calm) (known.congr grows.users grows.groups).2 _ _

namespace Session

theorem answered_start {w : WorkspaceInfo} {s : Session}
    (answered : (start w).run handler p = (.answered s, q)) : s = ⟨w⟩ := by
  obtain ⟨_, p₁, opened, done⟩ := answered_bind_iff.mp answered
  cases done
  rfl

theorem settles_start (calm : p.failures = []) (w : WorkspaceInfo) :
    Settles (start w) p ⟨w⟩ :=
  settles_bind (settles_quiet calm rfl rfl) fun q _ => settles_pure q _

end Session

/-! Repositories -/

def Platform.HasRepository (p : Platform) (w path : String) (repo : RepoInfo) : Prop :=
  ((p.data w).repositories.values.filter (·.path == path)).head? = some repo

theorem Platform.HasRepository.of_confined {es : List Effect} {w path : String}
    {repo : RepoInfo} (there : p.HasRepository w path repo) (noneMade : .makeRepository ∉ es)
    (noneRemoved : .removeRepository ∉ es) (confined : p.Confined es q) :
    q.HasRepository w path repo := by
  unfold HasRepository
  rw [(confined.data w).repositories noneMade noneRemoved]
  exact there

namespace Session

theorem answered_ensureRepository {s : Session} {url path provider : String} {repo : RepoInfo}
    (ordered : p.Ordered)
    (answered : (s.ensureRepository url path provider).run handler p = (.answered repo, q)) :
    q.HasRepository s.workspace.name path repo := by
  obtain ⟨creation, p₁, created, rest⟩ := answered_bind_iff.mp answered
  cases creation with
  | created new =>
    cases rest
    have answer := answer_of_answered created
    simp only [Platform.answer, answerInner, answerRepositories] at answer
    split at answer
    · cases answer
    · rename_i free
      cases answer
      have none : ∀ e ∈ (p.data s.workspace.name).repositories,
          (e.2.path == path) = true → e.1 = p.nextId := by
        intro e member same
        exact absurd (List.any_eq_true.mpr ⟨e.2, List.mem_map_of_mem member, same⟩) free
      have alone := Keyed.filter_insert (a := RepoInfo.mk p.nextId url path provider)
        (ordered s.workspace.name).repositories none (beq_self_eq_true path)
      unfold Platform.HasRepository
      rw [data_modifyData_same, Keyed.filter_values]
      exact congrArg (fun m => (Keyed.values m).head?) alone
  | alreadyExists =>
    obtain ⟨found, p₂, listed, taken⟩ := answered_bind_iff.mp rest
    obtain ⟨values, rfl⟩ := Prod.mk.inj (answer_of_answered listed)
    cases found with
    | nil => cases taken
    | cons first others =>
      cases taken
      exact congrArg List.head? (Except.ok.inj values)

theorem settles_ensureRepository {s : Session} {path : String} {repo : RepoInfo}
    (calm : p.failures = []) (there : p.HasRepository s.workspace.name path repo)
    (url provider : String) :
    Settles (s.ensureRepository url path provider) p repo := by
  have present := List.mem_filter.mp (List.mem_of_mem_head? there)
  have taken : ((p.data s.workspace.name).repositories.values.any (·.path == path)) = true :=
    List.any_eq_true.mpr ⟨repo, present⟩
  have creation : Settles (s.repositories (.create url path provider)) p .alreadyExists := by
    refine settles_request calm ?_ ?_
    · simp only [answer, answerInner, answerRepositories, data_record, taken, if_true]
    · simp only [answer, answerInner, answerRepositories, data_record, taken, if_true]
      exact extends_refl _
  refine settles_bind creation fun q grows => ?_
  have listed : Settles (s.repositories (.listByPath path)) q
      ((q.data s.workspace.name).repositories.values.filter (·.path == path)) :=
    settles_quiet (grows.failures.trans calm) rfl rfl
  refine settles_bind listed fun r _ => ?_
  unfold Platform.HasRepository at there
  rw [(grows.data s.workspace.name).repositories]
  cases found : (p.data s.workspace.name).repositories.values.filter (·.path == path) with
  | nil =>
    rw [found] at there
    cases there
  | cons first others =>
    rw [found] at there
    cases there
    exact settles_pure r repo

/-! Levels and grants -/

theorem answered_resolve {s : Session} {principal : PrincipalRef} {entry : Principal}
    (answered : (s.resolve principal).run handler p = (.answered entry, q)) :
    p.knows principal = true ∧ entry = directoryEntry principal ∧ p.Extends q := by
  have grows := extends_of_run (asks_of_straight (s.resolve_straight principal)) answered
  obtain ⟨found, p₁, looked, rest⟩ := answered_bind_iff.mp answered
  obtain ⟨result, rfl⟩ := Prod.mk.inj (answer_of_answered looked)
  cases found with
  | none => cases rest
  | some other =>
    cases rest
    have looked := Except.ok.inj result
    split at looked
    · rename_i known
      cases looked
      exact ⟨known, rfl, grows⟩
    · cases looked

theorem settles_resolve (s : Session) (calm : p.failures = []) {principal : PrincipalRef}
    (known : p.knows principal = true) :
    Settles (s.resolve principal) p (directoryEntry principal) := by
  have looked : Settles (s.identity (.resolve principal)) p (some (directoryEntry principal)) :=
    settles_quiet calm rfl (congrArg Except.ok (if_pos known))
  exact settles_bind looked fun q _ => settles_pure q _

theorem settles_assignLevel (s : Session) (calm : p.failures = []) {principal : PrincipalRef}
    (known : p.knows principal = true) (object : SecuredObject) (level : PermissionLevel) :
    Settles (s.assignLevel object principal level) p () :=
  settles_bind (s.settles_resolve calm known) fun _ grows =>
    settles_quiet (grows.failures.trans calm) rfl rfl

theorem settles_assignLevels (s : Session) (calm : p.failures = []) {a : Accepted}
    (known : p.KnowsBoth a) (object : SecuredObject) (levels : ObjectPermissions) :
    Settles (s.assignLevels object a levels) p () :=
  settles_bind (s.settles_assignLevel calm known.1 _ _) fun _ grows =>
    s.settles_assignLevel (grows.failures.trans calm) (known.congr grows.users grows.groups).2 _ _

end Session

def Platform.Holds (p : Platform) (w view : String) (principal : PrincipalRef)
    (privileges : List CatalogPrivilege) : Prop :=
  ∀ privilege ∈ privileges,
    (⟨(directoryEntry principal).name, privilege⟩ : Grant) ∈ (p.data w).grants view

theorem Platform.Holds.of_extends {w view : String} {principal : PrincipalRef}
    {privileges : List CatalogPrivilege} (held : p.Holds w view principal privileges)
    (grows : p.Extends q) :
    q.Holds w view principal privileges := by
  unfold Holds
  rw [(grows.data w).grants]
  exact held

theorem Platform.Holds.of_subset {w view : String} {principal : PrincipalRef}
    {few many : List CatalogPrivilege} (held : p.Holds w view principal many) (among : few ⊆ many) :
    p.Holds w view principal few := fun privilege member => held privilege (among member)

def Platform.KeepsGrants (p q : Platform) : Prop :=
  ∀ w view g, g ∈ (p.data w).grants view → g ∈ (q.data w).grants view

theorem WorkspaceData.mem_grants_of_change {e : Effect} (granting : e ∈ [Effect.nothing, .grant])
    {d d' : WorkspaceData} (change : Change e d d') {view : String} {g : Grant}
    (held : g ∈ d.grants view) :
    g ∈ d'.grants view := by
  cases change with
  | none | permission => exact held
  | grant other new =>
    by_cases same : view = other
    · subst same
      change g ∈ updated d.grants view _ view
      rw [updated_same]
      exact mem_addOnce.mpr (.inl held)
    · change g ∈ updated d.grants other _ view
      rw [updated_other _ _ same]
      exact held
  | _ => exact absurd granting (by decide)

theorem Platform.keepsGrants_of_run {program : Remote α} {reply : Reply α}
    (asks : program.Asks (Call.Within [.nothing, .grant]))
    (run : program.run handler p = (reply, q)) :
    p.KeepsGrants q := by
  have keeps : program.Keeps handler KeepsGrants := by
    refine keeps_of_asks (fun _ _ _ _ held => held) ?_ ?_ asks
    · intro p q r first second w view g held
      exact second w view g (first w view g held)
    · intro c within p w view g held
      exact WorkspaceData.mem_grants_of_change within (change_handler p w c) held
  have kept := keeps p
  rw [run] at kept
  exact kept

namespace Session

variable {s : Session} {view : String} {principal : PrincipalRef} {privilege : CatalogPrivilege}
  {ps : List CatalogPrivilege}

theorem answered_grant
    (answered : (s.catalog (.grant view (directoryEntry principal) privilege)).run handler p =
      (.answered (), q)) :
    q.Holds s.workspace.name view principal [privilege] := by
  obtain ⟨-, rfl⟩ := Prod.mk.inj (answer_of_answered answered)
  intro given member
  rw [List.mem_singleton] at member
  subst member
  simp only [answerInner, answerCatalog, data_modifyData_same, updated_same]
  exact mem_addOnce.mpr (.inr rfl)

theorem settles_grant (calm : p.failures = [])
    (held : p.Holds s.workspace.name view principal [privilege]) :
    Settles (s.catalog (.grant view (directoryEntry principal) privilege)) p () := by
  refine settles_request calm rfl ?_
  simp only [answer, answerInner, answerCatalog]
  refine extends_modifyData ?_
  simp only [data_record]
  rw [addOnce_of_mem (held privilege List.mem_cons_self), updated_self]
  exact WorkspaceData.extends_refl _

theorem answered_grantEach {results : List Unit}
    (answered : (s.grantEach view (directoryEntry principal) ps).run handler p =
      (.answered results, q)) :
    q.Holds s.workspace.name view principal ps := by
  induction ps generalizing p results with
  | nil => exact fun _ member => nomatch member
  | cons first rest ih =>
    obtain ⟨_, p₁, granted, later⟩ := answered_bind_iff.mp answered
    obtain ⟨_, p₂, others, done⟩ := answered_bind_iff.mp later
    cases done
    -- the grants that follow take none away
    have kept := keepsGrants_of_run (asks_of_straight (s.grantEach_straight view _ rest)) others
    intro privilege member
    rcases List.mem_cons.mp member with rfl | among
    · exact kept _ _ _ (answered_grant granted privilege List.mem_cons_self)
    · exact ih others privilege among

theorem settles_grantEach (calm : p.failures = [])
    (held : p.Holds s.workspace.name view principal ps) :
    Settles (s.grantEach view (directoryEntry principal) ps) p (ps.map fun _ => ()) := by
  induction ps generalizing p with
  | nil => exact settles_pure p _
  | cons first rest ih =>
    have firstHeld := held.of_subset (List.cons_subset_cons first (List.nil_subset rest))
    refine settles_bind (settles_grant calm firstHeld) fun q grows => ?_
    have restHeld := (held.of_extends grows).of_subset (List.subset_cons_self first rest)
    exact settles_bind (ih (grows.failures.trans calm) restHeld) fun r _ => settles_pure r _

theorem answered_grantAll
    (answered : (s.grantAll view principal ps).run handler p = (.answered (), q)) :
    p.knows principal = true ∧ q.Holds s.workspace.name view principal ps := by
  obtain ⟨entry, p₁, resolved, rest⟩ := answered_bind_iff.mp answered
  obtain ⟨known, rfl, -⟩ := answered_resolve resolved
  obtain ⟨results, p₂, granted, done⟩ := answered_bind_iff.mp rest
  cases done
  exact ⟨known, answered_grantEach granted⟩

theorem settles_grantAll (calm : p.failures = []) (known : p.knows principal = true)
    (held : p.Holds s.workspace.name view principal ps) :
    Settles (s.grantAll view principal ps) p () := by
  refine settles_bind (s.settles_resolve calm known) fun q grows => ?_
  have granted := settles_grantEach (grows.failures.trans calm) (held.of_extends grows)
  exact settles_bind granted fun r _ => settles_pure r ()

end Session

/-! Catalogs -/

def Platform.HasSchema (p : Platform) (w catalog schema : String) : Prop :=
  catalog ∈ (p.data w).catalogs ∧ catalog ++ "." ++ schema ∈ (p.data w).schemas

theorem Platform.HasSchema.of_confined {es : List Effect} {w catalog schema : String}
    (there : p.HasSchema w catalog schema) (none : .makeCatalog ∉ es) (confined : p.Confined es q) :
    q.HasSchema w catalog schema := by
  unfold HasSchema
  rw [(confined.data w).catalogs none, (confined.data w).schemas none]
  exact there

namespace Session

theorem answered_ensureSchema {s : Session} {catalog schema : String}
    (answered : (s.catalog (.ensureSchema catalog schema)).run handler p = (.answered (), q)) :
    q.HasSchema s.workspace.name catalog schema := by
  have answer := answer_of_answered answered
  simp only [Platform.answer, answerInner, answerCatalog] at answer
  split at answer
  · rename_i there
    obtain ⟨-, rfl⟩ := Prod.mk.inj answer
    unfold Platform.HasSchema
    rw [data_modifyData_same]
    exact ⟨List.contains_iff_mem.mp there, mem_addOnce.mpr (.inr rfl)⟩
  · cases answer

theorem settles_ensureCatalog (s : Session) {catalog schema : String} (calm : p.failures = [])
    (there : p.HasSchema s.workspace.name catalog schema) :
    Settles (s.catalog (.ensureCatalog catalog)) p () := by
  refine settles_request calm rfl ?_
  simp only [answer, answerInner, answerCatalog]
  refine extends_modifyData ?_
  simp only [data_record]
  rw [addOnce_of_mem there.1]
  exact WorkspaceData.extends_refl _

theorem settles_ensureSchema (s : Session) {catalog schema : String} (calm : p.failures = [])
    (there : p.HasSchema s.workspace.name catalog schema) :
    Settles (s.catalog (.ensureSchema catalog schema)) p () := by
  have present := List.contains_iff_mem.mpr there.1
  refine settles_request calm ?_ ?_
  · simp only [answer, answerInner, answerCatalog, data_record, present, if_true]
  · simp only [answer, answerInner, answerCatalog, data_record, present, if_true]
    refine extends_modifyData ?_
    simp only [data_record]
    rw [addOnce_of_mem there.2]
    exact WorkspaceData.extends_refl _

theorem answered_tableExists {s : Session} {table : String} {there : Bool}
    (answered : (s.catalog (.tableExists table)).run handler p = (.answered there, q)) :
    (q.data s.workspace.name).tables.contains table = there ∧ p.Extends q := by
  have grows : p.Extends q := extends_of_run (asks_request List.mem_cons_self) answered
  obtain ⟨found, rfl⟩ := Prod.mk.inj (answer_of_answered answered)
  exact ⟨Except.ok.inj found, grows⟩

theorem settles_tableExists (s : Session) {table : String} (calm : p.failures = [])
    (there : (p.data s.workspace.name).tables.contains table = true) :
    Settles (s.catalog (.tableExists table)) p true :=
  settles_quiet calm rfl (congrArg Except.ok there)

end Session
end Provisioning
