import PLoadtesting.Lib.Python

/-!
The task template registry (`apps/tasks/template_registry.py`): the catalog that
`load_task_templates` holds in memory, keyed by target application and profile,
and the lookup that task creation uses.

Only the entries of a template that task creation reads are kept.
-/

namespace PLoadtesting.ControlPlane

open Keyed Python

/-- The entries of a task template that task creation reads. A template without
`parameters` has the empty ones. -/
structure TaskTemplate where
  targetAppId : String
  targetProfileId : String
  displayName : String
  engine : String
  scriptPath : String
  targetUrl : String
  execution : Option Json
  parameters : Dict Json

/-- The key of a template in the registry. -/
def TaskTemplate.key (template : TaskTemplate) : String × String :=
  (template.targetAppId, template.targetProfileId)

/-- The loaded templates. -/
abbrev Catalog := Table TaskTemplate.key

/-- A missing template is a `TaskTemplateError`, which is a `ValueError`. -/
def getTaskTemplate [Runtime] (catalog : Catalog) (targetAppId targetProfileId : String) :
    Except Exc TaskTemplate :=
  match catalog.find? (targetAppId, targetProfileId) with
  | some template => .ok template
  | none => .error (.valueError
      ("Unknown task template target_app_id=" ++ Json.reprStr targetAppId
        ++ ", target_profile_id=" ++ Json.reprStr targetProfileId ++ "."))

theorem getTaskTemplate_ok_iff [Runtime] {catalog : Catalog} {appId profileId : String}
    {template : TaskTemplate} : getTaskTemplate catalog appId profileId = .ok template ↔
      catalog.find? (appId, profileId) = some template := by
  unfold getTaskTemplate
  cases catalog.find? (appId, profileId) with
  | none => simp
  | some t => simp

end PLoadtesting.ControlPlane
