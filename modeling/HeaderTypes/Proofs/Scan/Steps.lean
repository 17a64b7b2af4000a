import HeaderTypes.Proofs.Model.Shown

namespace HeaderTypes.Scan
open HeaderTypes.Action Registry Relation

/-- All that happens to a scan, whatever is asked of it. -/
inductive Step (scan : Scan) : Scan → Prop
  /-- Primitives are made known as long as there is nothing else. -/
  | seed {registry} : scan.registry.Primitive → registry.Primitive →
      ReflTransGen Grows scan.registry registry → Step scan { scan with registry }
  | begin : Step scan scan.starting
  | diagnose check errors : Step scan (scan.diagnosed check errors)
  | block {block added after} : TakesBlock scan block added after → Step scan after
  | finish : Step scan scan.finishing
  | close : Step scan scan.closed

theorem Takes.steps {scan after : Scan} {findings : List Finding} {names : List String}
    (takes : Takes scan findings names after) : ReflTransGen Step scan after := by
  induction takes with
  | done => exact .refl
  | forward _ ih => exact ih
  | block first _ ih => exact .head (.block first) ih

theorem takeHeader_steps {scan after : Scan} {text origin : String}
    {result : Except Failure (List String)} (ends : (takeHeader text origin).Ends scan result after) :
    ReflTransGen Step scan after := by
  rcases takeHeader_takes ends with rfl | ⟨_, _, between, _, takes, rfl | rfl⟩
  · exact .refl
  · exact .head .begin takes.steps
  · exact .head .begin (takes.steps.tail .finish)

theorem takeFile_steps {scan after : Scan} {files : Files.Tree} {path : Text.Loose}
    {result : Except Failure (List String)} (ends : (takeFile files path).Ends scan result after) :
    ReflTransGen Step scan after := by
  rcases takeFile_cases ends with ⟨rfl, _⟩ | ⟨text, check, errors, _, ends⟩
  · exact .refl
  · exact .head (.diagnose check errors) (takeHeader_steps ends)

theorem seeding_steps {α : Type} {scan after : Scan} (ready : scan.Ready)
    {action : Action Registry α} {late : Failure} {result : Except Failure α}
    (grown : ReflTransGen Grows scan.registry after.registry ∧ after.Ready)
    (ends : (Action.get >>= fun scan : Scan =>
      if scan.started then refuse late else onRegistry action).Ends scan result after) :
    ReflTransGen Step scan after := by
  rcases seeding_cases ends with rfl | ⟨unstarted, registry, _, rfl⟩
  · exact .refl
  · exact .single (.seed (ready unstarted) (grown.2 unstarted) grown.1)

theorem Ready.steps {scan : Scan} (ready : scan.Ready) (operation : Operation) :
    ReflTransGen Step scan (operation.after scan) := by
  have grown := ready.after operation
  cases operation with
  | primitive name compatible =>
    have whole : (insertPrimitive name compatible).Ends scan _ _ := ⟨rfl, rfl⟩
    exact seeding_steps ready grown whole
  | primitives all =>
    have whole : (insertPrimitives all).Ends scan _ _ := ⟨rfl, rfl⟩
    exact seeding_steps ready grown whole
  | header text origin =>
    have whole : (takeHeader text origin).Ends scan _ _ := ⟨rfl, rfl⟩
    exact takeHeader_steps whole
  | file files path =>
    have whole : (takeFile files path).Ends scan _ _ := ⟨rfl, rfl⟩
    exact takeFile_steps whole
  | structs => exact .single .close
  | model =>
    rw [Operation.after_model]
    exact .single .close

theorem Reach.steps {scan later : Scan} (reach : Reach scan later) (ready : scan.Ready) :
    ReflTransGen Step scan later := by
  induction reach with
  | start => exact .refl
  | next operation reach ih => exact ih.trans ((reach.grows ready).2.steps operation)

theorem Step.grows {scan after : Scan} (step : Step scan after) :
    ReflTransGen Grows scan.registry after.registry := by
  cases step with
  | seed _ _ grows => exact grows
  | block takes => exact takes.grows.1
  | close => exact .single .freeze
  | begin | diagnose | finish => exact .refl

theorem grows_of_steps {scan after : Scan} (steps : ReflTransGen Step scan after) :
    ReflTransGen Grows scan.registry after.registry := by
  induction steps with
  | refl => exact .refl
  | tail _ step ih => exact ih.trans step.grows

end HeaderTypes.Scan
