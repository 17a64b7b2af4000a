import HeaderTypes.Proofs.Model.Shown
import HeaderTypes.Proofs.Registry.Frozen
import HeaderTypes.Proofs.Scan.Atomicity
import HeaderTypes.Proofs.Scan.Runs

namespace HeaderTypes.Scan
open HeaderTypes.Action Registry

/-- What can be asked of a scan or, past it, of its registry. -/
inductive Request
  | operation (operation : Operation)
  | insert (d : Descriptor)
  | add (d : Descriptor)
  | addField (tags : Tags) (struct statement : String)
  | addFields (tags : Tags) (struct body : String)
  | addStruct (name : String) (fields : List Field)

def Request.after : Request → Scan → Scan
  | operation op, scan => op.after scan
  | insert d, scan => ((onRegistry (Registry.insert d)).run scan).state
  | add d, scan => ((onRegistry (Registry.add d)).run scan).state
  | addField tags struct statement, scan =>
    ((onRegistry (Registry.addField tags struct statement)).run scan).state
  | addFields tags struct body, scan =>
    ((onRegistry (Registry.addFields tags struct body)).run scan).state
  | addStruct name fields, scan => ((onRegistry (Registry.addStruct name fields)).run scan).state

/-- Scans that requests lead to, in any order and number. -/
inductive Onward (initial : Scan) : Scan → Prop
  | start : Onward initial initial
  | next {scan} (request : Request) : Onward initial scan → Onward initial (request.after scan)

theorem onRegistry_keeps {α : Type} {action : Action Registry α} {scan : Scan}
    (keeps : action.Keeps scan.registry) : (onRegistry action).Keeps scan := by
  obtain ⟨registry, ends, same⟩ := (onRegistry_ends_iff scan).mp ⟨rfl, rfl⟩
  cases ends.eq_of_keeps keeps
  exact same.symm

section
variable {scan : Scan} (frozen : scan.registry.frozen = true)
include frozen

theorem takeFile_registry (files : Files.Tree) (path : Text.Loose) :
    ((takeFile files path).run scan).state.registry = scan.registry := by
  have ends : (takeFile files path).Ends scan _ _ := ⟨rfl, rfl⟩
  rcases takeFile_cases ends with ⟨same, _⟩ | ⟨text, check, errors, _, scanned⟩
  · rw [same]
  · -- the text of the file is scanned last, and nothing but the registry decides that it is refused
    have frozen' : (scan.diagnosed check errors).registry.frozen = true := frozen
    have refused := takeHeader_ends_of_frozen frozen' text path.text
    rw [(scanned.unique refused).2]
    rfl

theorem Operation.after_registry (operation : Operation) :
    (operation.after scan).registry = scan.registry := by
  cases operation with
  | primitive name compatible =>
    have keeps : (insertPrimitive name compatible).Keeps scan := by
      refine keeps_get_bind ?_
      split
      · rfl
      · exact onRegistry_keeps (insertPrimitive_keeps frozen name compatible)
    exact congrArg Scan.registry keeps
  | primitives all =>
    have keeps : (insertPrimitives all).Keeps scan := by
      refine keeps_get_bind ?_
      split
      · rfl
      · exact onRegistry_keeps (insertPrimitives_keeps frozen all)
    exact congrArg Scan.registry keeps
  | header text origin => exact congrArg Scan.registry (takeHeader_ends_of_frozen frozen text origin).2
  | file files path => exact takeFile_registry frozen files path
  | structs => exact congrArg Scan.registry (onRegistry_keeps (close_keeps frozen))
  | model =>
    have closed : close.Keeps scan := onRegistry_keeps (close_keeps frozen)
    have keeps : finish.Keeps scan :=
      closed.bind fun _ => keeps_get_bind (keeps_ofExcept _ scan)
    exact congrArg Scan.registry keeps

theorem Request.after_registry (request : Request) : (request.after scan).registry = scan.registry := by
  cases request with
  | operation op => exact Operation.after_registry frozen op
  | insert d => exact congrArg Scan.registry (onRegistry_keeps (insert_keeps frozen d))
  | add d => exact congrArg Scan.registry (onRegistry_keeps (add_keeps frozen d))
  | addField tags struct statement =>
    exact congrArg Scan.registry (onRegistry_keeps (addField_keeps frozen tags struct statement))
  | addFields tags struct body =>
    exact congrArg Scan.registry (onRegistry_keeps (addFields_keeps frozen tags struct body))
  | addStruct name fields =>
    exact congrArg Scan.registry (onRegistry_keeps (addStruct_keeps frozen name fields))

/-- Once registration is ended the registry stays as it is, whatever is asked. -/
theorem Onward.registry_eq {later : Scan} (onward : Onward scan later) :
    later.registry = scan.registry := by
  induction onward with
  | start => rfl
  | next request _ ih => exact (Request.after_registry (ih ▸ frozen) request).trans ih

end

/-- With the first export everything is settled. Whatever is asked of a scan
or of its registry afterwards, the registry keeps its entries in their order,
no header is scanned or counted, and the structs and the model are given as
they were the first time. -/
theorem closed_onward {scan later : Scan} (onward : Onward scan.closed later) :
    close.Ends scan (.ok scan.registry.structs) scan.closed ∧
      finish.Ends scan scan.registry.model scan.closed ∧
      (∀ tags check, Reach (fresh tags check) scan → ∃ model, scan.registry.model = .ok model) ∧
      later.registry = { scan.registry with frozen := true } ∧
      (∀ text origin, (Failure.lateHeader origin).isGraphFailure ∧
        (takeHeader text origin).Ends later (.error (.lateHeader origin)) later) ∧
      close.Ends later (.ok scan.registry.structs) later ∧
      finish.Ends later scan.registry.model later := by
  have same : later.registry = { scan.registry with frozen := true } := onward.registry_eq rfl
  have frozen : later.registry.frozen = true := by rw [same]
  have still : later.closed = later := by
    obtain ⟨⟨entries, _⟩, tags, check, stats, started⟩ := later
    cases frozen
    rfl
  have structs : later.registry.structs = scan.registry.structs := by rw [same]; rfl
  have model : later.registry.model = scan.registry.model := by rw [same, model_frozen]
  have closedAgain := close_ends later
  have finishedAgain := finish_ends later
  rw [still, structs] at closedAgain
  rw [still, model] at finishedAgain
  refine ⟨close_ends scan, finish_ends scan, fun tags check reach => ?_, same, fun text origin => ?_,
    closedAgain, finishedAgain⟩
  · exact ⟨_, ((finish_ends scan).unique (finish_ends_of_reach reach)).1⟩
  · exact ⟨rfl, takeHeader_ends_of_frozen frozen text origin⟩

/-- After the export everything that could still register something is tried. -/
def lateRun : Scan :=
  (Request.operation .model).after
    ((Request.addFields none "c_t" "int (C *f)(int);").after
      ((Request.add (.primitive "long" true)).after
        ((Request.operation (.header "typedef struct { int c; } c_t;" "c")).after nestedRun.closed)))

theorem closed_onward_lateRun :
    Onward nestedRun.closed lateRun ∧
      close.Ends nestedRun (.ok nestedRun.registry.structs) nestedRun.closed ∧
      finish.Ends nestedRun nestedRun.registry.model nestedRun.closed ∧
      (∀ tags check, Reach (fresh tags check) nestedRun →
        ∃ model, nestedRun.registry.model = .ok model) ∧
      lateRun.registry = { nestedRun.registry with frozen := true } ∧
      (∀ text origin, (Failure.lateHeader origin).isGraphFailure ∧
        (takeHeader text origin).Ends lateRun (.error (.lateHeader origin)) lateRun) ∧
      close.Ends lateRun (.ok nestedRun.registry.structs) lateRun ∧
      finish.Ends lateRun nestedRun.registry.model lateRun := by
  have onward : Onward nestedRun.closed lateRun :=
    (((Onward.start.next (.operation (.header _ "c"))).next (.add (.primitive "long" true))).next
      (.addFields none "c_t" _)).next (.operation .model)
  exact ⟨onward, closed_onward onward⟩

end HeaderTypes.Scan
