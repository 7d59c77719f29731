import ResolverTypes.Data.NameMap
import ResolverTypes.Graph.Basic

/-!
# Relations between definitions

Which inputs are within reach of the fields of a graph, which objects an interface or union may
stand for, and which interfaces and unions an object belongs to.

## Main definitions

* `SchemaGraph.inputRegistry` : the inputs within reach of the arguments of fields.
* `ObjectDef.argumentInputs` : the inputs that the arguments of an object's fields name.
* `SchemaGraph.possibleTypes` : the objects an interface or union may stand for.
* `SchemaGraph.abstractTypesOf` : the interfaces and unions an object belongs to.
-/

namespace ResolverTypes

/-- The name of the input that a reference names, if it names one. -/
def TypeRef.inputName? (type : TypeRef) : Option String :=
  match type.base with
  | ⟨.input, name⟩ => some name
  | _ => none

/-- The inputs that the arguments of a field name, in order. -/
def FieldDef.argumentInputs (field : FieldDef) : List String :=
  field.arguments.filterMap (·.type.inputName?)

/-- The inputs that the arguments of an object's fields name, in increasing order. -/
def ObjectDef.argumentInputs (object : ObjectDef) : List String :=
  sortedNames (object.fields.flatMap (·.argumentInputs))

/-- The inputs that the fields of an input name, in order. -/
def InputDef.fieldInputs (input : InputDef) : List String :=
  input.fields.filterMap (·.type.inputName?)

namespace SchemaGraph

variable (graph : SchemaGraph)

/-! ### Inputs -/

/-- The inputs of the graph that are not among those found. -/
def inputsLeft (found : List InputDef) : List InputDef :=
  graph.inputs.filter fun d => !found.any (·.name == d.name)

theorem length_inputsLeft_cons_lt {found : List InputDef} {name : String} {input : InputDef}
    (hn : found.any (·.name == name) = false) (h : graph.input? name = some input) :
    (graph.inputsLeft (input :: found)).length < (graph.inputsLeft found).length := by
  have hname : input.name = name := by
    have := List.find?_some h
    simpa using this
  have hmem : input ∈ graph.inputs := List.mem_of_find?_eq_some h
  have hsub : graph.inputsLeft (input :: found) =
      (graph.inputsLeft found).filter fun d => !(input.name == d.name) := by
    simp only [inputsLeft, List.filter_filter, List.any_cons, Bool.not_or]
  rw [hsub]
  apply List.length_filter_lt_length_iff_exists.mpr
  refine ⟨input, ?_, by simp⟩
  simp only [inputsLeft, List.mem_filter, hmem, true_and, hname, hn, Bool.not_false]

/-- The inputs within reach of some names, besides those found before.  An input is looked at
once; a name that the graph does not define leads nowhere. -/
def reachableInputs (pending : List String) (found : List InputDef) : List InputDef :=
  match pending with
  | [] => found
  | name :: rest =>
      if _hn : found.any (·.name == name) then reachableInputs rest found
      else
        match _h : graph.input? name with
        | none => reachableInputs rest found
        | some input => reachableInputs (input.fieldInputs ++ rest) (input :: found)
termination_by ((graph.inputsLeft found).length, pending.length)
decreasing_by
  · exact Prod.Lex.right _ (Nat.lt_succ_self _)
  · exact Prod.Lex.right _ (Nat.lt_succ_self _)
  · exact Prod.Lex.left _ _ (graph.length_inputsLeft_cons_lt (by simpa using _hn) _h)

/-- The fields of all objects, then of all interfaces. -/
def outputFields : List FieldDef :=
  graph.objects.flatMap (·.fields) ++ graph.interfaces.flatMap (·.fields)

/-- The inputs within reach of the arguments of fields, by name. -/
def inputRegistry : NameMap InputDef :=
  .ofList <| (graph.reachableInputs (graph.outputFields.flatMap (·.argumentInputs)) []).map
    fun input => (input.name, input)

/-! ### Abstract types -/

/-- The objects that declare to implement an interface, in the order of their definition.  An
object stands once for each time it names the interface. -/
def implementors (interface : String) : List ObjectDef :=
  if (graph.interface? interface).isSome then
    graph.objects.flatMap fun o => (o.implements.filter (· == interface)).map fun _ => o
  else []

/-- The objects among the members of a union, in the order of the members. -/
def unionMembers (union : String) : List ObjectDef :=
  match graph.union? union with
  | some u => u.members.filterMap graph.object?
  | none => []

/-- The objects that an interface or union may stand for. -/
def possibleTypes (abstractType : String) : List ObjectDef :=
  if (graph.interface? abstractType).isSome then graph.implementors abstractType
  else graph.unionMembers abstractType

/-- The interfaces, then the unions, that may stand for an object, each in increasing order. -/
def abstractTypesOf (object : String) : List String :=
  (sortedNames (graph.interfaces.map (·.name))).filter
      (fun i => (graph.implementors i).any (·.name == object)) ++
    (sortedNames (graph.unions.map (·.name))).filter
      fun u => (graph.unionMembers u).any (·.name == object)

end SchemaGraph

end ResolverTypes
