import ResolverTypes.Proofs.TypeScript.TypeReading
import ResolverTypes.TypeScript.Document

/-!
# Reading documents

A reader of the text of generated modules.  Nothing in the text marks where the shared inputs end
and the aggregate begins, but the aggregate is the last declaration; and a namespace stands between
them unless there is none.

## Main definitions

* `Declaration.keyword`, `Declaration.body` : the text of a declaration in two parts.
* `Document.read` : reads a text as a document.

## Main results

* `Document.read_render` : the text of a well-formed document is read as that document.
* `Document.render_injective` : well-formed documents with the same text are the same.
-/

namespace ResolverTypes.TypeScript

/-! ### The text of declarations -/

/-- The blanks at the start of a line. -/
def indentation (depth : Nat) : String := String.ofList (List.replicate (2 * depth) ' ')

/-- The words between `export` and what tells a declaration from others of its form. -/
def Declaration.keyword : Declaration → String
  | .interface _ _ => "interface "
  | .typeAlias _ _ => "type "
  | .defaultResolvers _ _ => "const defaultResolvers = \x7b\n"

theorem keyword_typeAlias {d : Declaration} (h : ∃ name type, d = .typeAlias name type) :
    d.keyword = "type " := by
  obtain ⟨name, type, rfl⟩ := h
  rfl

theorem keyword_interface {d : Declaration} (h : ∃ name members, d = .interface name members) :
    d.keyword = "interface " := by
  obtain ⟨name, members, rfl⟩ := h
  rfl

/-- The text of a default resolver. -/
def defaultResolver (parent : TypeExpr) (field : String) : String :=
  field ++ (": (parent: " ++ (parent.render ++ (") => parent." ++ field ++ ",\n")))

/-- The text of a declaration behind its keyword. -/
def Declaration.body (depth : Nat) : Declaration → String
  | .interface name members =>
      name ++ (" \x7b\n" ++
        (String.join (members.map fun m => indentation (depth + 1) ++ (m.render ++ ";\n")) ++
          (indentation depth ++ "\x7d\n")))
  | .typeAlias name type => name ++ (" = " ++ (type.render ++ ";\n"))
  | .defaultResolvers parent fields =>
      String.join (fields.map fun f => indentation (depth + 1) ++ defaultResolver parent f) ++
        (indentation depth ++ "\x7d;\n")

theorem Declaration.render_eq (depth : Nat) (declaration : Declaration) :
    declaration.render depth =
      indentation depth ++ ("export " ++ (declaration.keyword ++ declaration.body depth)) := by
  cases declaration with
  | interface name members =>
      have hopen : "export interface " = "export " ++ "interface " := rfl
      have hbrace : " \x7b\n" = " \x7b" ++ "\n" := rfl
      have hmember : ";\n" = ";" ++ "\n" := rfl
      have hclose : "\x7d\n" = "\x7d" ++ "\n" := rfl
      simp only [render, keyword, body, line, indentation, hopen, hbrace, hmember, hclose,
        String.append_assoc]
  | typeAlias name type =>
      have hopen : "export type " = "export " ++ "type " := rfl
      have hend : ";\n" = ";" ++ "\n" := rfl
      simp only [render, keyword, body, line, indentation, hopen, hend, String.append_assoc]
  | defaultResolvers parent fields =>
      have hopen : "export const defaultResolvers = \x7b" =
        "export " ++ "const defaultResolvers = \x7b" := rfl
      have hbrace : "const defaultResolvers = \x7b\n" =
        "const defaultResolvers = \x7b" ++ "\n" := rfl
      have hfield : ",\n" = "," ++ "\n" := rfl
      have hclose : "\x7d;\n" = "\x7d;" ++ "\n" := rfl
      simp only [render, keyword, body, line, indentation, defaultResolver, hopen, hbrace, hfield,
        hclose, String.append_assoc]

/-- The text of a group behind its keyword. -/
def Group.body (group : Group) : String :=
  group.namespaceName ++ (" \x7b\n" ++
    (String.join (group.declarations.map fun d =>
      indentation 1 ++ "export " ++ (d.keyword ++ d.body 1)) ++ "\x7d\n"))

theorem Group.render_eq (group : Group) : group.render = "export namespace " ++ group.body := by
  have hblanks : String.ofList (List.replicate (2 * 0) ' ') = "" := rfl
  have hopen : " \x7b\n" = " \x7b" ++ "\n" := rfl
  have hclose : "\x7d\n" = "\x7d" ++ "\n" := rfl
  simp only [render, body, line, Declaration.render_eq, hblanks, hopen, hclose, String.empty_append,
    String.append_assoc]

/-- The text of an import behind its keyword. -/
def Import.body (imported : Import) : String :=
  ", ".intercalate imported.names ++ (" \x7d from \"" ++ (imported.module ++ "\";\n"))

theorem Import.render_eq (imported : Import) :
    imported.render ++ "\n" = "import \x7b " ++ imported.body := by
  have hend : "\";\n" = "\";" ++ "\n" := rfl
  simp only [render, body, hend, String.append_assoc]

theorem intercalate_cons (separator first : String) (others : List String) :
    separator.intercalate (first :: others) =
      first ++ String.join (others.map fun other => separator ++ other) := by
  induction others generalizing first with
  | nil => simp
  | cons other others ih =>
      rw [String.intercalate_cons_cons, ih, List.map_cons, String.join_cons]
      simp only [String.append_assoc]

namespace TextReader

/-! ### The readers -/

/-- Reads a member of an interface to the end of its line. -/
def memberLine : TextReader (Member TypeExpr) := do
  let m ← member type
  expect ";\n"
  return m

/-- Reads an interface behind its keyword. -/
def interface (depth : Nat) : TextReader Declaration := do
  let name ← word
  expect " \x7b\n"
  let members ← many (indentation (depth + 1)) memberLine
  expect (indentation depth ++ "\x7d\n")
  return .interface name members

/-- Reads a type alias behind its keyword. -/
def typeAlias : TextReader Declaration := do
  let name ← word
  expect " = "
  let value ← type
  expect ";\n"
  return .typeAlias name value

/-- Reads a default resolver to the end of its line, as the type of its parent and its field. -/
def resolverLine : TextReader (TypeExpr × String) := do
  let field ← word
  expect ": (parent: "
  let parent ← type
  expect (") => parent." ++ field ++ ",\n")
  return (parent, field)

/-- Reads default resolvers behind their keyword. -/
def defaultResolvers (depth : Nat) : TextReader Declaration := do
  let resolvers ← many (indentation (depth + 1)) resolverLine
  expect (indentation depth ++ "\x7d;\n")
  match resolvers with
  | [] => failure
  | (parent, field) :: others =>
      return .defaultResolvers parent (field :: others.map (·.2))

/-- Reads a declaration behind `export`. -/
def declaration (depth : Nat) : TextReader Declaration := do
  if ← accepts "interface " then interface depth
  else if ← accepts "type " then typeAlias
  else
    expect "const defaultResolvers = \x7b\n"
    defaultResolvers depth

/-- Reads a group behind its keyword. -/
def group : TextReader Group := do
  let name ← word
  expect " \x7b\n"
  let declarations ← many (indentation 1 ++ "export ") (declaration 1)
  expect "\x7d\n"
  return ⟨String.ofList (name.toList.take (name.length - "Resolvers".length)), declarations⟩

/-- Reads an import behind its keyword. -/
def imported : TextReader Import := do
  let names ← separated ", " word
  expect " \x7d from \""
  let module ← upTo '"'
  expect "\";\n"
  return ⟨names, module⟩

/-- Reads the interfaces at the level of the module, and the groups that stand between them. -/
def sections : TextReader (List Declaration × List Group) := do
  let inputs ← many "\nexport interface " (interface 0)
  let groups ← many "\nexport namespace " group
  let others ← many "\nexport interface " (interface 0)
  return (inputs ++ others, groups)

/-- Reads a document. -/
def document : TextReader Document := do
  expect Document.banner
  expect "\n"
  let imports ← many "import \x7b " imported
  let enums ← many "\nexport type " typeAlias
  let (interfaces, groups) ← sections
  match interfaces.getLast? with
  | none => failure
  | some aggregate =>
      return { imports, enums, sharedInputs := interfaces.dropLast, groups, aggregate }

end TextReader

/-- Reads a text as a document. -/
def Document.read (text : String) : Option Document :=
  match TextReader.document.run text.toList with
  | some (document, []) => some document
  | _ => none

namespace TextReader

/-! ### What the readers read -/

section

variable {rest : List Char}

/-- A line at a depth does not begin like one that is deeper. -/
theorem not_isPrefixOf_indentation (depth : Nat) (text : String) {c : Char} {cs : List Char}
    (ht : text.toList = c :: cs) (hc : c ≠ ' ') :
    (indentation (depth + 1)).toList.isPrefixOf ((indentation depth ++ text).toList ++ rest) =
      false := by
  rw [Bool.eq_false_iff, ne_eq, List.isPrefixOf_iff_prefix]
  have hdeeper : (indentation (depth + 1)).toList = (indentation depth).toList ++ [' ', ' '] := by
    rw [indentation, indentation, String.toList_ofList, String.toList_ofList, Nat.mul_add,
      List.replicate_add]
    rfl
  rw [hdeeper, String.toList_append, List.append_assoc, List.prefix_append_right_inj, ht,
    List.cons_append, List.cons_prefix_cons]
  exact fun h => hc h.1.symm

theorem indentation_ne_empty (depth : Nat) : indentation (depth + 1) ≠ "" := by
  intro h
  have hlist := congrArg String.toList h
  rw [indentation, String.toList_ofList, Nat.mul_add] at hlist
  cases hlist

theorem memberLine_run {m : Member TypeExpr} (hn : IsIdentifier m.name)
    (ht : m.type.WellFormed IsWord) :
    memberLine.run ((m.render ++ ";\n").toList ++ rest) = some (m, rest) := by
  rw [String.toList_append, List.append_assoc, memberLine,
    bind_run (member_run hn.isWord (type_run ht ⟨⟨rfl, rfl⟩, rfl⟩)), bind_run expect_run]
  rfl

theorem interface_run {depth : Nat} {name : String} {members : List (Member TypeExpr)}
    (h : (Declaration.interface name members).WellFormed IsWord) :
    (interface depth).run (((Declaration.interface name members).body depth).toList ++ rest) =
      some (.interface name members, rest) := by
  obtain ⟨hname, hmembers⟩ := h
  simp only [Declaration.body]
  rw [String.toList_append, String.toList_append, String.toList_append, List.append_assoc,
    List.append_assoc, List.append_assoc, interface, bind_run (word_run hname.isWord rfl),
    bind_run expect_run, bind_run (many_run (fun _ => True) (indentation_ne_empty depth)
      (fun _ => trivial) (fun m hm _ _ => memberLine_run (hmembers m hm).1 (hmembers m hm).2)
      trivial (not_isPrefixOf_indentation depth _ rfl (by decide))),
    bind_run expect_run]
  rfl

theorem typeAlias_run {depth : Nat} {name : String} {value : TypeExpr}
    (h : (Declaration.typeAlias name value).WellFormed IsWord) :
    typeAlias.run (((Declaration.typeAlias name value).body depth).toList ++ rest) =
      some (.typeAlias name value, rest) := by
  simp only [Declaration.body, String.toList_append, List.append_assoc]
  rw [typeAlias, bind_run (word_run h.1.isWord rfl), bind_run expect_run,
    bind_run (type_run h.2 ⟨⟨rfl, rfl⟩, rfl⟩), bind_run expect_run]
  rfl

theorem resolverLine_run {parent : TypeExpr} {field : String} (hp : parent.WellFormed IsWord)
    (hf : IsIdentifier field) :
    resolverLine.run ((defaultResolver parent field).toList ++ rest) =
      some ((parent, field), rest) := by
  have hend : EndsType ((") => parent." ++ field ++ ",\n").toList ++ rest) := by
    rw [String.toList_append, String.toList_append, List.append_assoc, List.append_assoc]
    exact ⟨⟨rfl, rfl⟩, rfl⟩
  rw [defaultResolver, String.toList_append, String.toList_append, String.toList_append,
    List.append_assoc, List.append_assoc, List.append_assoc, resolverLine,
    bind_run (word_run hf.isWord rfl), bind_run expect_run, bind_run (type_run hp hend),
    bind_run expect_run]
  rfl

theorem defaultResolvers_run {depth : Nat} {parent : TypeExpr} {fields : List String}
    (h : (Declaration.defaultResolvers parent fields).WellFormed IsWord) :
    (defaultResolvers depth).run
      (((Declaration.defaultResolvers parent fields).body depth).toList ++ rest) =
        some (.defaultResolvers parent fields, rest) := by
  obtain ⟨hparent, hne, hfields⟩ := h
  have hlines : fields.map (fun f => indentation (depth + 1) ++ defaultResolver parent f) =
      (fields.map (parent, ·)).map fun r => indentation (depth + 1) ++ defaultResolver r.1 r.2 := by
    rw [List.map_map]
    rfl
  have hline (r : TypeExpr × String) (hr : r ∈ fields.map (parent, ·)) (rest : List Char)
      (_ : True) :
      resolverLine.run ((defaultResolver r.1 r.2).toList ++ rest) = some (r, rest) := by
    obtain ⟨f, hf, rfl⟩ := List.mem_map.mp hr
    exact resolverLine_run hparent (hfields f hf)
  rw [Declaration.body, hlines, String.toList_append, List.append_assoc, defaultResolvers,
    bind_run (many_run (fun _ => True) (indentation_ne_empty depth) (fun _ => trivial) hline
      trivial (not_isPrefixOf_indentation depth _ rfl (by decide))), bind_run expect_run]
  cases fields with
  | nil => exact absurd rfl hne
  | cons f fields =>
      have hsnd : (fields.map (parent, ·)).map (·.2) = fields := by
        rw [List.map_map]
        exact List.map_id _
      simp only [List.map_cons, hsnd]
      rfl

theorem declaration_run {depth : Nat} {d : Declaration} (h : d.WellFormed IsWord) :
    (declaration depth).run ((d.keyword ++ d.body depth).toList ++ rest) = some (d, rest) := by
  rw [String.toList_append, List.append_assoc]
  cases d with
  | interface name members =>
      rw [Declaration.keyword, declaration, bind_run accepts_run, if_pos rfl, interface_run h]
  | typeAlias name value =>
      rw [Declaration.keyword, declaration, bind_run (accepts_run_of_not_isPrefixOf rfl),
        if_neg Bool.false_ne_true, bind_run accepts_run, if_pos rfl, typeAlias_run h]
  | defaultResolvers parent fields =>
      rw [Declaration.keyword, declaration, bind_run (accepts_run_of_not_isPrefixOf rfl),
        if_neg Bool.false_ne_true, bind_run (accepts_run_of_not_isPrefixOf rfl),
        if_neg Bool.false_ne_true, bind_run expect_run, defaultResolvers_run h]

theorem group_run {g : Group} (h : g.WellFormed IsWord) :
    group.run (g.body.toList ++ rest) = some (g, rest) := by
  obtain ⟨hname, hdeclarations⟩ := h
  obtain ⟨typeName, declarations⟩ := g
  have hword : IsWord (typeName ++ "Resolvers") := hname.isWord.append (by decide)
  have htake : String.ofList ((typeName ++ "Resolvers").toList.take
      ((typeName ++ "Resolvers").length - "Resolvers".length)) = typeName := by
    rw [String.length_append, Nat.add_sub_cancel, String.toList_append, ← String.length_toList,
      List.take_left, String.ofList_toList]
  have hstart : indentation 1 ++ "export " ≠ "" := by decide
  rw [Group.body, String.toList_append, String.toList_append, String.toList_append,
    List.append_assoc, List.append_assoc, List.append_assoc, group, Group.namespaceName,
    namespaceName, bind_run (word_run hword rfl), bind_run expect_run,
    bind_run (many_run (fun _ => True) hstart (fun _ => trivial)
      (fun d hd _ _ => declaration_run (hdeclarations d hd)) trivial rfl),
    bind_run expect_run, htake]
  rfl

theorem imported_run {i : Import} (h : i.WellFormed) :
    imported.run (i.body.toList ++ rest) = some (i, rest) := by
  obtain ⟨hne, hnames, hmodule⟩ := h
  obtain ⟨names, module⟩ := i
  obtain ⟨name, names, rfl⟩ := List.exists_cons_of_ne_nil hne
  have hquote : "\";\n".toList ++ rest = '"' :: (";\n".toList ++ rest) := rfl
  rw [Import.body, String.toList_append, String.toList_append, String.toList_append,
    List.append_assoc, List.append_assoc, List.append_assoc, imported, intercalate_cons,
    bind_run (separated_run (fun rest => endsWord rest = true) (by decide) (fun _ => rfl)
      (fun n hn _ hr => word_run (hnames n hn).isWord hr) rfl rfl), bind_run expect_run,
    hquote, bind_run (upTo_run hmodule), ← hquote, bind_run expect_run]
  rfl

/-! ### The round trip -/

theorem typeAlias_run_of_eq {d : Declaration} (hd : ∃ name type, d = .typeAlias name type)
    (h : d.WellFormed IsWord) : typeAlias.run ((d.body 0).toList ++ rest) = some (d, rest) := by
  obtain ⟨name, value, rfl⟩ := hd
  exact typeAlias_run h

theorem interface_run_of_eq {d : Declaration} (hd : ∃ name members, d = .interface name members)
    (h : d.WellFormed IsWord) :
    (interface 0).run ((d.body 0).toList ++ rest) = some (d, rest) := by
  obtain ⟨name, members, rfl⟩ := hd
  exact interface_run h

end

end TextReader

section

/-- The text of declarations of one keyword at the level of the module. -/
theorem join_render_eq {keyword : String} {declarations : List Declaration}
    (h : ∀ d ∈ declarations, d.keyword = keyword) :
    String.join (declarations.map fun d => "\n" ++ d.render 0) =
      String.join (declarations.map fun d => "\nexport " ++ keyword ++ d.body 0) := by
  have hmap : declarations.map (fun d => "\n" ++ d.render 0) =
      declarations.map fun d => "\nexport " ++ keyword ++ d.body 0 := by
    refine List.map_congr_left fun d hd => ?_
    have hindentation : indentation 0 = "" := rfl
    have hexport : "\nexport " = "\n" ++ "export " := rfl
    rw [Declaration.render_eq, h d hd, hindentation, String.empty_append, hexport]
    simp only [String.append_assoc]
  rw [hmap]

variable {document : Document}

/-- The text of the shared inputs, of the groups and of the aggregate. -/
def Document.sections (document : Document) : String :=
  String.join (document.sharedInputs.map fun d => "\nexport interface " ++ d.body 0) ++
    (String.join (document.groups.map fun g => "\nexport namespace " ++ g.body) ++
      String.join ([document.aggregate].map fun d => "\nexport interface " ++ d.body 0))

/-- The text of a document as the texts of its parts, each behind what it begins with. -/
theorem Document.render_eq (h : document.WellFormed IsWord) : document.render =
    banner ++ "\n" ++
      (String.join (document.imports.map fun i => "import \x7b " ++ i.body) ++
        (String.join (document.enums.map fun d => "\nexport type " ++ d.body 0) ++
          document.sections)) := by
  have himports : document.imports.map (fun i => i.render ++ "\n") =
      document.imports.map fun i => "import \x7b " ++ i.body :=
    List.map_congr_left fun i _ => i.render_eq
  have henums := join_render_eq fun d hd => keyword_typeAlias (h.enums d hd).1
  have hinputs := join_render_eq fun d hd => keyword_interface (h.sharedInputs d hd).1
  have hgroups : document.groups.map (fun g => "\n" ++ g.render) =
      document.groups.map fun g => "\nexport namespace " ++ g.body := by
    have hopen : "\nexport namespace " = "\n" ++ "export namespace " := rfl
    refine List.map_congr_left fun g _ => ?_
    rw [Group.render_eq, hopen, String.append_assoc]
  have haggregate : "\n" ++ document.aggregate.render 0 = String.join
      ([document.aggregate].map fun d => "\nexport interface " ++ d.body 0) := by
    have hkeyword : ∀ d ∈ [document.aggregate], d.keyword = "interface " :=
      fun d hd => List.mem_singleton.mp hd ▸ keyword_interface h.aggregate.1
    simpa using join_render_eq hkeyword
  have htype : "\nexport " ++ "type " = "\nexport type " := rfl
  have hinterface : "\nexport " ++ "interface " = "\nexport interface " := rfl
  rw [htype] at henums
  rw [hinterface] at hinputs
  rw [render, sections, himports, List.map_append, String.join_append, henums, hinputs, hgroups]
  simp only [String.append_assoc, haggregate]

namespace TextReader

theorem interfaces_run {declarations : List Declaration}
    (hd : ∀ d ∈ declarations, (∃ name members, d = .interface name members) ∧ d.WellFormed IsWord)
    {rest : List Char}
    (hr : "\nexport interface ".toList.isPrefixOf rest = false) :
    (many "\nexport interface " (interface 0)).run
      ((String.join (declarations.map fun d => "\nexport interface " ++ d.body 0)).toList ++ rest) =
        some (declarations, rest) :=
  many_run (fun _ => True) (by decide) (fun _ => trivial)
    (fun d h _ _ => interface_run_of_eq (hd d h).1 (hd d h).2) trivial hr

theorem imports_run (h : document.WellFormed IsWord) {rest : List Char}
    (hr : "import \x7b ".toList.isPrefixOf rest = false) :
    (many "import \x7b " imported).run
      ((String.join (document.imports.map fun i => "import \x7b " ++ i.body)).toList ++ rest) =
        some (document.imports, rest) :=
  many_run (fun _ => True) (by decide) (fun _ => trivial)
    (fun i hi _ _ => imported_run (h.imports i hi)) trivial hr

theorem enums_run (h : document.WellFormed IsWord) {rest : List Char}
    (hr : "\nexport type ".toList.isPrefixOf rest = false) :
    (many "\nexport type " typeAlias).run
      ((String.join (document.enums.map fun d => "\nexport type " ++ d.body 0)).toList ++ rest) =
        some (document.enums, rest) :=
  many_run (fun _ => True) (by decide) (fun _ => trivial)
    (fun d hd _ _ => typeAlias_run_of_eq (h.enums d hd).1 (h.enums d hd).2) trivial hr

theorem groups_run (h : document.WellFormed IsWord) {rest : List Char}
    (hr : "\nexport namespace ".toList.isPrefixOf rest = false) :
    (many "\nexport namespace " group).run
      ((String.join (document.groups.map fun g => "\nexport namespace " ++ g.body)).toList ++
        rest) = some (document.groups, rest) :=
  many_run (fun _ => True) (by decide) (fun _ => trivial)
    (fun g hg _ _ => group_run (h.groups g hg)) trivial hr

/-- What begins no interface does not begin the aggregate. -/
theorem not_isPrefixOf_aggregate {text : String}
    (hi : ∀ rest, text.toList.isPrefixOf ("\nexport interface ".toList ++ rest) = false) :
    text.toList.isPrefixOf (String.join
      ([document.aggregate].map fun d => "\nexport interface " ++ d.body 0)).toList = false := by
  rw [List.map_singleton, String.join_cons, String.toList_append, String.toList_append,
    List.append_assoc]
  exact hi _

/-- What begins neither an interface nor a namespace does not begin the rest of a document. -/
theorem not_isPrefixOf_sections {text : String}
    (hi : ∀ rest, text.toList.isPrefixOf ("\nexport interface ".toList ++ rest) = false)
    (hn : ∀ rest, text.toList.isPrefixOf ("\nexport namespace ".toList ++ rest) = false) :
    text.toList.isPrefixOf document.sections.toList = false := by
  rw [Document.sections, String.toList_append, String.toList_append]
  exact ends_join (fun rest => text.toList.isPrefixOf rest = false) hi
    (ends_join (fun rest => text.toList.isPrefixOf rest = false) hn
      (not_isPrefixOf_aggregate hi) _) _

/-- The interfaces are read off with the groups between them.  Without groups the aggregate is read
together with the shared inputs. -/
theorem sections_run (h : document.WellFormed IsWord) : sections.run document.sections.toList =
    some ((document.sharedInputs ++ [document.aggregate], document.groups), []) := by
  have haggregate : ∀ d ∈ [document.aggregate],
      (∃ name members, d = .interface name members) ∧ d.WellFormed IsWord :=
    fun d hd => List.mem_singleton.mp hd ▸ h.aggregate
  have hnone : "\nexport interface ".toList.isPrefixOf [] = false := rfl
  by_cases hg : document.groups = []
  · -- nothing stands between the shared inputs and the aggregate
    have hall : ∀ d ∈ document.sharedInputs ++ [document.aggregate],
        (∃ name members, d = .interface name members) ∧ d.WellFormed IsWord := by
      intro d hd
      rcases List.mem_append.mp hd with hd | hd
      · exact h.sharedInputs d hd
      · exact haggregate d hd
    have hinterfaces := interfaces_run hall hnone
    rw [List.append_nil] at hinterfaces
    rw [Document.sections, hg, List.map_nil, String.join_nil, String.empty_append,
      ← String.join_append, ← List.map_append, sections, bind_run hinterfaces,
      bind_run (many_run_nil rfl), bind_run (many_run_nil rfl)]
    simp
  · -- the first namespace ends the shared inputs
    obtain ⟨g, groups, hg⟩ := List.exists_cons_of_ne_nil hg
    have hlast := interfaces_run haggregate hnone
    rw [List.append_nil] at hlast
    have hbetween (rest : List Char) : "\nexport interface ".toList.isPrefixOf
        ((String.join (document.groups.map fun g => "\nexport namespace " ++ g.body)).toList ++
          rest) = false := by
      rw [hg, List.map_cons, String.join_cons, String.toList_append, String.toList_append,
        List.append_assoc, List.append_assoc]
      rfl
    rw [Document.sections, String.toList_append, String.toList_append, sections,
      bind_run (interfaces_run h.sharedInputs (hbetween _)),
      bind_run (groups_run h (not_isPrefixOf_aggregate fun _ => rfl)), bind_run hlast]
    rfl

theorem document_run (h : document.WellFormed IsWord) :
    TextReader.document.run document.render.toList = some (document, []) := by
  have henums : "\nexport type ".toList.isPrefixOf document.sections.toList = false :=
    not_isPrefixOf_sections (fun _ => rfl) fun _ => rfl
  have himports : "import \x7b ".toList.isPrefixOf
      ((String.join (document.enums.map fun d => "\nexport type " ++ d.body 0)).toList ++
        document.sections.toList) = false :=
    ends_join (fun rest => "import \x7b ".toList.isPrefixOf rest = false) (fun _ => rfl)
      (not_isPrefixOf_sections (fun _ => rfl) fun _ => rfl) _
  rw [Document.render_eq h, String.toList_append, String.toList_append, String.toList_append,
    String.toList_append, List.append_assoc, TextReader.document, bind_run expect_run,
    bind_run expect_run, bind_run (imports_run h himports), bind_run (enums_run h henums),
    bind_run (sections_run h)]
  simp

end TextReader

/-- The text of a well-formed document is read as that document. -/
theorem Document.read_render (h : document.WellFormed IsWord) :
    read document.render = some document := by
  rw [read, TextReader.document_run h]

/-- Well-formed documents with the same text are the same. -/
theorem Document.render_injective {a b : Document} (ha : a.WellFormed IsWord)
    (hb : b.WellFormed IsWord) (h : a.render = b.render) : a = b := by
  have hread := read_render ha
  rw [h, read_render hb] at hread
  exact (Option.some.inj hread).symm

end

end ResolverTypes.TypeScript
