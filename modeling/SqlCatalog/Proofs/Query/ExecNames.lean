import SqlCatalog.Proofs.Query.Catalogue
import SqlCatalog.Proofs.Query.ProcedureCalls
import SqlCatalog.Proofs.Text.LetterCase

/-!
# Names in a Call by Name

SQL Server takes the arguments of a procedure by name, so the names of parameters stand in the
text of the call. They are spelled as the catalogue declares them, and a declared name is never
checked against the grammar. It is only compared with the name of an argument, which is checked,
and both are put in lower case for it.

That is nearly enough. What is a name in lower case was one before, since hardly any character
outside ASCII moves into it. The exception is the Kelvin sign, whose lower case is the letter
that it looks like. A declared name may hold it wherever the argument has a K, and then it goes
into the call as it is.

## Theorems

* `Identifier.isName_of_lowercase_eq`: What is a name in lower case is one but for Kelvin signs.
* `names_of_callProcedure`: The names that a call by name writes.
* `kelvin_in_call`: One of them is no name.
-/

namespace SqlCatalog

namespace Identifier

/-- A text in ASCII that differs from a name in case only is a name. -/
theorem isName_of_toLower_eq {s t : List Char} (hascii : ∀ c ∈ s, c.toNat < 0x80)
    (ht : isName t = true) (h : s.map Char.toLower = t.map Char.toLower) : isName s = true := by
  have hlength : s.length = t.length := by simpa using congrArg List.length h
  have hchars : s.all isNameChar = true := by
    rw [List.all_eq_true]
    intro c hc
    have hmem : c.toLower ∈ t.map Char.toLower := h ▸ List.mem_map_of_mem hc
    obtain ⟨d, hd, hlower⟩ := List.mem_map.mp hmem
    have hname := isNameChar_of_isName ht d hd
    rwa [← isNameChar_toLower (ascii_of_isNameChar hname), hlower,
      isNameChar_toLower (hascii c hc)] at hname
  simp only [isName, Bool.and_eq_true, Bool.not_eq_true', List.isEmpty_eq_false_iff,
    decide_eq_true_eq, ← List.length_pos_iff] at ht ⊢
  exact ⟨⟨hlength ▸ ht.1.1, hlength ▸ ht.1.2⟩, hchars⟩

/-- A text that is a name in lower case is a name but for its Kelvin signs. -/
theorem isName_of_lowercase_eq {n m : String} (hm : isName m.toList = true)
    (h : Text.lowercase m = Text.lowercase n) :
    isName (n.toList.map Text.plainKelvin) = true := by
  have hlower : Text.lower m.toList = Text.lower n.toList := String.ofList_injective h
  have hsmall := lower_of_isNameChar (isNameChar_of_isName hm)
  have hascii : ∀ d ∈ Text.lower n.toList, d.toNat < 0x80 := by
    rw [← hlower, hsmall, List.forall_mem_map]
    intro c hc
    have hname := isNameChar_of_isName hm c hc
    exact ascii_of_isNameChar ((isNameChar_toLower (ascii_of_isNameChar hname)).trans hname)
  obtain ⟨hplain, hletters⟩ := Text.ascii_of_lower hascii
  refine isName_of_toLower_eq (List.forall_mem_map.mpr hplain) hm ?_
  rw [← hsmall, hlower, hletters, List.map_map]
  rfl

/-- Such a text is a name if and only if it has no Kelvin sign. -/
theorem isName_iff_not_mem {s : List Char} (h : isName (s.map Text.plainKelvin) = true) :
    isName s = true ↔ Text.kelvinSign ∉ s := by
  constructor
  · intro hname hmem
    exact absurd (isNameChar_of_isName hname _ hmem) (by decide)
  · intro hmem
    have hsame : s.map Text.plainKelvin = s := by
      refine (List.map_congr_left fun c hc => ?_).trans (List.map_id s)
      exact Text.plainKelvin_of_ne (ne_of_mem_of_not_mem hc hmem)
    rwa [hsame] at h

end Identifier

theorem isName_of_callArguments {entries : List (Value × Value)} {given : CallArguments}
    (h : Build.callArguments entries = .ok given) :
    ∀ a ∈ given, Identifier.isName a.1.toList = true := by
  intro a ha
  obtain ⟨⟨k, v⟩, -, hread⟩ := exists_of_mapM h a ha
  obtain ⟨name, hname, hread⟩ := ok_of_bind hread
  rw [← Except.ok.inj hread]
  exact (Identifier.isName_of_require hname).2

/-- What the query of a call on SQL Server is made of. Its arguments have names that are names in
    lower case, be they declared or given. -/
theorem eq_of_callProcedure {name schema : Value} {arguments : List (Value × Value)}
    {declared : Option (List ParameterInfo)} {q : Query}
    (h : Build.callProcedure .sqlServer name schema arguments declared = .ok (some q)) :
    ∃ (procedure checked : String) (ordered : CallArguments),
      Identifier.require name "procedure" = .ok procedure ∧
      Build.checkedSchema schema = .ok checked ∧
      q = ⟨.callProcedure, Engine.sqlServer.call (Engine.sqlServer.qualified checked procedure)
        (Engine.numbered ordered), ordered.map (·.2)⟩ ∧
      ∀ x ∈ ordered, ∃ m : String, Identifier.isName m.toList = true ∧
        Text.lowercase m = Text.lowercase x.1 := by
  obtain ⟨procedure, hprocedure, h⟩ := ok_of_bind h
  obtain ⟨checked, hchecked, h⟩ := ok_of_bind h
  obtain ⟨given, hgiven, h⟩ := ok_of_bind h
  have hnames := isName_of_callArguments hgiven
  cases declared with
  | none =>
      obtain ⟨ordered, hordered, h⟩ := ok_of_bind h
      obtain rfl := Except.ok.inj hordered
      exact ⟨procedure, checked, given, hprocedure, hchecked, eq_of_query h,
        fun x hx => ⟨x.1, hnames x hx, rfl⟩⟩
  | some parameters =>
      obtain ⟨ordered, hordered, h⟩ := ok_of_bind h
      refine ⟨procedure, checked, ordered, hprocedure, hchecked, eq_of_query h, fun x hx => ?_⟩
      obtain ⟨a, ha, hlower⟩ := exists_given_of_orderArguments hordered x hx
      exact ⟨a.1, hnames a ha, hlower⟩

/-- Whenever there is a query for the call of a procedure on SQL Server, its text is the quoted
    name of the procedure behind its schema, and a list of parameters with their markers. The
    name of a parameter is a name but for its Kelvin signs, so it is a name if and only if it
    has none. -/
theorem names_of_callProcedure {name schema : Value} {arguments : List (Value × Value)}
    {declared : Option (List ParameterInfo)} {q : Query}
    (h : Build.callProcedure .sqlServer name schema arguments declared = .ok (some q)) :
    ∃ (procedure checked : String) (names : List String),
      name = .text procedure ∧ Identifier.isName procedure.toList = true ∧
      Build.checkedSchema schema = .ok checked ∧ Identifier.IsSchema checked ∧
      q.sql .sqlServer = Engine.sqlServer.callText
        (Engine.sqlServer.qualifiedText checked procedure) names ∧
      names.length = q.args.length ∧
      ∀ n ∈ names, Identifier.isName (n.toList.map Text.plainKelvin) = true ∧
        (Identifier.isName n.toList = true ↔ Text.kelvinSign ∉ n.toList) := by
  obtain ⟨procedure, checked, ordered, hprocedure, hchecked, rfl, hordered⟩ :=
    eq_of_callProcedure h
  obtain ⟨rfl, hname⟩ := Identifier.isName_of_require hprocedure
  refine ⟨procedure, checked, ordered.map (·.1), rfl, hname, hchecked,
    isSchema_of_checkedSchema hchecked, ?_, ?_, ?_⟩
  · exact Engine.render_call (by decide) checked procedure ordered
  · rw [List.length_map, List.length_map]
  · rw [List.forall_mem_map]
    intro x hx
    obtain ⟨m, hm, hlower⟩ := hordered x hx
    have hplain := Identifier.isName_of_lowercase_eq hm hlower
    exact ⟨hplain, Identifier.isName_iff_not_mem hplain⟩

/-- The parameters of a procedure without a schema are declared in another case than that of
    the arguments. -/
theorem names_of_statusCall :
    ∃ q, Build.callProcedure .sqlServer (.text "set_status") .null
        [(.text "STATUS", .text "new"), (.text "id", .int 5)]
        (some [⟨.text "@Id", .text "int", false⟩, ⟨.text "@Status", .text "varchar", false⟩]) =
          .ok (some q) ∧
      q.sql .sqlServer = "EXEC [set_status] @Id = @p1, @Status = @p2" ∧
      ∃ names : List String,
        q.sql .sqlServer = Engine.sqlServer.callText
          (Engine.sqlServer.qualifiedText "" "set_status") names ∧
        names.length = q.args.length ∧
        ∀ n ∈ names, Identifier.isName n.toList = true ↔ Text.kelvinSign ∉ n.toList := by
  obtain ⟨q, hq, hsql⟩ : ∃ q, Build.callProcedure .sqlServer (.text "set_status") .null
      [(.text "STATUS", .text "new"), (.text "id", .int 5)]
      (some [⟨.text "@Id", .text "int", false⟩, ⟨.text "@Status", .text "varchar", false⟩]) =
        .ok (some q) ∧ q.sql .sqlServer = "EXEC [set_status] @Id = @p1, @Status = @p2" :=
    ⟨_, rfl, rfl⟩
  obtain ⟨procedure, checked, names, hname, -, hchecked, -, htext, hlength, hnames⟩ :=
    names_of_callProcedure hq
  obtain rfl := Value.text.inj hname
  obtain rfl := Except.ok.inj hchecked
  exact ⟨q, hq, hsql, names, htext, hlength, fun n hn => (hnames n hn).2⟩

/-- A parameter that is declared with a Kelvin sign. -/
def kelvinParameter : ParameterInfo :=
  ⟨.text (String.ofList ['@', Text.kelvinSign]), .text "int", false⟩

/-- The name of the parameter goes into the call as it is. -/
theorem kelvin_in_call :
    ∃ q, Build.callProcedure .sqlServer (.text "p") (.text "dbo") [(.text "k", .int 1)]
        (some [kelvinParameter]) = .ok (some q) ∧
      q.sql .sqlServer =
        "EXEC [dbo].[p] @" ++ String.ofList [Text.kelvinSign] ++ " = @p1" ∧
      Identifier.isName [Text.kelvinSign] = false :=
  ⟨_, rfl, rfl, by decide⟩

end SqlCatalog
